import NullifierPir.Client.Local

/-!
# Hostile tier data

What the client does with tier data that a server chose: keys in any order, any count of ranges, any
row bytes. `processTier0` and `processTier1AndBuild` return or fail with an error, and never panic
(`client_total`): an accepted blob has one word at each offset the readers compute, the searches stay
inside the records whatever the keys are, and the sibling of an index is an index of the same level.
A proof that is returned passes the interval check, since `find_leaf` ends with it, and its position
names the queried row.
-/

namespace NullifierPir.Types
open Rust ByteString

/-- Validation fails with an error. -/
lemma validateAllFpChunks_graceful {data : Bytes} {label : String} :
    Graceful (validateAllFpChunks data label) := by
  apply Graceful.forEach
  intro i _
  have hchunk : Graceful (validateFpBytes (slice data (i * 32) 32)) :=
    .bind .ensure fun _ _ => .ensure
  rcases hchunk with ⟨_, h⟩ | ⟨msg, h⟩
  · rw [h]
    exact .ok
  · rw [h]
    exact .bail

namespace Tier1Row

/-- Loading Tier 0 does not panic. -/
lemma fromLayout_graceful {l : PirLayout} (sup : l.Supported) {data : Bytes} :
    Graceful (fromLayout data l) := by
  rw [fromLayout, sup.validateSplit_eq, sup.tier1Leaves_eq, sup.tier1RowBytes_eq]
  simp only [ok_bind]
  exact .bind .ensure fun _ _ => .bind validateAllFpChunks_graceful fun _ _ => .ok

/-- Whatever the keys, a leaf that is found is a valid one whose range contains the value. -/
lemma findLeaf_range {l : PirLayout} {recs : List PuncturedRange} {v : Fp} {validLeaves : Nat}
    (hvalid : validLeaves ≤ recs.length) :
    ∃ found, (ofRanges l recs).findLeaf v validLeaves = .ok found ∧
      ∀ i, found = some i → ∃ h : i < recs.length, intervalCheck recs[i] v = true := by
  refine ⟨_, @findLeaf_ofRanges l recs v validLeaves (fun i => (recs.getD i ⟨0, 0, 0⟩).lo) hvalid
    ?_, ?_⟩
  · intro i hi
    rw [List.getD_eq_getElem _ _ hi]
  · intro i hi
    simp only [] at hi
    split at hi
    · cases hi
    · obtain ⟨r, hr, hcheck⟩ := Option.bind_eq_some_iff.mp hi
      obtain ⟨hlt, rfl⟩ := List.getElem?_eq_some_iff.mp hr
      split at hcheck
      · rename_i hin
        cases hcheck
        exact ⟨hlt, hin⟩
      · cases hcheck

end Tier1Row

namespace Tier0Data

variable {l : PirLayout} {nodes : List Fp} {records : List (Fp × Fp)}

/-- Whatever the keys, the search names a subtree or none. -/
lemma findSubtree_range (fills : Fills l nodes records) {v : Fp} :
    ∃ found, (ofParts l nodes records).findSubtree v = .ok found ∧
      ∀ s, found = some s → s < 2 ^ l.tier0Layers := by
  refine ⟨_, @findSubtree_ofParts l nodes records fills v (fun i => (records.getD i (0, 0)).2) ?_,
    ?_⟩
  · intro i hi
    rw [List.getD_eq_getElem _ _ hi]
  · intro s hs
    have hbound := (@Search.upperBound_bounds
      (fun i => decide ((records.getD i (0, 0)).2 ≤ v)) 0 (2 ^ l.tier0Layers) (Nat.zero_le _)).2
    simp only [] at hs
    split at hs
    · cases hs
    · cases hs
      omega

/-- The siblings of a subtree can be read, one a layer. -/
lemma extractSiblings_length (sup : l.Supported) (fills : Fills l nodes records) {s : Nat}
    (hs : s < 2 ^ l.tier0Layers) :
    ∃ siblings, (ofParts l nodes records).extractSiblings s = .ok siblings ∧
      siblings.length = l.tier0Layers := by
  have h0 := sup.tier0.1
  have hsib : s ^^^ 1 < records.length := by
    rw [fills.records]
    exact Nat.xor_lt_two_pow hs (Nat.one_lt_two_pow (by omega))
  have hupper : (List.range (l.tier0Layers - 1)).mapM (fun k =>
      (ofParts l nodes records).nodeAt (l.tier0Layers - 1 - k) ((s / 2 ^ (k + 1)) ^^^ 1)) =
      .ok ((List.range (l.tier0Layers - 1)).map fun k =>
        nodes.getD (2 ^ (l.tier0Layers - 1 - k) - 1 + ((s / 2 ^ (k + 1)) ^^^ 1)) 0) := by
    apply mapM_eq_ok
    intro k hk
    have hk := List.mem_range.mp hk
    -- the sibling is one of the `2 ^ depth` nodes of its depth
    have hpos : s / 2 ^ (k + 1) < 2 ^ (l.tier0Layers - 1 - k) := by
      rw [Nat.div_lt_iff_lt_mul (Nat.two_pow_pos _), ← Nat.pow_add,
        show l.tier0Layers - 1 - k + (k + 1) = l.tier0Layers by omega]
      exact hs
    have hflip : (s / 2 ^ (k + 1)) ^^^ 1 < 2 ^ (l.tier0Layers - 1 - k) :=
      Nat.xor_lt_two_pow hpos (Nat.one_lt_two_pow (by omega))
    have hdepth : 2 * 2 ^ (l.tier0Layers - 1 - k) ≤ 2 ^ l.tier0Layers := by
      rw [← Nat.pow_succ']
      exact Nat.pow_le_pow_right (by decide) (by omega)
    have hlt : 2 ^ (l.tier0Layers - 1 - k) - 1 + ((s / 2 ^ (k + 1)) ^^^ 1) < nodes.length := by
      rw [fills.nodes]
      omega
    rw [nodeAt_ofParts hlt, List.getD_eq_getElem _ _ hlt]
  have hread : (ofParts l nodes records).extractSiblings s =
      .ok (records[s ^^^ 1].1 :: (List.range (l.tier0Layers - 1)).map fun k =>
        nodes.getD (2 ^ (l.tier0Layers - 1 - k) - 1 + ((s / 2 ^ (k + 1)) ^^^ 1)) 0) := by
    rw [extractSiblings, subtreeRecord_ofParts fills hsib]
    simp only [ok_bind]
    rw [show (ofParts l nodes records).layers = l.tier0Layers from rfl, hupper]
    rfl
  refine ⟨_, hread, ?_⟩
  rw [List.length_cons, List.length_map, List.length_range]
  omega

end Tier0Data

end NullifierPir.Types

namespace NullifierPir.Client
open Rust ByteString Imt NullifierPir.Types Export

/-- Siblings that fit the path are written into it. -/
lemma fillPath_ok {path : Vector Fp TREE_DEPTH} {offset : Nat} {siblings : List Fp}
    (h : offset + siblings.length ≤ TREE_DEPTH) :
    ∃ path', fillPath path offset siblings = .ok path' ∧
      ∀ k : Fin TREE_DEPTH, path'.get k =
        if offset ≤ k.val ∧ k.val < offset + siblings.length then siblings.getD (k.val - offset) 0
        else path.get k := by
  refine ⟨_, by rw [fillPath, if_pos h], ?_⟩
  intro k
  rw [Vector.get_ofFn]

variable {l : PirLayout} {v : Fp}

/-- Tier 0 ends with a subtree of the layout or with an error. -/
lemma processTier0_cases (sup : l.Supported) {nodes : List Fp} {records : List (Fp × Fp)}
    (fills : Tier0Data.Fills l nodes records) {path : Vector Fp TREE_DEPTH} :
    (∃ s path', processTier0 (Tier0Data.ofParts l nodes records) l v path = .ok (s, path') ∧
      s < 2 ^ l.tier0Layers) ∨
    ∃ msg, processTier0 (Tier0Data.ofParts l nodes records) l v path = .error (.err msg) := by
  obtain ⟨found, hfind, hrange⟩ := @Tier0Data.findSubtree_range l nodes records fills v
  have hsplit := sup.split
  have hdepth := sup.depth
  rw [processTier0, hfind]
  simp only [ok_bind]
  cases found with
  | none => exact .inr ⟨_, rfl⟩
  | some s =>
    have hs := hrange s rfl
    obtain ⟨siblings, hsib, hlen⟩ := Tier0Data.extractSiblings_length sup fills hs
    have hfits : l.pirDepth - l.tier0Layers + siblings.length ≤ TREE_DEPTH := by
      simp only [MAX_PIR_DEPTH, TREE_DEPTH] at hdepth ⊢
      omega
    obtain ⟨path', hpath, _⟩ := @fillPath_ok path _ _ hfits
    left
    refine ⟨s, path', ?_, hs⟩
    rw [checkedSub_eq (show l.tier0Layers ≤ l.pirDepth by omega)]
    simp only [ofOption_some, ok_bind, hsib, hpath]
    rfl

/-- What a returned proof satisfies, for the row it was read from. -/
structure ProofFor (l : PirLayout) (rowIdx : Nat) (nullifier : Fp)
    (emptyHashes : Vector Fp TREE_DEPTH) (proof : ImtProofData) : Prop where
  interval : intervalCheck proof.nfBounds nullifier = true
  position : proof.leafPos.toNat < 2 ^ l.pirDepth
  row : ∃ leaves, l.tier1Leaves = .ok leaves ∧ proof.leafPos.toNat / leaves = rowIdx
  padding : ∀ k : Fin TREE_DEPTH, l.pirDepth ≤ k.val → proof.path.get k = emptyHashes.get k

/-- The position of a leaf names its row and does not lose bits as a `u32`. -/
lemma leafPos_eq (sup : l.Supported) {row leaf : Nat} (hrow : row < 2 ^ l.tier0Layers)
    (hleaf : leaf < 2 ^ l.tier1Layers) :
    (UInt32.ofNat (row * 2 ^ l.tier1Layers + leaf)).toNat = row * 2 ^ l.tier1Layers + leaf ∧
      row * 2 ^ l.tier1Layers + leaf < 2 ^ l.pirDepth := by
  have hlt : row * 2 ^ l.tier1Layers + leaf < 2 ^ l.pirDepth := by
    have hnext : (row + 1) * 2 ^ l.tier1Layers ≤ 2 ^ l.tier0Layers * 2 ^ l.tier1Layers :=
      Nat.mul_le_mul_right _ hrow
    rw [Nat.succ_mul, ← Nat.pow_add, ← sup.split] at hnext
    omega
  have hmax : 2 ^ l.pirDepth ≤ 2 ^ 29 := Nat.pow_le_pow_right (by decide) sup.depth
  refine ⟨?_, hlt⟩
  rw [UInt32.toNat_ofNat', Nat.mod_eq_of_lt]
  omega

/-- Tier 1 ends with a proof for the queried row or with an error. -/
lemma processTier1AndBuild_cases (H : Hasher) (sup : l.Supported) {rowIdx numRanges : Nat}
    (hrow : rowIdx < 2 ^ l.tier0Layers) {row : Bytes} {emptyHashes path : Vector Fp TREE_DEPTH}
    {circuitRoot : Fp} :
    (∃ proof, processTier1AndBuild H ⟨row, l, rowIdx, numRanges, v, emptyHashes, circuitRoot⟩ path =
        .ok proof ∧ ProofFor l rowIdx v emptyHashes proof) ∨
    ∃ msg, processTier1AndBuild H ⟨row, l, rowIdx, numRanges, v, emptyHashes, circuitRoot⟩ path =
        .error (.err msg) := by
  have hsplit := sup.split
  have hdepth : l.pirDepth ≤ TREE_DEPTH := sup.depth
  rw [processTier1AndBuild]
  rcases @Tier1Row.fromLayout_graceful l sup row with ⟨tier1, hparse⟩ | ⟨msg, hparse⟩
  · obtain ⟨recs, full, _, rfl⟩ := Tier1Row.fromLayout_ok sup hparse
    have hvalid : validLeavesForRow numRanges rowIdx (2 ^ l.tier1Layers) ≤ recs.length := by
      rw [full]
      exact Nat.min_le_right _ _
    obtain ⟨found, hfind, hfound⟩ := @Tier1Row.findLeaf_range l recs v _ hvalid
    simp only [hparse, sup.tier1Leaves_eq, ok_bind, hfind]
    cases found with
    | none => exact .inr ⟨_, rfl⟩
    | some leaf =>
      obtain ⟨hleaf, hcheck⟩ := hfound leaf rfl
      have hleaf' : leaf < 2 ^ l.tier1Layers := full ▸ hleaf
      have hsib := @Tier1Row.extractSiblings_ofRanges l recs H leaf
        (validLeavesForRow numRanges rowIdx (2 ^ l.tier1Layers))
        (fun i => if i < validLeavesForRow numRanges rowIdx (2 ^ l.tier1Layers)
          then H.leaf (recs.getD i ⟨0, 0, 0⟩) else H.emptyLeaf) full hleaf' (by
        intro i hi
        rw [List.getD_eq_getElem _ _ hi])
      obtain ⟨path1, hpath1, _⟩ := @fillPath_ok path 0
        ((List.range l.tier1Layers).map fun k => Merkle.node H.hash
          (fun i => if i < validLeavesForRow numRanges rowIdx (2 ^ l.tier1Layers)
            then H.leaf (recs.getD i ⟨0, 0, 0⟩) else H.emptyLeaf) k ((leaf / 2 ^ k) ^^^ 1)) (by
        rw [List.length_map, List.length_range]
        omega)
      have hrest : (emptyHashes.toList.drop l.pirDepth).length = TREE_DEPTH - l.pirDepth := by
        simp
      obtain ⟨path2, hpath2, hpadding⟩ := @fillPath_ok path1 l.pirDepth
        (emptyHashes.toList.drop l.pirDepth) (by omega)
      obtain ⟨hpos, hlt⟩ := leafPos_eq sup hrow hleaf'
      have hfit : rowIdx * 2 ^ l.tier1Layers + leaf < U64 := by
        have hmax : 2 ^ l.pirDepth ≤ 2 ^ 29 := Nat.pow_le_pow_right (by decide) sup.depth
        simp only [U64]
        omega
      left
      refine ⟨⟨circuitRoot, recs[leaf], UInt32.ofNat (rowIdx * 2 ^ l.tier1Layers + leaf), path2⟩,
        ?_, ?_⟩
      · simp only [ofOption_some, ok_bind, hsib, hpath1, hpath2]
        rw [checkedMul_eq (by omega), Option.bind_some, checkedAdd_eq hfit,
          Tier1Row.leafRecord_ofRanges hleaf]
        rfl
      · constructor
        · exact hcheck
        · rw [hpos]
          exact hlt
        · refine ⟨_, sup.tier1Leaves_eq, ?_⟩
          rw [hpos, Nat.mul_comm, Nat.mul_add_div (Nat.two_pow_pos _), Nat.div_eq_of_lt hleaf',
            Nat.add_zero]
        · intro k hk
          rw [hpadding k, if_pos ⟨hk, by omega⟩]
          have hidx : l.pirDepth + (k.val - l.pirDepth) = k.val := by omega
          simp [hidx]
          rfl
  · rw [hparse]
    exact .inr ⟨msg, rfl⟩

/-- On tier data of any content the client returns or fails with an error, and what it returns is a
proof for the queried row. -/
theorem client_total (H : Hasher) {tier0Data : Bytes} {tier0 : Tier0Data} {l : PirLayout}
    (valid : l.validateSupported = .ok ()) (accepted : Tier0Data.fromLayout tier0Data l = .ok tier0)
    (nullifier : Fp) (path : Vector Fp TREE_DEPTH) :
    Graceful (processTier0 tier0 l nullifier path) ∧
    ∀ rowIdx path', processTier0 tier0 l nullifier path = .ok (rowIdx, path') →
      ∀ (row : Bytes) (numRanges : Nat) (emptyHashes : Vector Fp TREE_DEPTH) (circuitRoot : Fp),
        Graceful (processTier1AndBuild H
          ⟨row, l, rowIdx, numRanges, nullifier, emptyHashes, circuitRoot⟩ path') ∧
        ∀ proof, processTier1AndBuild H
            ⟨row, l, rowIdx, numRanges, nullifier, emptyHashes, circuitRoot⟩ path' = .ok proof →
          ProofFor l rowIdx nullifier emptyHashes proof := by
  have sup := PirLayout.validateSupported_ok valid
  obtain ⟨nodes, records, fills, _, rfl⟩ := Tier0Data.fromLayout_ok sup accepted
  rcases @processTier0_cases l nullifier sup nodes records fills path with
    ⟨s, path', hok, hs⟩ | ⟨msg, herr⟩
  · refine ⟨.inl ⟨_, hok⟩, ?_⟩
    intro rowIdx path'' hrun row numRanges emptyHashes circuitRoot
    obtain ⟨rfl, rfl⟩ := Prod.mk.inj (Except.ok.inj (hok.symm.trans hrun))
    rcases @processTier1AndBuild_cases l nullifier H sup s numRanges hs row emptyHashes path'
      circuitRoot with ⟨proof, hproof, good⟩ | ⟨msg, herr⟩
    · refine ⟨.inl ⟨proof, hproof⟩, ?_⟩
      intro proof' hproof'
      obtain rfl := Except.ok.inj (hproof.symm.trans hproof')
      exact good
    · refine ⟨.inr ⟨msg, herr⟩, ?_⟩
      intro proof hproof
      rw [herr] at hproof
      cases hproof
  · refine ⟨.inr ⟨msg, herr⟩, ?_⟩
    intro rowIdx path' hrun
    rw [herr] at hrun
    cases hrun

/-- Tier 0 with descending keys, and an empty row. -/
theorem client_total_descending_keys :
    ∃ tier0, Tier0Data.fromLayout (encodeTier0 (List.replicate 2047 0)
        ((List.range 2048).map fun i => (0, Fp.ofNat (2048 - i)))) ⟨17, 11, 6, 2048⟩ = .ok tier0 ∧
      Graceful (processTier0 tier0 ⟨17, 11, 6, 2048⟩ 5 (Vector.replicate TREE_DEPTH 0)) ∧
      ∀ rowIdx path', processTier0 tier0 ⟨17, 11, 6, 2048⟩ 5 (Vector.replicate TREE_DEPTH 0) =
          .ok (rowIdx, path') →
        Graceful (processTier1AndBuild Hasher.affine
          ⟨[], ⟨17, 11, 6, 2048⟩, rowIdx, U64 - 1, 5, Vector.replicate TREE_DEPTH 0, 0⟩ path') := by
  have valid : (⟨17, 11, 6, 2048⟩ : PirLayout).validateSupported = .ok () := by decide
  have accepted := @Tier0Data.fromLayout_encodeTier0 ⟨17, 11, 6, 2048⟩ (List.replicate 2047 0)
    ((List.range 2048).map fun i => (0, Fp.ofNat (2048 - i)))
    (PirLayout.validateSupported_ok valid)
    ⟨List.length_replicate, by rw [List.length_map, List.length_range]; rfl⟩
  obtain ⟨graceful, rows⟩ :=
    client_total Hasher.affine valid accepted 5 (Vector.replicate TREE_DEPTH 0)
  exact ⟨_, accepted, graceful, fun rowIdx path' hrun => (rows rowIdx path' hrun [] _ _ _).1⟩

end NullifierPir.Client
