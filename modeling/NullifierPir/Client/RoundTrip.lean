import NullifierPir.Client.Local
import NullifierPir.Export.Roots

/-!
# Export and retrieval round trip

What `fetch_proof_local_layout` returns on the blobs `export_for_layout` writes for a built tree: the
proof of the range that contains the value, whatever the tier split, and an error exactly on the
boundaries (`fetchProofLocalLayout_correct`).
-/

namespace NullifierPir.Client
open Rust ByteString Imt NullifierPir.Types Export

section Tiers

variable {H : Hasher} {ranges : List PuncturedRange} {l : PirLayout} {v root : Fp}

/-- A supported layout is accepted. -/
lemma validateLayout_eq {label} (sup : l.Supported) : validateLayout label l = .ok () := by
  rw [validateLayout, sup.validateSupported_eq]

/-- Row and byte offsets of a supported layout fit a machine word. -/
lemma row_offset_lt (sup : l.Supported) {s} (hs : s < 2 ^ l.tier0Layers) :
    s * (2 ^ l.tier1Layers * 96) + 2 ^ l.tier1Layers * 96 < U64 := by
  have h0 := sup.two_pow_tier0_le
  have h1 := sup.two_pow_tier1_le
  calc s * (2 ^ l.tier1Layers * 96) + 2 ^ l.tier1Layers * 96
      ≤ 65536 * (32768 * 96) + 32768 * 96 := by gcongr; omega
    _ < U64 := by decide

/-- Row starts fit a `u64`. -/
lemma row_start_lt (sup : l.Supported) {s} (hs : s < 2 ^ l.tier0Layers) :
    s * 2 ^ l.tier1Layers < U64 :=
  calc s * 2 ^ l.tier1Layers ≤ s * (2 ^ l.tier1Layers * 96) := by gcongr; omega
    _ < U64 := by have := row_offset_lt sup hs; omega

/-- Up to the row lookup, retrieval on an export only depends on Tier 0's answer. -/
lemma fetchProofLocalLayout_export (sup : l.Supported) (hdepth : l.pirDepth = PIR_DEPTH) {s path e}
    (hs : s < 2 ^ l.tier0Layers)
    (hfind : (Tier0Data.ofParts l (depthNodes H ranges PIR_DEPTH l.tier0Layers)
      (depthRecords H ranges PIR_DEPTH l.tier0Layers)).findSubtree v = .ok (some s))
    (hfill : fillPath (Vector.replicate TREE_DEPTH 0) l.tier1Layers
      ((List.range l.tier0Layers).map fun k =>
        rangeNode H ranges (l.tier1Layers + k) ((s / 2 ^ k) ^^^ 1)) = .ok path) :
    fetchProofLocalLayout H
      (encodeTier0 (depthNodes H ranges PIR_DEPTH l.tier0Layers)
        (depthRecords H ranges PIR_DEPTH l.tier0Layers))
      ((List.range (2 ^ l.tier0Layers)).flatMap fun s =>
        encodeRow (rowRanges ranges (2 ^ l.tier1Layers) s)) l ranges.length v e root =
    processTier1AndBuild H ⟨encodeRow (rowRanges ranges (2 ^ l.tier1Layers) s), l, s,
      ranges.length, v, e, root⟩ path := by
  have hsplit := hdepth ▸ sup.split
  have hoff := row_offset_lt sup hs
  have hend : s * (2 ^ l.tier1Layers * 96) + 2 ^ l.tier1Layers * 96 ≤
      2 ^ l.tier0Layers * (2 ^ l.tier1Layers * 96) := by
    rw [← Nat.succ_mul]
    exact Nat.mul_le_mul_right _ hs
  rw [fetchProofLocalLayout, validateLayout_eq sup, Tier0Data.fromLayout_encodeTier0 sup fills_tree,
    sup.tier1RowBytes_eq]
  simp only [ok_bind, processTier0, hfind, ofOption_some, hdepth,
    checkedSub_eq (show l.tier0Layers ≤ PIR_DEPTH by omega), extractSiblings_tree sup hdepth hs]
  rw [show PIR_DEPTH - l.tier0Layers = l.tier1Layers by omega, hfill]
  simp only [ok_bind, pure_bind]
  rw [checkedMul_eq (by omega)]
  simp only [ofOption_some, ok_bind]
  rw [checkedAdd_eq hoff]
  simp only [ofOption_some, ok_bind]
  rw [ensure_pos (decide_eq_true (by rw [length_tier1]; exact hend)), slice_tier1 hs]
  rfl

/-- Retrieval of a value inside range `i`. -/
lemma fetchProofLocalLayout_of_mem (cov : Cover ranges) (hn : ranges.length ≤ 2 ^ PIR_DEPTH)
    (sup : l.Supported) (hdepth : l.pirDepth = PIR_DEPTH) {i} (hi : i < ranges.length)
    (mem : ranges[i].Mem v) :
    fetchProofLocalLayout H
      (encodeTier0 (depthNodes H ranges PIR_DEPTH l.tier0Layers)
        (depthRecords H ranges PIR_DEPTH l.tier0Layers))
      ((List.range (2 ^ l.tier0Layers)).flatMap fun s =>
        encodeRow (rowRanges ranges (2 ^ l.tier1Layers) s)) l ranges.length v
      (precomputeEmptyHashes H) root =
    .ok (treeProof H ranges root ranges[i] i) := by
  have hsplit := hdepth ▸ sup.split
  have hpos : 0 < 2 ^ l.tier1Layers := Nat.two_pow_pos _
  have hs : i / 2 ^ l.tier1Layers < 2 ^ l.tier0Layers := by
    rw [Nat.div_lt_iff_lt_mul hpos, ← Nat.pow_add, ← hsplit]
    omega
  have hdiv : i / 2 ^ l.tier1Layers * 2 ^ l.tier1Layers + i % 2 ^ l.tier1Layers = i :=
    Nat.div_add_mod' i _
  have hlen : i % 2 ^ l.tier1Layers <
      (rowRanges ranges (2 ^ l.tier1Layers) (i / 2 ^ l.tier1Layers)).length := by
    rw [length_rowRanges]
    exact Nat.mod_lt _ hpos
  have hi64 : i < U64 := hi.trans_le (hn.trans (by decide))
  obtain ⟨p1, hp1, hrest⟩ := bind_eq_ok.mp (@assemble_path H ranges l i sup hdepth hn hi
    (Vector.replicate TREE_DEPTH 0))
  obtain ⟨p2, hp2, hp3⟩ := bind_eq_ok.mp hrest
  rw [fetchProofLocalLayout_export sup hdepth hs (findSubtree_of_mem cov sup hdepth hn hi mem) hp1,
    processTier1AndBuild]
  simp only [Tier1Row.fromLayout_encodeRow sup length_rowRanges, sup.tier1Leaves_eq, ok_bind]
  rw [validLeavesForRow_eq (row_start_lt sup hs), findLeaf_of_mem cov hi mem]
  simp only [ofOption_some, ok_bind, extractSiblings_row]
  rw [hp2]
  simp only [ok_bind, hdepth]
  rw [hp3]
  simp only [ok_bind]
  rw [checkedMul_eq (row_start_lt sup hs), Option.bind_some, checkedAdd_eq (by omega), hdiv,
    Tier1Row.leafRecord_ofRanges hlen]
  simp only [ofOption_some, ok_bind]
  rw [rowRanges_get, hdiv, List.getD_eq_getElem _ _ hi]
  rfl

/-- Retrieval of a value inside no range fails with an error. -/
lemma fetchProofLocalLayout_of_not_mem (cov : Cover ranges) (sup : l.Supported)
    (hdepth : l.pirDepth = PIR_DEPTH) {e} (out : ∀ i (h : i < ranges.length), ¬ ranges[i].Mem v) :
    ∃ msg, fetchProofLocalLayout H
      (encodeTier0 (depthNodes H ranges PIR_DEPTH l.tier0Layers)
        (depthRecords H ranges PIR_DEPTH l.tier0Layers))
      ((List.range (2 ^ l.tier0Layers)).flatMap fun s =>
        encodeRow (rowRanges ranges (2 ^ l.tier1Layers) s)) l ranges.length v e root =
    .error (.err msg) := by
  have hsplit := hdepth ▸ sup.split
  have hfind := @Tier0Data.findSubtree_ofParts l (depthNodes H ranges PIR_DEPTH l.tier0Layers)
    (depthRecords H ranges PIR_DEPTH l.tier0Layers) fills_tree v
    (fun s => subtreeMinKey ranges (s * 2 ^ l.tier1Layers)) (by
      intro s hs
      simp only [depthRecords, List.getElem_map, List.getElem_range]
      rw [show PIR_DEPTH - l.tier0Layers = l.tier1Layers by omega])
  have hb := (@Search.upperBound_bounds
    (fun s => decide (subtreeMinKey ranges (s * 2 ^ l.tier1Layers) ≤ v)) 0 (2 ^ l.tier0Layers)
    (Nat.zero_le _)).2
  generalize Search.upperBound _ _ _ = k at hfind hb
  by_cases hk : k = 0
  · -- no key at or below the value
    refine ⟨"nullifier not found in any Tier 0 subtree", ?_⟩
    rw [fetchProofLocalLayout, validateLayout_eq sup,
      Tier0Data.fromLayout_encodeTier0 sup fills_tree, sup.tier1RowBytes_eq]
    simp only [ok_bind, processTier0, hfind, hk, if_true]
    rfl
  · have hs : k - 1 < 2 ^ l.tier0Layers := by omega
    refine ⟨"nullifier not found in Tier 1 leaf scan", ?_⟩
    simp only [hk, if_false] at hfind
    rw [fetchProofLocalLayout_export sup hdepth hs hfind (fillPath_eq (by
      have : PIR_DEPTH ≤ TREE_DEPTH := by decide
      omega)), processTier1AndBuild]
    simp only [Tier1Row.fromLayout_encodeRow sup length_rowRanges, sup.tier1Leaves_eq, ok_bind]
    rw [validLeavesForRow_eq (row_start_lt sup hs), findLeaf_of_boundary cov out]
    rfl

/-- The sibling path of a leaf verifies against the depth-29 root. -/
lemma verify_treeProof (cov : Cover ranges) (hn : ranges.length ≤ 2 ^ PIR_DEPTH) {i}
    (hi : i < ranges.length) (mem : ranges[i].Mem v) :
    (treeProof H ranges (rangeNode H ranges FULL_DEPTH 0) ranges[i] i).verify H v = true := by
  have hi32 : i < 2 ^ 32 := hi.trans_le (hn.trans (by decide))
  have hpath : (treePath H ranges i).toList = (List.range TREE_DEPTH).map fun k =>
      rangeNode H ranges (0 + k) ((i / 2 ^ k) ^^^ 1) := by
    apply List.ext_getElem
    · simp
    · intro k h1 h2
      simp [treePath]
  have hleaf : H.leaf ranges[i] = rangeNode H ranges 0 i := by
    change _ = leafAt H (commitPuncturedRanges H ranges) i
    rw [leafAt_of_lt (by rwa [length_commitPuncturedRanges])]
    simp [commitPuncturedRanges]
  have hroot : i / 2 ^ TREE_DEPTH = 0 :=
    Nat.div_eq_of_lt (hi.trans_le (hn.trans (by decide)))
  rw [ImtProofData.verify, treeProof, if_pos ((intervalCheck_iff (cov.ordered i hi)).mpr mem),
    verifyMerklePath, UInt32.toNat_ofNat_of_lt' hi32, hpath, hleaf, Merkle.climb_siblings,
    Nat.zero_add, hroot]
  exact beq_self_eq_true _

end Tiers

/-- End-to-end correctness of local retrieval: it succeeds exactly off the boundaries, where it
returns the proof of the range that contains the value, the same for every supported split. -/
theorem fetchProofLocalLayout_correct (H : Hasher) (nfs : List Fp) (ranges : List PuncturedRange)
    (tree : PirTree) (prep : prepareNullifiers nfs = .ok ranges)
    (build : buildPirTree H ranges = .ok tree) (v : Fp) :
    (∀ layout : PirLayout, layout.validateSupported = .ok () → layout.pirDepth = 19 →
      ∃ tier0 tier1, exportForLayout tree layout = .ok (tier0, tier1) ∧
        ((∃ proof, fetchProofLocalLayout H tier0 tier1 layout ranges.length v tree.emptyHashes
          tree.circuitRoot = .ok proof) ↔ ¬ IsBoundary nfs v)) ∧
    (¬ IsBoundary nfs v ↔ ∃ i, findPuncturedRangeForValue ranges v = some i) ∧
    ∀ i, findPuncturedRangeForValue ranges v = some i →
      ∃ proof : ImtProofData,
        (∀ layout : PirLayout, layout.validateSupported = .ok () → layout.pirDepth = 19 →
          ∃ tier0 tier1, exportForLayout tree layout = .ok (tier0, tier1) ∧
            fetchProofLocalLayout H tier0 tier1 layout ranges.length v tree.emptyHashes
              tree.circuitRoot = .ok proof) ∧
        proof.root = tree.circuitRoot ∧ proof.leafPos.toNat = i ∧
        ranges[i]? = some proof.nfBounds ∧ proof.verify H v = true := by
  obtain ⟨cov, _, _⟩ := prepareNullifiers_ok prep
  have built := buildPirTree_ok build
  have hn := built.bound
  have hmem := @exists_mem_iff_not_isBoundary nfs ranges v prep
  refine ⟨?_, ?_, ?_⟩
  · intro layout ok hdepth
    have sup := PirLayout.validateSupported_ok ok
    refine ⟨_, _, exportForLayout_eq built sup hdepth, ?_⟩
    rw [built.emptyHashes, ← hmem]
    constructor
    · rintro ⟨proof, hproof⟩
      by_contra hout
      obtain ⟨msg, hmsg⟩ := @fetchProofLocalLayout_of_not_mem H ranges layout v tree.circuitRoot cov
        sup hdepth (precomputeEmptyHashes H) fun i h m => hout ⟨i, h, m⟩
      rw [hproof] at hmsg
      cases hmsg
    · rintro ⟨i, hi, mem⟩
      exact ⟨_, fetchProofLocalLayout_of_mem cov hn sup hdepth hi mem⟩
  · rw [← hmem]
    constructor
    · rintro ⟨i, hi, mem⟩
      exact ⟨i, cov.find_iff.mpr ⟨hi, mem⟩⟩
    · rintro ⟨i, hfind⟩
      exact ⟨i, cov.find_iff.mp hfind⟩
  · intro i hfind
    obtain ⟨hi, mem⟩ := cov.find_iff.mp hfind
    have hi32 : i < 2 ^ 32 := hi.trans_le (hn.trans (by decide))
    refine ⟨treeProof H ranges tree.circuitRoot ranges[i] i, ?_, rfl,
      UInt32.toNat_ofNat_of_lt' hi32, List.getElem?_eq_getElem hi, ?_⟩
    · intro layout ok hdepth
      have sup := PirLayout.validateSupported_ok ok
      refine ⟨_, _, exportForLayout_eq built sup hdepth, ?_⟩
      rw [built.emptyHashes]
      exact fetchProofLocalLayout_of_mem cov hn sup hdepth hi mem
    · rw [built.circuitRoot]
      exact verify_treeProof cov hn hi mem

/-- Between two nullifiers a proof is returned, and on them none. -/
theorem fetchProofLocalLayout_correct_two :
    ∃ ranges tree, prepareNullifiers [5, 7] = .ok ranges ∧ buildPirTree Hasher.affine ranges = .ok tree ∧
      ∃ proof tier0 tier1, exportForLayout tree COMPILED_PIR_LAYOUT = .ok (tier0, tier1) ∧
        fetchProofLocalLayout Hasher.affine tier0 tier1 COMPILED_PIR_LAYOUT ranges.length 6
          tree.emptyHashes tree.circuitRoot = .ok proof ∧
        proof.root = tree.circuitRoot ∧ proof.verify Hasher.affine 6 = true ∧
        ∀ proof', fetchProofLocalLayout Hasher.affine tier0 tier1 COMPILED_PIR_LAYOUT ranges.length 5
          tree.emptyHashes tree.circuitRoot ≠ .ok proof' := by
  have hlayout : COMPILED_PIR_LAYOUT.validateSupported = .ok () := by decide
  obtain ⟨tree, hbuild⟩ := @exists_tree Hasher.affine [5, 7] padFits_two (by decide)
  obtain ⟨ranges, prep, build⟩ := bind_eq_ok.mp hbuild
  obtain ⟨_, hfound, hall⟩ :=
    fetchProofLocalLayout_correct Hasher.affine [5, 7] ranges tree prep build 6
  obtain ⟨i, hi⟩ := hfound.mp not_isBoundary_six
  obtain ⟨proof, hget, hroot, _, _, hverify⟩ := hall i hi
  obtain ⟨tier0, tier1, hexport, hfetch⟩ := hget COMPILED_PIR_LAYOUT hlayout rfl
  refine ⟨ranges, tree, prep, build, proof, tier0, tier1, hexport, hfetch, hroot, hverify, ?_⟩
  intro proof' hproof'
  obtain ⟨hsplit, _⟩ := fetchProofLocalLayout_correct Hasher.affine [5, 7] ranges tree prep build 5
  obtain ⟨_, _, hexport', hiff⟩ := hsplit COMPILED_PIR_LAYOUT hlayout rfl
  cases hexport.symm.trans hexport'
  exact hiff.mp ⟨proof', hproof'⟩ (.inl (by decide))

end NullifierPir.Client
