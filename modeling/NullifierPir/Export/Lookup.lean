import NullifierPir.Export.Tiers

/-!
# Lookups in an exported tree

What the two lookups of the exporter's data structures return. `nodeOrEmpty` reads any node of the
padded perfect tree off the ragged levels `buildLevels` stores (`buildLevels_perfect`). The record
search stays inside its records on any data, and on keys in order it returns the last record at or
below the value; over the exported subtree keys, where an empty subtree is keyed `p - 1`, that is the
subtree the value belongs to (`binarySearchRecords_correct`).
-/

namespace NullifierPir.Types
open Rust ByteString

section Records

variable {data : Bytes} {base count size offset : Nat} {v : Fp} {keys : Nat → Fp}

/-- On readable keys the record search is the pure search. -/
lemma binarySearchRecords_eq
    (hkeys : ∀ i < count, readFp data (base + i * size + offset) = .ok (keys i)) :
    binarySearchRecords data base count size offset v =
      .ok (let lo := Search.upperBound (fun i => decide (keys i ≤ v)) 0 count
           if lo = 0 then none else some (lo - 1)) := by
  rw [binarySearchRecords, @Search.upperBoundM_eq _ _ _ _ fun i => decide (keys i ≤ v)]
  · rfl
  · intro i hi
    rw [hkeys i hi]
    rfl

/-- Whatever the keys, a record below `count` is returned, or none. -/
lemma binarySearchRecords_lt
    (hkeys : ∀ i < count, readFp data (base + i * size + offset) = .ok (keys i)) :
    ∃ found, binarySearchRecords data base count size offset v = .ok found ∧
      ∀ j, found = some j → j < count := by
  refine ⟨_, binarySearchRecords_eq hkeys, ?_⟩
  intro j hj
  have hbound := (@Search.upperBound_bounds (fun i => decide (keys i ≤ v)) 0 count
    (Nat.zero_le _)).2
  simp only [] at hj
  split at hj
  · cases hj
  · cases hj
    omega

/-- What the search returns on keys in order. -/
structure LastAtMost (keys : Nat → Fp) (count : Nat) (v : Fp) (found : Option Nat) : Prop where
  none_iff : found = none ↔ ∀ i < count, v < keys i
  some_iff : ∀ j, found = some j ↔
    j < count ∧ keys j ≤ v ∧ ∀ i, j < i → i < count → v < keys i

/-- Over sorted keys the search finds the last one at most the value. -/
lemma binarySearchRecords_sorted
    (hkeys : ∀ i < count, readFp data (base + i * size + offset) = .ok (keys i))
    (sorted : ∀ i j, i ≤ j → j < count → keys i ≤ keys j) :
    ∃ found, binarySearchRecords data base count size offset v = .ok found ∧
      LastAtMost keys count v found := by
  refine ⟨_, binarySearchRecords_eq hkeys, ?_⟩
  obtain ⟨below, above⟩ := @Search.upperBound_split (fun i => decide (keys i ≤ v)) 0 count count
    (Nat.zero_le _) le_rfl
    (fun i j hij hj hp => decide_eq_true ((sorted i j hij hj).trans (of_decide_eq_true hp)))
    (fun i hi => absurd hi (Nat.not_lt_zero i)) (fun i hi hlt => absurd hlt (Nat.not_lt.mpr hi))
  have hbound := (@Search.upperBound_bounds (fun i => decide (keys i ≤ v)) 0 count
    (Nat.zero_le _)).2
  generalize Search.upperBound (fun i => decide (keys i ≤ v)) 0 count = lo at below above hbound
  have below : ∀ i < lo, keys i ≤ v := fun i hi => of_decide_eq_true (below i hi)
  have above : ∀ i, lo ≤ i → i < count → v < keys i := fun i hi hlt =>
    not_le.mp (of_decide_eq_false (above i hi hlt))
  dsimp only
  by_cases hlo : lo = 0
  · subst hlo
    rw [if_pos rfl]
    refine ⟨⟨fun _ i hi => above i (Nat.zero_le i) hi, fun _ => rfl⟩, fun j => ⟨?_, ?_⟩⟩
    · intro h
      cases h
    · rintro ⟨hj, hle, _⟩
      exact absurd hle (not_le.mpr (above j (Nat.zero_le j) hj))
  · rw [if_neg hlo]
    refine ⟨⟨?_, ?_⟩, fun j => ⟨?_, ?_⟩⟩
    · intro h
      cases h
    · intro h
      exact absurd (below 0 (by omega)) (not_le.mpr (h 0 (by omega)))
    · intro h
      cases h
      exact ⟨by omega, below _ (by omega), fun i hi => above i (by omega)⟩
    · rintro ⟨hj, hle, hlast⟩
      -- neither below the split, where a later key is at most `v`, nor above it
      have hlow : lo ≤ j + 1 := by
        by_contra hlt
        exact absurd (below (j + 1) (by omega)) (not_le.mpr (hlast (j + 1) (by omega) (by omega)))
      have hhigh : j < lo := by
        by_contra hge
        exact absurd hle (not_le.mpr (above j (by omega) hj))
      rw [show lo - 1 = j by omega]

end Records

end NullifierPir.Types

namespace NullifierPir.Export
open Rust ByteString Imt NullifierPir.Types

section Nodes

variable {H : Hasher} {leaves : List Fp} {depth : Nat}

/-- The levels and the root are those of the perfect tree over the leaves padded with `empty[0]`, and
both branches of the level loop compute the same level. -/
theorem buildLevels_perfect (hdepth : 1 ≤ depth) (hd : depth ≤ TREE_DEPTH)
    (hn : leaves.length ≤ 2 ^ depth) :
    let empty := precomputeEmptyHashes H
    let tree := Merkle.node H.hash fun i => leaves.getD i (empty.get ⟨0, by decide⟩)
    (∃ levels, buildLevels H leaves empty depth = .ok (tree depth 0, levels) ∧
      levels.length = depth ∧
      (∀ l < depth, ∀ i < 2 ^ (depth - l), nodeOrEmpty levels l i empty.toList = .ok (tree l i)) ∧
      ∀ l (h : l < levels.length), levels[l].length % 2 = 0 ∧ 0 < levels[l].length ∧
        levels[l].length ≤ 2 ^ (depth - l)) ∧
    ∀ prev : List Fp, (chunksExact2 prev).map (fun pair => H.hash pair.1 pair.2) =
      (List.range (prev.length / 2)).map fun j =>
        H.hash (prev.getD (j * 2) 0) (prev.getD (j * 2 + 1) 0) := by
  intro empty tree
  have htree : tree = treeNode H leaves := by
    simp only [tree, empty, treeNode, precomputeEmptyHashes, Vector.get_ofFn]
    rfl
  rw [htree]
  obtain ⟨levels, hbuild, hlen, isLevel⟩ := @buildLevels_spec H leaves depth hdepth hd hn
  refine ⟨⟨levels, hbuild, hlen, ?_, ?_⟩, fun prev => chunksExact2_map⟩
  · intro l hl i _
    exact nodeOrEmpty_of_isLevel isLevel (by omega) (by omega)
  · intro l h
    exact ⟨(isLevel l h).even, (isLevel l h).pos, (isLevel l h).bound⟩

/-- Three leaves under a tree of height 2. -/
theorem buildLevels_perfect_three :
    ∃ levels, buildLevels Hasher.affine [1, 2, 3] (precomputeEmptyHashes Hasher.affine) 2 =
      .ok (Merkle.node Hasher.affine.hash
        (fun i => [1, 2, 3].getD i ((precomputeEmptyHashes Hasher.affine).get ⟨0, by decide⟩)) 2 0,
        levels) ∧ levels.length = 2 := by
  obtain ⟨⟨levels, hbuild, hlen, _⟩, _⟩ :=
    @buildLevels_perfect Hasher.affine [1, 2, 3] 2 (by decide) (by decide) (by decide)
  exact ⟨levels, hbuild, hlen⟩

end Nodes

section Subtrees

variable {H : Hasher} {nfs : List Fp} {t : PirTree} {l : PirLayout} {v : Fp}

/-- Only a populated subtree has a key below `p - 1`. -/
lemma lt_length_of_subtreeMinKey {ranges : List PuncturedRange} {i}
    (h : subtreeMinKey ranges i < Fp.negOne) : i < ranges.length := by
  by_contra hge
  rw [subtreeMinKey, List.getElem?_eq_none (Nat.not_lt.mp hge)] at h
  exact lt_irrefl _ h

/-- Tier 0 of a built tree sends a value below `p - 1` to the populated subtree whose keys it lies
between. -/
lemma findSubtree_populated {data} (built : buildPirTreeFromNullifiers H nfs = .ok t)
    (exported : exportTier0Layout t.pirRoot t.levels t.ranges t.emptyHashes l = .ok data)
    (hv : v < Fp.negOne) :
    ∃ tier0 s, Tier0Data.fromLayout data l = .ok tier0 ∧ tier0.findSubtree v = .ok (some s) ∧
      s < 2 ^ l.tier0Layers ∧ s * 2 ^ l.tier1Layers < t.ranges.length ∧
      subtreeMinKey t.ranges (s * 2 ^ l.tier1Layers) ≤ v ∧
      ∀ s', s < s' → s' < 2 ^ l.tier0Layers →
        v < subtreeMinKey t.ranges (s' * 2 ^ l.tier1Layers) := by
  obtain ⟨ranges, hprepare, hbuild⟩ := bind_eq_ok.mp built
  obtain ⟨cov, _, hpos, hfirst, _⟩ := prepareNullifiers_ok hprepare
  have built := buildPirTree_ok hbuild
  have sup : l.Supported := by
    obtain ⟨_, hlayout, _⟩ := bind_eq_ok.mp exported
    exact PirLayout.validateSupported_ok (context_eq_ok.mp hlayout)
  have hle : l.pirDepth ≤ PIR_DEPTH := by
    by_contra hgt
    obtain ⟨msg, hpanic⟩ := exportTier0Layout_of_gt built sup (Nat.not_le.mp hgt)
    rw [hpanic] at exported
    cases exported
  have hlayers : 1 ≤ l.tier0Layers := le_trans (by decide) sup.tier0.1
  have fills := @fills_depth H ranges l t.pirRoot hlayers
  rw [exportTier0Layout_of_le built sup hle] at exported
  cases exported
  have hsplit : l.pirDepth - l.tier0Layers = l.tier1Layers := by
    rw [sup.split, Nat.add_sub_cancel_left]
  have hkeys : ∀ i < 2 ^ l.tier0Layers, readFp
      (encodeTier0 (t.pirRoot :: (depthNodes H ranges l.pirDepth l.tier0Layers).tail)
        (depthRecords H ranges l.pirDepth l.tier0Layers))
      ((2 ^ l.tier0Layers - 1) * 32 + i * 64 + 32) =
        .ok (subtreeMinKey ranges (i * 2 ^ l.tier1Layers)) := by
    intro i hi
    have hlt : i < (depthRecords H ranges l.pirDepth l.tier0Layers).length := by
      rw [length_depthRecords]
      exact hi
    obtain ⟨hash, _, hread⟩ := bind_eq_ok.mp (Tier0Data.subtreeRecord_ofParts fills hlt)
    obtain ⟨key, hkey, hrecord⟩ := bind_eq_ok.mp hread
    have hpair := Except.ok.inj hrecord
    have hkeyEq : key = (depthRecords H ranges l.pirDepth l.tier0Layers)[i].2 := by rw [← hpair]
    refine hkey.trans ?_
    rw [hkeyEq]
    simp only [depthRecords, List.getElem_map, List.getElem_range, hsplit]
  rw [built.ranges_eq]
  obtain ⟨found, hfound, last⟩ := @binarySearchRecords_sorted _ _ _ _ _ v _ hkeys
    fun i j hij _ => subtreeMinKey_mono cov (Nat.mul_le_mul_right _ hij)
  cases found with
  | none =>
    -- the first key is the sentinel 0
    have hnone := last.none_iff.mp rfl 0 (Nat.two_pow_pos _)
    rw [Nat.zero_mul, subtreeMinKey, List.getElem?_eq_getElem hpos] at hnone
    exact absurd (Fin.zero_le v) (not_le.mpr (hfirst ▸ hnone))
  | some s =>
    obtain ⟨hs, hkey, hnext⟩ := (last.some_iff s).mp rfl
    refine ⟨_, s, Tier0Data.fromLayout_encodeTier0 sup fills, hfound, hs, ?_, hkey, hnext⟩
    exact lt_length_of_subtreeMinKey (hkey.trans_lt hv)

end Subtrees

/-- The record search ends on any readable records, depends on those below `count` only and returns
one of them or none; on keys in order it returns the last at most the value; and over the exported
keys it returns the populated subtree of the value. -/
theorem binarySearchRecords_correct :
    (∀ data base count size offset v,
      (∀ i < count, ∃ key, readFp data (base + i * size + offset) = .ok key) →
      (∃ found, binarySearchRecords data base count size offset v = .ok found ∧
        ∀ j, found = some j → j < count) ∧
      ∀ data', (∀ i < count, readFp data' (base + i * size + offset) =
          readFp data (base + i * size + offset)) →
        binarySearchRecords data' base count size offset v =
          binarySearchRecords data base count size offset v) ∧
    (∀ data base count size offset v (keys : Nat → Fp),
      (∀ i < count, readFp data (base + i * size + offset) = .ok (keys i)) →
      (∀ i j, i ≤ j → j < count → keys i ≤ keys j) →
      ∃ found, binarySearchRecords data base count size offset v = .ok found ∧
        LastAtMost keys count v found) ∧
    ∀ H nfs t (l : PirLayout) data v, buildPirTreeFromNullifiers H nfs = .ok t →
      exportTier0Layout t.pirRoot t.levels t.ranges t.emptyHashes l = .ok data → v < Fp.negOne →
      ∃ tier0 s, Tier0Data.fromLayout data l = .ok tier0 ∧ tier0.findSubtree v = .ok (some s) ∧
        s < 2 ^ l.tier0Layers ∧ s * 2 ^ l.tier1Layers < t.ranges.length ∧
        subtreeMinKey t.ranges (s * 2 ^ l.tier1Layers) ≤ v ∧
        ∀ s', s < s' → s' < 2 ^ l.tier0Layers →
          v < subtreeMinKey t.ranges (s' * 2 ^ l.tier1Layers) := by
  refine ⟨?_, ?_, ?_⟩
  · intro data base count size offset v readable
    refine ⟨?_, ?_⟩
    · choose! keys hkeys using readable
      exact binarySearchRecords_lt hkeys
    · intro data' same
      rw [binarySearchRecords, binarySearchRecords]
      refine congrArg (· >>= _) (Search.upperBoundM_congr ?_)
      intro i _ hi
      rw [same i hi]
  · intro data base count size offset v keys hkeys sorted
    exact binarySearchRecords_sorted hkeys sorted
  · intro H nfs t l data v built exported hv
    exact findSubtree_populated built exported hv

end NullifierPir.Export
