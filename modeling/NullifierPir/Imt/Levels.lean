import NullifierPir.Imt.Tree

/-!
# The level builder builds the padded perfect tree

`IsLevel` says what one stored level is: an even, non-empty initial segment of that level of the
perfect tree over the leaves padded with the empty leaf, long enough that nothing beyond it holds a
leaf. One pass of the level loop takes a level to the next (`IsLevel.next`), the loop keeps it for
all levels (`levelsFrom_spec`), and `buildLevels_spec` concludes for the builder.
-/

namespace NullifierPir.Imt
open Rust

/-- Leaf `i` of the padded leaf list. -/
def leafAt (H : Hasher) (leaves : List Fp) (i : Nat) : Fp := leaves.getD i H.emptyLeaf

/-- Node of the perfect tree over the padded leaves. -/
abbrev treeNode (H : Hasher) (leaves : List Fp) : Nat → Nat → Fp :=
  Merkle.node H.hash (leafAt H leaves)

/-- Root of an empty subtree of height `l`. -/
abbrev emptyHash (H : Hasher) : Nat → Fp := Merkle.emptyNode H.hash H.emptyLeaf

/-- What a stored level `l` of a tree of height `depth` is. -/
structure IsLevel (H : Hasher) (leaves : List Fp) (depth l : Nat) (xs : List Fp) : Prop where
  even : xs.length % 2 = 0
  pos : 0 < xs.length
  bound : xs.length ≤ 2 ^ (depth - l)
  covers : leaves.length ≤ xs.length * 2 ^ l
  get : ∀ i (h : i < xs.length), xs[i] = treeNode H leaves l i

variable {H : Hasher} {leaves : List Fp} {depth : Nat}

/-- Behind the list the leaves are empty. -/
lemma leafAt_of_ge {i} (h : leaves.length ≤ i) : leafAt H leaves i = H.emptyLeaf := by
  simp [leafAt, h]

/-- Within the list they are its elements. -/
lemma leafAt_of_lt {i} (h : i < leaves.length) : leafAt H leaves i = leaves[i] := by
  simp [leafAt, h]

/-- The table of empty hashes is that of the levels. -/
lemma index_precomputeEmptyHashes {l} (h : l < TREE_DEPTH) :
    index (precomputeEmptyHashes H).toList l = .ok (emptyHash H l) := by
  rw [index_eq_ok (by simpa using h)]
  simp [precomputeEmptyHashes]

/-- A position past a stored level is an empty node. -/
lemma IsLevel.node_of_ge {l xs i} (lev : IsLevel H leaves depth l xs) (h : xs.length ≤ i) :
    treeNode H leaves l i = emptyHash H l :=
  Merkle.node_eq_emptyNode (fun _ hj => leafAt_of_ge hj)
    (lev.covers.trans (Nat.mul_le_mul_right _ h))

/-- The chunked branch of the level loop agrees with the indexed one. -/
lemma chunksExact2_map {xs : List Fp} :
    (chunksExact2 xs).map (fun pair => H.hash pair.1 pair.2) =
      (List.range (xs.length / 2)).map fun j =>
        H.hash (xs.getD (j * 2) 0) (xs.getD (j * 2 + 1) 0) := by
  induction xs using chunksExact2.induct with
  | case1 a b xs ih =>
    have e : (a :: b :: xs).length / 2 = xs.length / 2 + 1 := by
      simp only [List.length_cons]
      omega
    rw [chunksExact2, List.map_cons, ih, e, List.range_succ_eq_map]
    simp [Nat.add_mul]
  | case2 xs h =>
    cases xs with
    | nil => rfl
    | cons a xs =>
      cases xs with
      | nil => simp [chunksExact2]
      | cons b xs => exact absurd rfl (h a b xs)

/-- The pairs hashed, one by one. -/
lemma hashPairs_eq {xs : List Fp} :
    hashPairs H xs = (List.range (xs.length / 2)).map fun j =>
      H.hash (xs.getD (j * 2) 0) (xs.getD (j * 2 + 1) 0) := by
  simp only [hashPairs]
  split
  · exact chunksExact2_map
  · rfl

/-- Half as many hashes. -/
@[simp] lemma length_hashPairs {xs : List Fp} : (hashPairs H xs).length = xs.length / 2 := by
  simp [hashPairs_eq]

/-- Hashing the pairs of a level gives nodes of the next. -/
lemma IsLevel.hashPairs_get {l xs} (lev : IsLevel H leaves depth l xs) {i}
    (h : i < (hashPairs H xs).length) : (hashPairs H xs)[i] = treeNode H leaves (l + 1) i := by
  have hi : i < xs.length / 2 := by simpa using h
  have h0 : i * 2 < xs.length := by omega
  have h1 : i * 2 + 1 < xs.length := by omega
  simp only [hashPairs_eq, List.getElem_map, List.getElem_range, List.getD_eq_getElem?_getD,
    List.getElem?_eq_getElem h0, List.getElem?_eq_getElem h1, Option.getD_some, lev.get _ h0,
    lev.get _ h1, Merkle.node, Nat.mul_comm 2]

/-- One pass of the level loop. -/
lemma IsLevel.next {l xs} (lev : IsLevel H leaves depth l xs) (hl : l + 1 < depth)
    (hd : depth ≤ TREE_DEPTH) :
    ∃ ys, padEven (hashPairs H xs) (index (precomputeEmptyHashes H).toList (l + 1)) = .ok ys ∧
      IsLevel H leaves depth (l + 1) ys := by
  have hpow : 2 ^ (depth - l) = 2 * 2 ^ (depth - (l + 1)) := by
    rw [show depth - l = depth - (l + 1) + 1 by omega, Nat.pow_succ']
  have hpow' : 2 ^ (depth - (l + 1)) = 2 * 2 ^ (depth - (l + 2)) := by
    rw [show depth - (l + 1) = depth - (l + 2) + 1 by omega, Nat.pow_succ']
  have hb := lev.bound
  have hp := lev.pos
  have hev := lev.even
  have hcov : leaves.length ≤ xs.length / 2 * 2 ^ (l + 1) := by
    have e : xs.length / 2 * 2 ^ (l + 1) = xs.length / 2 * 2 * 2 ^ l := by ring
    rw [e, show xs.length / 2 * 2 = xs.length by omega]
    exact lev.covers
  rw [padEven]
  split
  · rename_i hodd
    rw [length_hashPairs] at hodd
    rw [index_precomputeEmptyHashes (by omega)]
    refine ⟨_, rfl, ?_, ?_, ?_, ?_, ?_⟩
    · simp only [List.length_append, length_hashPairs, List.length_singleton]
      omega
    · simp
    · simp only [List.length_append, length_hashPairs, List.length_singleton]
      omega
    · simp only [List.length_append, length_hashPairs, List.length_singleton, Nat.add_mul]
      omega
    · intro i h
      rcases Nat.lt_or_ge i (hashPairs H xs).length with hlt | hge
      · rw [List.getElem_append_left hlt]
        exact lev.hashPairs_get hlt
      · -- the pushed node is the empty node just past the level
        rw [List.getElem_append_right hge, List.getElem_singleton]
        symm
        apply Merkle.node_eq_emptyNode fun _ hj => leafAt_of_ge hj
        rw [length_hashPairs] at hge
        exact hcov.trans (Nat.mul_le_mul_right _ hge)
  · rename_i heven
    rw [length_hashPairs] at heven
    refine ⟨_, rfl, ?_, ?_, ?_, ?_, ?_⟩
    · rw [length_hashPairs]
      omega
    · rw [length_hashPairs]
      omega
    · rw [length_hashPairs]
      omega
    · rw [length_hashPairs]
      exact hcov
    · exact fun i h => lev.hashPairs_get h

/-- The level loop stores a level at every height it visits. -/
lemma levelsFrom_spec {n l xs} (lev : IsLevel H leaves depth l xs) (hl : l + n < depth)
    (hd : depth ≤ TREE_DEPTH) :
    ∃ levels, levelsFrom H (precomputeEmptyHashes H) n l xs = .ok levels ∧
      levels.length = n + 1 ∧
      ∀ k (h : k < levels.length), IsLevel H leaves depth (l + k) levels[k] := by
  induction n generalizing l xs with
  | zero =>
    refine ⟨[xs], rfl, rfl, ?_⟩
    intro k h
    obtain rfl : k = 0 := by simpa using h
    exact lev
  | succ n ih =>
    obtain ⟨ys, hys, lev'⟩ := lev.next (by omega) hd
    obtain ⟨levels, hlevels, hlen, hget⟩ := ih lev' (by omega)
    refine ⟨xs :: levels, ?_, by simp [hlen], ?_⟩
    · simp only [levelsFrom, hys, hlevels, ok_bind]
      rfl
    · intro k h
      cases k with
      | zero => exact lev
      | succ k =>
        rw [show l + (k + 1) = l + 1 + k by omega]
        exact hget k (by simpa using h)

/-- Level 0: the leaves, at least one, padded to even length. -/
lemma isLevel_zero (hdepth : 1 ≤ depth) (hn : leaves.length ≤ 2 ^ depth) :
    ∃ xs ys, pushIfEmpty leaves (index (precomputeEmptyHashes H).toList 0) = .ok xs ∧
      padEven xs (index (precomputeEmptyHashes H).toList 0) = .ok ys ∧
      IsLevel H leaves depth 0 ys := by
  have e0 : index (precomputeEmptyHashes H).toList 0 = .ok H.emptyLeaf :=
    index_precomputeEmptyHashes (by decide)
  have hpow : 2 ^ depth = 2 * 2 ^ (depth - 1) := by
    rw [← Nat.pow_succ', Nat.succ_eq_add_one, show depth - 1 + 1 = depth by omega]
  have hpos : 0 < 2 ^ (depth - 1) := Nat.two_pow_pos _
  rw [e0]
  cases leaves with
  | nil =>
    refine ⟨[H.emptyLeaf], [H.emptyLeaf, H.emptyLeaf], rfl, rfl, by simp, by simp, ?_, by simp, ?_⟩
    · simp only [List.length_cons, List.length_nil, Nat.sub_zero]
      omega
    · intro i h
      have hi : i = 0 ∨ i = 1 := by
        simp only [List.length_cons, List.length_nil] at h
        omega
      rcases hi with rfl | rfl <;> rfl
  | cons x xs =>
    refine ⟨x :: xs, if (x :: xs).length % 2 = 1 then (x :: xs) ++ [H.emptyLeaf] else x :: xs,
      rfl, ?_, ?_⟩
    · rw [padEven]
      split <;> rfl
    · split
      · rename_i hodd
        refine ⟨?_, by simp, ?_, by simp, ?_⟩
        · simp only [List.length_append, List.length_singleton]
          omega
        · simp only [List.length_append, List.length_singleton, Nat.sub_zero]
          omega
        · intro i h
          rcases Nat.lt_or_ge i (x :: xs).length with hlt | hge
          · rw [List.getElem_append_left hlt]
            exact (leafAt_of_lt hlt).symm
          · rw [List.getElem_append_right hge, List.getElem_singleton]
            exact (leafAt_of_ge hge).symm
      · rename_i heven
        refine ⟨by omega, by simp, hn, by simp, ?_⟩
        exact fun i h => (leafAt_of_lt h).symm

/-- The builder returns the root of the padded perfect tree and its levels (Rust `build_levels`). -/
lemma buildLevels_spec (hdepth : 1 ≤ depth) (hd : depth ≤ TREE_DEPTH)
    (hn : leaves.length ≤ 2 ^ depth) :
    ∃ levels, buildLevels H leaves (precomputeEmptyHashes H) depth =
        .ok (treeNode H leaves depth 0, levels) ∧
      levels.length = depth ∧
      ∀ l (h : l < levels.length), IsLevel H leaves depth l levels[l] := by
  obtain ⟨xs, ys, hxs, hys, lev⟩ := @isLevel_zero H leaves depth hdepth hn
  obtain ⟨levels, hlevels, hlen, hget⟩ := @levelsFrom_spec H leaves depth (depth - 1) 0 ys lev (by omega) hd
  simp only [Nat.zero_add] at hget
  refine ⟨levels, ?_, by omega, hget⟩
  have htop := hget (depth - 1) (by omega)
  have hb := htop.bound
  have hp := htop.pos
  have hev := htop.even
  rw [show depth - (depth - 1) = 1 by omega, Nat.pow_one] at hb
  simp only [buildLevels, hxs, ok_bind, hys, hlevels]
  rw [index_eq_ok (show depth - 1 < levels.length by omega)]
  simp only [ok_bind]
  rw [index_eq_ok hp, index_eq_ok (show 1 < levels[depth - 1].length by omega)]
  simp only [ok_bind, htop.get]
  have hroot : treeNode H leaves depth 0 =
      H.hash (treeNode H leaves (depth - 1) 0) (treeNode H leaves (depth - 1) 1) := by
    conv_lhs => rw [show depth = depth - 1 + 1 by omega]
    rfl
  rw [hroot]
  rfl

end NullifierPir.Imt
