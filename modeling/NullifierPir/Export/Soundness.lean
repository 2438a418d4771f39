import NullifierPir.Export.Tree
import NullifierPir.Imt.Proof

/-!
# Soundness of proofs against a built tree

A proof that verifies against the circuit root of a built tree carries the range stored at its leaf
position, so its value is no boundary (`verify_sound`). The only assumption is that `hash` and
`hash3` have no collision among the inputs that building this tree and verifying this proof feed to
them: `buildHashInputs` and `buildHash3Inputs` list the former, `verifyHashInputs` the latter.
-/

namespace NullifierPir.Export
open Rust Imt NullifierPir.Types

/-- No two distinct inputs of the list have one image. -/
def NoCollision {α β : Type} (f : α → β) (inputs : List α) : Prop :=
  ∀ a ∈ inputs, ∀ b ∈ inputs, f a = f b → a = b

instance {α β : Type} [DecidableEq α] [DecidableEq β] (f : α → β) (inputs : List α) :
    Decidable (NoCollision f inputs) :=
  inferInstanceAs (Decidable (∀ a ∈ inputs, ∀ b ∈ inputs, f a = f b → a = b))

/-- Pairs hashed by `precompute_empty_hashes`. -/
def emptyHashInputs (H : Hasher) : List (Fp × Fp) :=
  (List.range (TREE_DEPTH - 1)).map fun l => (emptyHash H l, emptyHash H l)

/-- Pairs hashed by the loop of `extend_root`. -/
def extendRootInputs (H : Hasher) : Fp → List Fp → List (Fp × Fp)
  | _, [] => []
  | root, e :: es => (root, e) :: extendRootInputs H (H.hash root e) es

/-- Pairs `hash` receives while the tree is built: the empty hashes, the adjacent pairs of every
level and the root extension. -/
def buildHashInputs (H : Hasher) (tree : PirTree) : List (Fp × Fp) :=
  emptyHashInputs H ++ tree.levels.flatMap chunksExact2 ++
    extendRootInputs H tree.pirRoot
      ((tree.emptyHashes.toList.drop PIR_DEPTH).take (FULL_DEPTH - PIR_DEPTH))

/-- Triples `hash3` receives while the tree is built: the ranges and the empty leaf. -/
def buildHash3Inputs (tree : PirTree) : List PuncturedRange := tree.ranges ++ [⟨0, 0, 0⟩]

/-- Pairs `hash` receives while a proof is verified. -/
def verifyHashInputs (H : Hasher) (proof : ImtProofData) : List (Fp × Fp) :=
  Merkle.climbPairs H.hash (H.leaf proof.nfBounds) proof.leafPos.toNat proof.path.toList

/-- Adjacent pairs of an even list. -/
lemma mem_chunksExact2 {xs : List Fp} {j} (h : 2 * j + 1 < xs.length) :
    (xs[2 * j], xs[2 * j + 1]) ∈ chunksExact2 xs := by
  induction j generalizing xs with
  | zero =>
    match xs, h with
    | a :: b :: xs, _ => exact List.mem_cons_self
  | succ j ih =>
    match xs, h with
    | a :: b :: xs, h =>
      have h' : 2 * j + 1 < xs.length := by
        simp only [List.length_cons] at h
        omega
      exact List.mem_cons_of_mem _ (ih h')

variable {H : Hasher} {ranges : List PuncturedRange} {tree : PirTree}

/-- A hash of the extension is among its inputs. -/
lemma mem_extendRootInputs (hn : ranges.length ≤ 2 ^ PIR_DEPTH) {m k} (hk : k < m) {l}
    (hl : PIR_DEPTH ≤ l) :
    (rangeNode H ranges (l + k) 0, rangeNode H ranges (l + k) 1) ∈
      extendRootInputs H (rangeNode H ranges l 0)
        ((List.range m).map fun j => emptyHash H (l + j)) := by
  have hright : rangeNode H ranges l 1 = emptyHash H l := by
    apply rangeNode_of_le hn
    rw [Nat.one_mul]
    exact Nat.pow_le_pow_right (by decide) hl
  induction m generalizing l k with
  | zero => cases hk
  | succ m ih =>
    rw [List.range_succ_eq_map, List.map_cons, List.map_map, extendRootInputs, Nat.add_zero,
      ← hright]
    cases k with
    | zero => exact List.mem_cons_self
    | succ k =>
      apply List.mem_cons_of_mem
      have hnext := @ih k (by omega) (l + 1) (by omega) (by
        apply rangeNode_of_le hn
        rw [Nat.one_mul]
        exact Nat.pow_le_pow_right (by decide) (by omega))
      have harg : ((fun j => emptyHash H (l + j)) ∘ Nat.succ) = fun j => emptyHash H (l + 1 + j) := by
        funext j
        simp only [Function.comp, Nat.succ_eq_add_one]
        rw [show l + (j + 1) = l + 1 + j by omega]
      rw [harg, show l + (k + 1) = l + 1 + k by omega]
      exact hnext

/-- A hash of an empty level is among its inputs. -/
lemma mem_emptyHashInputs {k} (hk : k < TREE_DEPTH - 1) :
    (emptyHash H k, emptyHash H k) ∈ emptyHashInputs H :=
  List.mem_map.mpr ⟨k, List.mem_range.mpr hk, rfl⟩

/-- Every pair of siblings below the circuit root was hashed while the tree was built. -/
lemma siblings_mem_buildHashInputs (built : tree.Built H ranges) {k q} (hk : k < TREE_DEPTH)
    (hq : q < 2 ^ (TREE_DEPTH - 1 - k)) :
    (rangeNode H ranges k (2 * q), rangeNode H ranges k (2 * q + 1)) ∈ buildHashInputs H tree := by
  have hn := built.bound
  rcases Nat.lt_or_ge k PIR_DEPTH with hlow | hhigh
  · -- a stored level: either the pair is stored, or both nodes are empty
    have hlt : k < tree.levels.length := built.levels_length ▸ hlow
    have lev := built.isLevel k hlt
    have heven := lev.even
    rcases Nat.lt_or_ge (2 * q) tree.levels[k].length with hin | hout
    · have hin' : 2 * q + 1 < tree.levels[k].length := by omega
      apply List.mem_append_left
      apply List.mem_append_right
      refine List.mem_flatMap.mpr ⟨tree.levels[k], List.getElem_mem hlt, ?_⟩
      have hmem := mem_chunksExact2 hin'
      rw [lev.get _ hin, lev.get _ hin'] at hmem
      exact hmem
    · apply List.mem_append_left
      apply List.mem_append_left
      have h1 : rangeNode H ranges k (2 * q) = emptyHash H k := lev.node_of_ge hout
      have h2 : rangeNode H ranges k (2 * q + 1) = emptyHash H k := lev.node_of_ge (by omega)
      rw [h1, h2]
      exact mem_emptyHashInputs (hlow.trans (by decide))
  · cases q with
    | zero =>
      -- the spine from the PIR root to the circuit root
      apply List.mem_append_right
      have hdepths : PIR_DEPTH + 10 = TREE_DEPTH := rfl
      have hspine := @mem_extendRootInputs H ranges hn 10 (k - PIR_DEPTH) (by omega) PIR_DEPTH le_rfl
      have hslice : (tree.emptyHashes.toList.drop PIR_DEPTH).take (FULL_DEPTH - PIR_DEPTH) =
          (List.range 10).map fun j => emptyHash H (PIR_DEPTH + j) := by
        rw [built.emptyHashes, toList_precomputeEmptyHashes, ← List.map_drop, ← List.map_take]
        rfl
      rw [hslice, built.pirRoot]
      rw [Nat.add_sub_cancel' hhigh] at hspine
      exact hspine
    | succ q =>
      apply List.mem_append_left
      apply List.mem_append_left
      have hpow : 2 ^ PIR_DEPTH ≤ 2 ^ k := Nat.pow_le_pow_right (by decide) hhigh
      have hempty : ∀ i, 1 ≤ i → rangeNode H ranges k i = emptyHash H k := fun i hi =>
        rangeNode_of_le hn (hpow.trans (Nat.le_mul_of_pos_left _ hi))
      rw [hempty _ (by omega), hempty _ (by omega)]
      apply mem_emptyHashInputs
      -- the top level has the spine pair only
      by_contra hk'
      rw [show TREE_DEPTH - 1 - k = 0 by omega] at hq
      omega

/-- A verified path starts at the tree's own leaf. -/
lemma leaf_eq_of_verifyMerklePath (built : tree.Built H ranges) {proof : ImtProofData}
    (nocol : NoCollision (fun a => H.hash a.1 a.2)
      (buildHashInputs H tree ++ verifyHashInputs H proof))
    (ok : verifyMerklePath H (H.leaf proof.nfBounds) proof.leafPos proof.path tree.circuitRoot =
      true) :
    H.leaf proof.nfBounds =
      leafAt H (commitPuncturedRanges H ranges) (proof.leafPos.toNat % 2 ^ TREE_DEPTH) := by
  have hlen : proof.path.toList.length = TREE_DEPTH := by simp
  have hpos : proof.leafPos.toNat % 2 ^ TREE_DEPTH < 2 ^ TREE_DEPTH :=
    Nat.mod_lt _ (Nat.two_pow_pos _)
  have hclimb := beq_iff_eq.mp ok
  refine @Merkle.climb_sound _ H.hash (leafAt H (commitPuncturedRanges H ranges))
    {a | a ∈ buildHashInputs H tree ++ verifyHashInputs H proof} (H.leaf proof.nfBounds) 0
    (proof.leafPos.toNat % 2 ^ TREE_DEPTH) proof.path.toList nocol ?_ ?_ ?_
  · intro a ha
    have hmod := @Merkle.climbPairs_mod _ H.hash (H.leaf proof.nfBounds) proof.leafPos.toNat
      proof.path.toList
    rw [hlen] at hmod
    rw [hmod] at ha
    exact List.mem_append_right _ ha
  · intro k hk
    rw [hlen] at hk
    apply List.mem_append_left
    rw [Nat.zero_add]
    apply siblings_mem_buildHashInputs built hk
    rw [Nat.div_lt_iff_lt_mul (Nat.two_pow_pos _), ← Nat.pow_add,
      show TREE_DEPTH - 1 - k + (k + 1) = TREE_DEPTH by omega]
    exact hpos
  · rw [hlen, Nat.div_eq_of_lt hpos, Nat.zero_add]
    have hmod := @Merkle.climb_mod _ H.hash (H.leaf proof.nfBounds) proof.leafPos.toNat
      proof.path.toList
    rw [hlen] at hmod
    rw [hmod, hclimb]
    exact built.circuitRoot

/-- Soundness: a verified proof against a built tree carries the range stored at its position, and
its value is no boundary. -/
theorem verify_sound (H : Hasher) (nfs : List Fp) (ranges : List PuncturedRange) (tree : PirTree)
    (prep : prepareNullifiers nfs = .ok ranges) (build : buildPirTree H ranges = .ok tree)
    (proof : ImtProofData) (v : Fp) (root : proof.root = tree.circuitRoot)
    (nocol : NoCollision (fun a => H.hash a.1 a.2)
      (buildHashInputs H tree ++ verifyHashInputs H proof))
    (nocol3 : NoCollision (fun r => H.hash3 r.lo r.mid r.hi)
      (buildHash3Inputs tree ++ [proof.nfBounds]))
    (ok : proof.verify H v = true) :
    ranges[proof.leafPos.toNat % 2 ^ 29]? = some proof.nfBounds ∧ ¬ IsBoundary nfs v ∧ v ∉ nfs := by
  obtain ⟨cov, _, _⟩ := prepareNullifiers_ok prep
  have built := buildPirTree_ok build
  rw [ImtProofData.verify] at ok
  split at ok
  · rename_i hcheck
    rw [root] at ok
    have hleaf := leaf_eq_of_verifyMerklePath built nocol ok
    have hself : proof.nfBounds ∈ buildHash3Inputs tree ++ [proof.nfBounds] := by simp
    rcases Nat.lt_or_ge (proof.leafPos.toNat % 2 ^ TREE_DEPTH) ranges.length with hin | hout
    · rw [leafAt_of_lt (by rwa [length_commitPuncturedRanges])] at hleaf
      simp only [commitPuncturedRanges, List.getElem_map] at hleaf
      have hstored : ranges[proof.leafPos.toNat % 2 ^ TREE_DEPTH] ∈
          buildHash3Inputs tree ++ [proof.nfBounds] := by
        rw [buildHash3Inputs, built.ranges_eq]
        exact List.mem_append_left _ (List.mem_append_left _ (List.getElem_mem hin))
      have heq := nocol3 _ hself _ hstored hleaf
      have hmem : ranges[proof.leafPos.toNat % 2 ^ TREE_DEPTH].Mem v :=
        (intervalCheck_iff (cov.ordered _ hin)).mp (heq ▸ hcheck)
      have hbd := (exists_mem_iff_not_isBoundary prep).mp ⟨_, hin, hmem⟩
      refine ⟨?_, hbd, fun hv => hbd (.inl hv)⟩
      exact (List.getElem?_eq_getElem hin).trans (congrArg some heq.symm)
    · -- an empty leaf would have to open as the all-zero range, which contains nothing
      rw [leafAt_of_ge (by rwa [length_commitPuncturedRanges])] at hleaf
      have hzero : (⟨0, 0, 0⟩ : PuncturedRange) ∈ buildHash3Inputs tree ++ [proof.nfBounds] := by
        simp [buildHash3Inputs]
      have heq := nocol3 _ hself _ hzero hleaf
      rw [heq, intervalCheck_degenerate rfl] at hcheck
      cases hcheck
  · cases ok

/-- The tree of the sentinels under the affine hasher. -/
def sentinelTree : PirTree :=
  (buildPirTree Hasher.affine sentinelRanges).toOption.getD
    ⟨0, 0, [], [], Vector.replicate TREE_DEPTH 0⟩

/-- The proof of its first range. -/
def sentinelProof : ImtProofData where
  root := sentinelTree.circuitRoot
  nfBounds := sentinelRanges.getD 0 ⟨0, 0, 0⟩
  leafPos := 0
  path := Vector.ofFn fun k =>
    if k.val < PIR_DEPTH then (sentinelTree.levels.getD k.val []).getD 1 0
    else sentinelTree.emptyHashes.get k

/-- A proof for 1 over the sentinel tree. -/
theorem verify_sound_sentinels :
    sentinelProof.verify Hasher.affine 1 = true ∧
      sentinelRanges[0]? = some sentinelProof.nfBounds ∧ ¬ IsBoundary [] 1 := by
  have hverify : sentinelProof.verify Hasher.affine 1 = true := by decide +kernel
  obtain ⟨tree, build⟩ := @buildPirTree_eq_ok Hasher.affine sentinelRanges
    (by rw [sentinelRanges_checked.1]; decide) sentinelRanges_checked.2
  have htree : sentinelTree = tree := by
    rw [sentinelTree, build]
    rfl
  have hroot : sentinelProof.root = sentinelTree.circuitRoot := by rw [sentinelProof]
  have hnocol : NoCollision (fun a => Hasher.affine.hash a.1 a.2)
      (buildHashInputs Hasher.affine sentinelTree ++
        verifyHashInputs Hasher.affine sentinelProof) := by decide +kernel
  have hnocol3 : NoCollision (fun r => Hasher.affine.hash3 r.lo r.mid r.hi)
      (buildHash3Inputs sentinelTree ++ [sentinelProof.nfBounds]) := by decide +kernel
  obtain ⟨hget, hbd, _⟩ := verify_sound Hasher.affine [] sentinelRanges sentinelTree
    prepareNullifiers_nil (htree ▸ build) sentinelProof 1 hroot hnocol hnocol3 hverify
  exact ⟨hverify, hget, hbd⟩

end NullifierPir.Export
