import NullifierPir.Export.Prepare
import NullifierPir.Imt.Levels
import NullifierPir.Types.Layout

/-!
# The PIR tree

Port of the tree half of `pir/export/src/lib.rs`: `buildPirTree` hashes the ranges, builds the
depth-19 levels and extends the root to the circuit depth. `PirTree.Built` is what a successful build
returns: the two roots are the depth-19 and depth-29 roots of one padded perfect tree over the ranges,
and the stored levels are its levels.
-/

namespace NullifierPir.Export
open Rust Imt NullifierPir.Types

/-- Depth of the full circuit tree. -/
def FULL_DEPTH : Nat := TREE_DEPTH

/-- Result of building the PIR tree (Rust `PirTree`). -/
structure PirTree where
  pirRoot : Fp
  circuitRoot : Fp
  levels : List (List Fp)
  ranges : List PuncturedRange
  emptyHashes : Vector Fp TREE_DEPTH

/-- Extend the PIR root to the circuit depth (Rust `extend_root`). -/
def extendRoot (H : Hasher) (pirRoot : Fp) (emptyHashes : Vector Fp TREE_DEPTH) : Fp :=
  ((emptyHashes.toList.drop PIR_DEPTH).take (FULL_DEPTH - PIR_DEPTH)).foldl H.hash pirRoot

/-- Build a depth-19 PIR tree from punctured ranges (Rust `build_pir_tree`). -/
def buildPirTree (H : Hasher) (ranges : List PuncturedRange) : Rust PirTree := do
  ensure (decide (ranges.length ≤ 2 ^ PIR_DEPTH))
    (s!"too many ranges ({ranges.length}) for PIR depth {PIR_DEPTH} " ++
      s!"(max {2 ^ PIR_DEPTH})")
  verifyPuncturedRangeSpans ranges
  let leaves := commitPuncturedRanges H ranges
  let emptyHashes := precomputeEmptyHashes H
  let (pirRoot, levels) ← buildLevels H leaves emptyHashes PIR_DEPTH
  let circuitRoot := extendRoot H pirRoot emptyHashes
  return ⟨pirRoot, circuitRoot, levels, ranges, emptyHashes⟩

/-- Prepare and build (Rust `build_pir_tree_from_nullifiers`). -/
def buildPirTreeFromNullifiers (H : Hasher) (nfs : List Fp) : Rust PirTree := do
  let ranges ← prepareNullifiers nfs
  buildPirTree H ranges

/-- Node of the padded perfect tree over the commitments of `ranges`. -/
abbrev rangeNode (H : Hasher) (ranges : List PuncturedRange) : Nat → Nat → Fp :=
  treeNode H (commitPuncturedRanges H ranges)

/-- What a successful build returns. -/
structure PirTree.Built (H : Hasher) (ranges : List PuncturedRange) (t : PirTree) : Prop where
  bound : ranges.length ≤ 2 ^ PIR_DEPTH
  ranges_eq : t.ranges = ranges
  pirRoot : t.pirRoot = rangeNode H ranges PIR_DEPTH 0
  circuitRoot : t.circuitRoot = rangeNode H ranges FULL_DEPTH 0
  levels_length : t.levels.length = PIR_DEPTH
  isLevel : ∀ l (h : l < t.levels.length),
    IsLevel H (commitPuncturedRanges H ranges) PIR_DEPTH l t.levels[l]
  emptyHashes : t.emptyHashes = precomputeEmptyHashes H

variable {H : Hasher} {ranges : List PuncturedRange}

/-- One commitment a range. -/
@[simp] lemma length_commitPuncturedRanges :
    (commitPuncturedRanges H ranges).length = ranges.length := by
  simp [commitPuncturedRanges]

/-- The hashes of the empty subtrees, level by level. -/
lemma toList_precomputeEmptyHashes :
    (precomputeEmptyHashes H).toList = (List.range TREE_DEPTH).map (emptyHash H) := by
  apply List.ext_getElem
  · simp
  · intro i h1 h2
    simp [precomputeEmptyHashes]

/-- Right of the depth-19 tree everything is empty. -/
lemma treeNode_of_le {leaves : List Fp} {l i} (hn : leaves.length ≤ 2 ^ PIR_DEPTH)
    (hl : 2 ^ PIR_DEPTH ≤ i * 2 ^ l) : treeNode H leaves l i = emptyHash H l :=
  Merkle.node_eq_emptyNode (fun _ hj => leafAt_of_ge hj) (hn.trans hl)

/-- Nodes behind the last range are empty. -/
lemma rangeNode_of_le {l i} (hn : ranges.length ≤ 2 ^ PIR_DEPTH) (hl : 2 ^ PIR_DEPTH ≤ i * 2 ^ l) :
    rangeNode H ranges l i = emptyHash H l :=
  treeNode_of_le (by rw [length_commitPuncturedRanges]; exact hn) hl

/-- Extending the depth-19 root gives the depth-29 root of the same leaves (Rust `extend_root`). -/
lemma extendRoot_eq {leaves : List Fp} (hn : leaves.length ≤ 2 ^ PIR_DEPTH) :
    extendRoot H (treeNode H leaves PIR_DEPTH 0) (precomputeEmptyHashes H) =
      treeNode H leaves FULL_DEPTH 0 := by
  have hslice : ((precomputeEmptyHashes H).toList.drop PIR_DEPTH).take (FULL_DEPTH - PIR_DEPTH) =
      (List.range 10).map fun k => emptyHash H (PIR_DEPTH + k) := by
    rw [toList_precomputeEmptyHashes, ← List.map_drop, ← List.map_take]
    rfl
  have hfold : ∀ n, ((List.range n).map fun k => emptyHash H (PIR_DEPTH + k)).foldl H.hash
      (treeNode H leaves PIR_DEPTH 0) = treeNode H leaves (PIR_DEPTH + n) 0 := by
    intro n
    induction n with
    | zero => rfl
    | succ n ih =>
      rw [List.range_succ, List.map_append, List.foldl_append, ih]
      change H.hash (treeNode H leaves (PIR_DEPTH + n) 0) (emptyHash H (PIR_DEPTH + n)) =
        H.hash (treeNode H leaves (PIR_DEPTH + n) 0) (treeNode H leaves (PIR_DEPTH + n) 1)
      rw [@treeNode_of_le H leaves (PIR_DEPTH + n) 1 hn]
      rw [Nat.one_mul]
      exact Nat.pow_le_pow_right (by decide) (Nat.le_add_right _ _)
  rw [extendRoot, hslice, hfold]
  rfl

/-- What the builder returns is built. -/
lemma buildPirTree_ok {t} (ok : buildPirTree H ranges = .ok t) : t.Built H ranges := by
  rw [buildPirTree] at ok
  obtain ⟨_, hn, ok⟩ := bind_eq_ok.mp ok
  obtain ⟨_, _, ok⟩ := bind_eq_ok.mp ok
  have hn := of_decide_eq_true (ensure_eq_ok.mp hn)
  have hleaves : (commitPuncturedRanges H ranges).length ≤ 2 ^ PIR_DEPTH := by
    rw [length_commitPuncturedRanges]
    exact hn
  obtain ⟨levels, hlevels, hlen, hget⟩ :=
    @buildLevels_spec H (commitPuncturedRanges H ranges) PIR_DEPTH (by decide) (by decide) hleaves
  simp only [hlevels, ok_bind, extendRoot_eq hleaves] at ok
  obtain rfl := Except.ok.inj ok
  exact {
    bound := hn
    ranges_eq := rfl
    pirRoot := rfl
    circuitRoot := rfl
    levels_length := hlen
    isLevel := hget
    emptyHashes := rfl }

/-- Spans are the only further condition for a build to succeed. -/
lemma buildPirTree_eq_ok (hn : ranges.length ≤ 2 ^ PIR_DEPTH)
    (hspans : verifyPuncturedRangeSpans ranges = .ok ()) :
    ∃ t, buildPirTree H ranges = .ok t := by
  obtain ⟨levels, hlevels, _⟩ :=
    @buildLevels_spec H (commitPuncturedRanges H ranges) PIR_DEPTH (by decide) (by decide)
      (by rw [length_commitPuncturedRanges]; exact hn)
  rw [buildPirTree, ensure_pos (decide_eq_true hn), hspans]
  simp only [ok_bind, hlevels]
  exact ⟨_, rfl⟩

end NullifierPir.Export
