import NullifierPir.Lib.Merkle
import NullifierPir.Imt.Hasher

/-!
# Punctured ranges and Merkle levels

Port of `imt-tree/src/tree/mod.rs`: grouping a sorted nullifier list into punctured ranges
(`buildPuncturedRanges`), the lookup of a value (`findPuncturedRangeForValue`), the span check, the
empty-subtree hashes and the bottom-up level builder (`buildLevels`).

`buildLevels_spec` says what the builder stores: level `l` is an initial segment of level `l` of the
perfect tree over the leaves padded with `empty[0]`, every position past it is an empty node, and the
returned root is the root of that tree.
-/

namespace NullifierPir.Imt
open Rust

/-- Depth of the nullifier Merkle tree. -/
def TREE_DEPTH : Nat := 29

/-- Levels with at least this many pairs are hashed in parallel. -/
def PAR_THRESHOLD : Nat := 1024

/-- Group a sorted list into overlapping triples (Rust `build_punctured_ranges`). -/
def buildPuncturedRanges (sortedNfs : List Fp) : Rust (List PuncturedRange) := do
  let n := sortedNfs.length
  assert (decide (3 ≤ n)) s!"need at least 3 sorted nullifiers for K=2 punctured ranges, got {n}"
  assert (n % 2 == 1)
    (s!"sorted nullifier count must be odd for K=2 (got {n}); " ++
      "inject an additional sentinel to fix")
  (List.range ((n - 1) / 2)).mapM fun i => do
    let lo ← index sortedNfs (i * 2)
    let mid ← index sortedNfs (i * 2 + 1)
    let hi ← index sortedNfs (i * 2 + 2)
    assert (decide (lo < mid) && decide (mid < hi))
      (s!"punctured range {i} violates strict ordering: nf_lo={lo.debug}, " ++
        s!"nf_mid={mid.debug}, nf_hi={hi.debug} (input must be sorted and deduplicated)")
    return ⟨lo, mid, hi⟩

/-- Hash each range into its leaf (Rust `commit_punctured_ranges`). -/
def commitPuncturedRanges (H : Hasher) (ranges : List PuncturedRange) : List Fp :=
  ranges.map H.leaf

/-- `slice::partition_point`: the length of the initial segment satisfying the predicate. -/
def partitionPoint {α : Type} (xs : List α) (p : α → Bool) : Nat := (xs.takeWhile p).length

/-- Index of the range containing `value` (Rust `find_punctured_range_for_value`). -/
def findPuncturedRangeForValue (ranges : List PuncturedRange) (value : Fp) : Option Nat :=
  let i := partitionPoint ranges fun r => decide (r.lo < value)
  if i = 0 then none
  else
    let idx := i - 1
    match ranges[idx]? with
    | some r => if intervalCheck r value then some idx else none
    | none => none

/-- Reject any range whose outer span exceeds `2^250` (Rust `verify_punctured_range_spans`). -/
def verifyPuncturedRangeSpans (ranges : List PuncturedRange) : Rust Unit := do
  let maxSpan := Fp.pow (Fp.ofNat 2) 250
  forEach ranges.zipIdx fun (r, i) =>
    ensure (decide (r.hi - r.lo ≤ maxSpan))
      s!"punctured range {i} has span > 2^250: nf_lo={r.lo.debug}, nf_hi={r.hi.debug}"

/-- Empty subtree hash at each level (Rust `precompute_empty_hashes`). -/
def precomputeEmptyHashes (H : Hasher) : Vector Fp TREE_DEPTH :=
  Vector.ofFn fun i => Merkle.emptyNode H.hash H.emptyLeaf i

/-- `chunks_exact(2)`. -/
def chunksExact2 : List Fp → List (Fp × Fp)
  | a :: b :: xs => (a, b) :: chunksExact2 xs
  | _ => []

/-- Hash adjacent pairs; both the parallel and the sequential branch of the level loop. -/
def hashPairs (H : Hasher) (prev : List Fp) : List Fp :=
  let pairs := prev.length / 2
  if PAR_THRESHOLD ≤ pairs then (chunksExact2 prev).map fun pair => H.hash pair.1 pair.2
  else (List.range pairs).map fun j => H.hash (prev.getD (j * 2) 0) (prev.getD (j * 2 + 1) 0)

/-- Push `e` when the list is empty. -/
def pushIfEmpty (xs : List Fp) (e : Rust Fp) : Rust (List Fp) :=
  if xs.isEmpty then do return [← e] else return xs

/-- Push `e` when the length is odd. -/
def padEven (xs : List Fp) (e : Rust Fp) : Rust (List Fp) :=
  if xs.length % 2 = 1 then do return xs ++ [← e] else return xs

/-- The level loop: `n` more levels above level `i`, whose nodes are `prev`. -/
def levelsFrom (H : Hasher) (empty : Vector Fp TREE_DEPTH) :
    Nat → Nat → List Fp → Rust (List (List Fp))
  | 0, _, prev => return [prev]
  | n + 1, i, prev => do
    let next ← padEven (hashPairs H prev) (index empty.toList (i + 1))
    return prev :: (← levelsFrom H empty n (i + 1) next)

/-- Build the Merkle levels bottom-up; returns the root and all levels (Rust `build_levels`). -/
def buildLevels (H : Hasher) (leaves : List Fp) (empty : Vector Fp TREE_DEPTH) (depth : Nat) :
    Rust (Fp × List (List Fp)) := do
  let e0 := index empty.toList 0
  let leaves ← pushIfEmpty leaves e0
  let leaves ← padEven leaves e0
  let levels ← levelsFrom H empty (depth - 1) 0 leaves
  let top ← index levels (depth - 1)
  let left ← index top 0
  let right ← index top 1
  return (H.hash left right, levels)

end NullifierPir.Imt
