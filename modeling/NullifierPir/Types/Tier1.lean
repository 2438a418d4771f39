import NullifierPir.Imt.Levels
import NullifierPir.Types.FpUtils
import NullifierPir.Types.Layout

/-!
# Tier 1 row reader

Port of `pir/types/src/tier1.rs`: one row of punctured-range leaf records, without internal nodes. A
row `fromLayout` accepts is `encodeRow` of a list of `tier1_leaves` ranges (`Tier1Row.fromLayout_ok`).
`extractSiblings` rebuilds the row's subtree; its result is the sibling path in the perfect tree over
the row's leaves (`Tier1Row.extractSiblings_ofRanges`).
-/

namespace NullifierPir.Types
open Rust ByteString Imt

/-- Parsed Tier 1 row (Rust `Tier1Row`). -/
structure Tier1Row where
  data : Bytes
  leaves : Nat
  layers : Nat

/-- The next level of the client-side rebuild. -/
def rebuildLevel (H : Hasher) (cur : List Fp) : List Fp :=
  (List.range (cur.length / 2)).map fun j =>
    H.hash (cur.getD (2 * j) 0) (cur.getD (2 * j + 1) 0)

/-- The sibling loop: `n` levels left, at `pos` in the level `cur`. -/
def siblingsLoop (H : Hasher) : Nat → Nat → List Fp → Rust (List Fp)
  | 0, _, _ => return []
  | n + 1, pos, cur => do
    let sibling ← index cur (pos ^^^ 1)
    -- the level above the last one is not built
    let next := if n = 0 then cur else rebuildLevel H cur
    return sibling :: (← siblingsLoop H n (pos / 2) next)

namespace Tier1Row

/-- Parse a Tier 1 row for a layout (Rust `Tier1Row::from_layout`). -/
def fromLayout (data : Bytes) (layout : PirLayout) : Rust Tier1Row := do
  layout.validateSplit
  let layers := layout.tier1Layers
  let leaves ← layout.tier1Leaves
  let expected ← layout.tier1RowBytes
  ensure (data.length == expected)
    s!"Tier 1 row size mismatch: got {data.length} bytes, expected {expected}"
  validateAllFpChunks data "Tier 1 row"
  return ⟨data, leaves, layers⟩

variable (self : Tier1Row)

/-- Leaf record `i` (Rust `leaf_record`). -/
def leafRecord (i : Nat) : Rust PuncturedRange := do
  let base := i * TIER1_LEAF_BYTES
  let lo ← readFp self.data base
  let mid ← readFp self.data (base + 32)
  let hi ← readFp self.data (base + 64)
  return ⟨lo, mid, hi⟩

/-- The leaf whose punctured range contains `value` (Rust `find_leaf`). -/
def findLeaf (value : Fp) (validLeaves : Nat) : Rust (Option Nat) := do
  if validLeaves = 0 then return none
  match ← binarySearchRecords self.data 0 validLeaves TIER1_LEAF_BYTES 0 value with
  | none => return none
  | some idx =>
    let r ← self.leafRecord idx
    return if intervalCheck r value then some idx else none

/-- Rebuild the subtree and collect the sibling hashes (Rust `extract_siblings`). -/
def extractSiblings (leafIdx validLeaves : Nat) (H : Hasher) : Rust (List Fp) := do
  let cur ← (List.range self.leaves).mapM fun i =>
    if i < validLeaves then do return H.leaf (← self.leafRecord i) else return H.emptyLeaf
  siblingsLoop H self.layers leafIdx cur

end Tier1Row

/-- A Tier 1 row. -/
def encodeRow (recs : List PuncturedRange) : Bytes :=
  encodeWords (recs.flatMap fun r => [r.lo, r.mid, r.hi])

/-- On a full level, the rebuild keeps the level full. -/
lemma rebuildLevel_eq {H : Hasher} {f : Nat → Fp} {n} :
    rebuildLevel H ((List.range (2 * n)).map f) =
      (List.range n).map fun j => H.hash (f (2 * j)) (f (2 * j + 1)) := by
  rw [rebuildLevel, List.length_map, List.length_range, Nat.mul_div_cancel_left _ (by decide)]
  apply List.map_congr_left
  intro j hj
  have hj := List.mem_range.mp hj
  have h0 : 2 * j < 2 * n := by omega
  have h1 : 2 * j + 1 < 2 * n := by omega
  simp [h0, h1]

/-- The sibling loop over a full level collects the siblings of a perfect tree. -/
lemma siblingsLoop_eq {H : Hasher} {leaf : Nat → Fp} {n l pos} (hpos : pos < 2 ^ n) :
    siblingsLoop H n pos ((List.range (2 ^ n)).map (Merkle.node H.hash leaf l)) =
      .ok ((List.range n).map fun k => Merkle.node H.hash leaf (l + k) ((pos / 2 ^ k) ^^^ 1)) := by
  induction n generalizing l pos with
  | zero => rfl
  | succ n ih =>
    have hsib : pos ^^^ 1 < 2 ^ (n + 1) := Nat.xor_lt_two_pow hpos (Nat.one_lt_two_pow (by omega))
    have hhalf : pos / 2 < 2 ^ n := by
      rw [Nat.div_lt_iff_lt_mul (by decide), ← Nat.pow_succ]
      exact hpos
    rw [siblingsLoop, index_eq_ok (by simpa using hsib)]
    have hnext : siblingsLoop H n (pos / 2)
        (if n = 0 then (List.range (2 ^ (n + 1))).map (Merkle.node H.hash leaf l)
          else rebuildLevel H ((List.range (2 ^ (n + 1))).map (Merkle.node H.hash leaf l))) =
        .ok ((List.range n).map fun k =>
          Merkle.node H.hash leaf (l + 1 + k) ((pos / 2 / 2 ^ k) ^^^ 1)) := by
      split
      · rename_i h0
        subst h0
        rfl
      · rw [Nat.pow_succ', rebuildLevel_eq]
        exact ih (l := l + 1) hhalf
    simp only [ok_bind, List.getElem_map, List.getElem_range, hnext]
    rw [List.range_succ_eq_map, List.map_cons, List.map_map]
    simp only [Nat.add_zero, Nat.pow_zero, Nat.div_one]
    refine congrArg (fun xs => Except.ok (_ :: xs)) (List.map_congr_left fun k _ => ?_)
    simp only [Function.comp, Nat.succ_eq_add_one]
    rw [Nat.div_div_eq_div_mul, ← Nat.pow_succ', show l + (k + 1) = l + 1 + k by omega]

namespace Tier1Row

variable {l : PirLayout} {recs : List PuncturedRange}

/-- The parsed form of `encodeRow recs`. -/
def ofRanges (l : PirLayout) (recs : List PuncturedRange) : Tier1Row :=
  ⟨encodeRow recs, 2 ^ l.tier1Layers, l.tier1Layers⟩

/-- A row has the leaves of the layout. -/
@[simp] lemma ofRanges_leaves : (ofRanges l recs).leaves = 2 ^ l.tier1Layers := rfl

/-- A row has the layers of the layout. -/
@[simp] lemma ofRanges_layers : (ofRanges l recs).layers = l.tier1Layers := rfl

/-- Three words a range. -/
lemma length_rangeWords : (recs.flatMap fun r => [r.lo, r.mid, r.hi]).length = recs.length * 3 :=
  length_flatMap_const fun _ _ => rfl

/-- A range takes 96 bytes. -/
lemma length_encodeRow : (encodeRow recs).length = recs.length * 96 := by
  rw [encodeRow, length_encodeWords, length_rangeWords]
  ring

/-- A full row is accepted. -/
lemma fromLayout_encodeRow (sup : l.Supported) (full : recs.length = 2 ^ l.tier1Layers) :
    fromLayout (encodeRow recs) l = .ok (ofRanges l recs) := by
  have hval : validateAllFpChunks (encodeRow recs) "Tier 1 row" = .ok () :=
    validateAllFpChunks_encodeWords
  rw [fromLayout, sup.validateSplit_eq, sup.tier1Leaves_eq, sup.tier1RowBytes_eq]
  simp only [ok_bind]
  rw [ensure_pos (by rw [length_encodeRow, full, beq_self_eq_true]), hval]
  rfl

/-- Three words a record. -/
lemma exists_ranges {n} {w : List Fp} (h : w.length = n * 3) :
    ∃ recs : List PuncturedRange, recs.length = n ∧
      w = recs.flatMap fun r => [r.lo, r.mid, r.hi] := by
  induction n generalizing w with
  | zero => exact ⟨[], rfl, List.length_eq_zero_iff.mp (by simpa using h)⟩
  | succ n ih =>
    match w, h with
    | [_], h => simp at h; omega
    | [_, _], h => simp at h; omega
    | a :: b :: c :: w, h =>
      obtain ⟨recs, hr, hrec⟩ := ih (w := w) (by simp only [List.length_cons] at h; omega)
      exact ⟨⟨a, b, c⟩ :: recs, by simp [hr], by simp [hrec]⟩

/-- Every accepted row is the encoding of a full list of ranges. -/
lemma fromLayout_ok {data t} (sup : l.Supported) (ok : fromLayout data l = .ok t) :
    ∃ recs, recs.length = 2 ^ l.tier1Layers ∧ data = encodeRow recs ∧ t = ofRanges l recs := by
  rw [fromLayout, sup.validateSplit_eq, sup.tier1Leaves_eq, sup.tier1RowBytes_eq] at ok
  simp only [ok_bind] at ok
  obtain ⟨_, hlen, ok⟩ := bind_eq_ok.mp ok
  obtain ⟨_, hval, ok⟩ := bind_eq_ok.mp ok
  have hlen := beq_iff_eq.mp (ensure_eq_ok.mp hlen)
  obtain ⟨ws, hn, hws⟩ := exists_words (n := 2 ^ l.tier1Layers * 3) (by omega) hval
  obtain ⟨recs, hr, hrec⟩ := exists_ranges hn
  have hdata : data = encodeRow recs := by rw [hws, hrec, encodeRow]
  cases ok
  exact ⟨recs, hr, hdata, by rw [ofRanges, hdata]⟩

/-- The words of a range are at its position. -/
lemma getElem?_rangeWords {i k} (h : i < recs.length) (hk : k < 3) :
    (recs.flatMap fun r => [r.lo, r.mid, r.hi])[i * 3 + k]? =
      [recs[i].lo, recs[i].mid, recs[i].hi][k]? :=
  getElem?_flatMap_const (w := 3) (fun _ _ => rfl) h hk

/-- `leaf_record` reads the record it names. -/
lemma leafRecord_ofRanges {i} (h : i < recs.length) :
    (ofRanges l recs).leafRecord i = .ok recs[i] := by
  obtain ⟨h0, e0⟩ := List.getElem?_eq_some_iff.mp (getElem?_rangeWords h (k := 0) (by omega))
  obtain ⟨h1, e1⟩ := List.getElem?_eq_some_iff.mp (getElem?_rangeWords h (k := 1) (by omega))
  obtain ⟨h2, e2⟩ := List.getElem?_eq_some_iff.mp (getElem?_rangeWords h (k := 2) (by omega))
  simp only [leafRecord, ofRanges, encodeRow, TIER1_LEAF_BYTES]
  rw [show i * 96 = (i * 3 + 0) * 32 by ring, readFp_encodeWords h0, e0,
    show (i * 3 + 0) * 32 + 32 = (i * 3 + 1) * 32 by ring, readFp_encodeWords h1, e1,
    show (i * 3 + 0) * 32 + 64 = (i * 3 + 2) * 32 by ring, readFp_encodeWords h2, e2]
  rfl

/-- `find_leaf` searches the first `validLeaves` lower bounds, then tests the range found. -/
lemma findLeaf_ofRanges {v validLeaves} {keys : Nat → Fp} (hvalid : validLeaves ≤ recs.length)
    (hkeys : ∀ i (h : i < recs.length), keys i = recs[i].lo) :
    (ofRanges l recs).findLeaf v validLeaves =
      .ok (let lo := Search.upperBound (fun i => decide (keys i ≤ v)) 0 validLeaves
           if lo = 0 then none
           else recs[lo - 1]?.bind fun r => if intervalCheck r v then some (lo - 1) else none) := by
  have hsearch : binarySearchRecords (ofRanges l recs).data 0 validLeaves TIER1_LEAF_BYTES 0 v =
      .ok (let lo := Search.upperBound (fun i => decide (keys i ≤ v)) 0 validLeaves
           if lo = 0 then none else some (lo - 1)) := by
    refine @binarySearchRecords_encodeWords _ 0 _ 3 0 _ _ ?_
    intro i hi
    rw [Nat.zero_add, getElem?_rangeWords (hi.trans_le hvalid) (by omega), hkeys i (by omega)]
    rfl
  have hbound := (@Search.upperBound_bounds (fun i => decide (keys i ≤ v)) 0 validLeaves
    (by omega)).2
  simp only [findLeaf, hsearch, ok_bind]
  generalize Search.upperBound (fun i => decide (keys i ≤ v)) 0 validLeaves = lo at hbound
  by_cases hz : lo = 0
  · subst hz
    split <;> rfl
  · have hlt : lo - 1 < recs.length := by omega
    rw [if_neg (show validLeaves ≠ 0 by omega), if_neg hz, if_neg hz,
      List.getElem?_eq_getElem hlt]
    simp only [leafRecord_ofRanges hlt, ok_bind, Option.bind_some]
    rfl

/-- The rebuilt subtree is the perfect tree over the row's valid leaves, padded. -/
lemma extractSiblings_ofRanges {H : Hasher} {leafIdx validLeaves} {leaf : Nat → Fp}
    (full : recs.length = 2 ^ l.tier1Layers) (hidx : leafIdx < 2 ^ l.tier1Layers)
    (hleaf : ∀ i (h : i < recs.length),
      leaf i = if i < validLeaves then H.leaf recs[i] else H.emptyLeaf) :
    (ofRanges l recs).extractSiblings leafIdx validLeaves H =
      .ok ((List.range l.tier1Layers).map fun k =>
        Merkle.node H.hash leaf k ((leafIdx / 2 ^ k) ^^^ 1)) := by
  have hcur : (List.range (2 ^ l.tier1Layers)).mapM (fun i =>
      if i < validLeaves then do return H.leaf (← (ofRanges l recs).leafRecord i)
      else return H.emptyLeaf) = (.ok ((List.range (2 ^ l.tier1Layers)).map leaf) : Rust _) := by
    apply mapM_eq_ok
    intro i hi
    have hi : i < recs.length := full ▸ List.mem_range.mp hi
    rw [leafRecord_ofRanges hi, hleaf i hi]
    split <;> rfl
  have hsib := @siblingsLoop_eq H leaf l.tier1Layers 0 leafIdx hidx
  simp only [Nat.zero_add] at hsib
  simp only [extractSiblings, ofRanges_leaves, ofRanges_layers, hcur, ok_bind]
  exact hsib

end Tier1Row

end NullifierPir.Types
