import NullifierPir.Types.FpUtils
import NullifierPir.Types.Layout

/-!
# Tier 0 reader

Port of `pir/types/src/tier0.rs`: the plaintext internal nodes in BFS order followed by the subtree
records `(hash, min_key)`. A blob `fromLayout` accepts is `encodeTier0` of a node list and a record
list (`Tier0Data.fromLayout_ok`), and on such a blob each reader returns the entry its index names.
-/

namespace NullifierPir.Types
open Rust ByteString

/-- Parsed Tier 0 data (Rust `Tier0Data`). -/
structure Tier0Data where
  data : Bytes
  layers : Nat
  numSubtrees : Nat
  internalNodes : Nat
  deriving DecidableEq

namespace Tier0Data

/-- Parse Tier 0 bytes for a layout (Rust `Tier0Data::from_layout`). -/
def fromLayout (data : Bytes) (layout : PirLayout) : Rust Tier0Data := do
  layout.validateSplit
  let layers := layout.tier0Layers
  let numSubtrees ← layout.tier1Rows
  let internalNodes ← layout.tier0InternalNodes
  let expected ← layout.tier0Bytes
  ensure (data.length == expected)
    s!"Tier 0 data size mismatch: got {data.length} bytes, expected {expected}"
  validateAllFpChunks data "Tier 0"
  return ⟨data, layers, numSubtrees, internalNodes⟩

variable (self : Tier0Data)

/-- Root hash (Rust `root`). -/
def root : Rust Fp := readFp self.data 0

/-- Internal node at a top-down depth and index (Rust `node_at`). -/
def nodeAt (depth idx : Nat) : Rust Fp :=
  let bfsPos := 2 ^ depth - 1 + idx
  readFp self.data (bfsPos * 32)

/-- Subtree record `(hash, min_key)` (Rust `subtree_record`). -/
def subtreeRecord (idx : Nat) : Rust (Fp × Fp) := do
  let base := self.internalNodes * 32 + idx * 64
  let hash ← readFp self.data base
  let minKey ← readFp self.data (base + 32)
  return (hash, minKey)

/-- Binary search of the subtree keys (Rust `find_subtree`). -/
def findSubtree (value : Fp) : Rust (Option Nat) :=
  binarySearchRecords self.data (self.internalNodes * 32) self.numSubtrees 64 32 value

/-- Sibling hashes of a subtree, bottom up (Rust `extract_siblings`). Pass `k` of the loop over
`(1..layers).rev()` is at depth `layers - 1 - k` with `pos = subtree_idx >> (k + 1)`. -/
def extractSiblings (subtreeIdx : Nat) : Rust (List Fp) := do
  let (hash, _) ← self.subtreeRecord (subtreeIdx ^^^ 1)
  let upper ← (List.range (self.layers - 1)).mapM fun k =>
    self.nodeAt (self.layers - 1 - k) ((subtreeIdx / 2 ^ (k + 1)) ^^^ 1)
  return hash :: upper

end Tier0Data

/-- The words of a Tier 0 blob: internal nodes in BFS order, then the subtree records. -/
def tier0Words (nodes : List Fp) (records : List (Fp × Fp)) : List Fp :=
  nodes ++ records.flatMap fun r => [r.1, r.2]

/-- A Tier 0 blob. -/
def encodeTier0 (nodes : List Fp) (records : List (Fp × Fp)) : Bytes :=
  encodeWords (tier0Words nodes records)

namespace Tier0Data

variable {l : PirLayout} {nodes : List Fp} {records : List (Fp × Fp)}

/-- The parsed form of `encodeTier0 nodes records`. -/
def ofParts (l : PirLayout) (nodes : List Fp) (records : List (Fp × Fp)) : Tier0Data :=
  ⟨encodeTier0 nodes records, l.tier0Layers, 2 ^ l.tier0Layers, 2 ^ l.tier0Layers - 1⟩

/-- Nodes and records fill the layout. -/
structure Fills (l : PirLayout) (nodes : List Fp) (records : List (Fp × Fp)) : Prop where
  nodes : nodes.length = 2 ^ l.tier0Layers - 1
  records : records.length = 2 ^ l.tier0Layers

/-- Two words a record. -/
lemma length_recordWords : (records.flatMap fun r => [r.1, r.2]).length = records.length * 2 :=
  length_flatMap_const fun _ _ => rfl

/-- The nodes take 32 bytes each, the records 64. -/
lemma length_encodeTier0 :
    (encodeTier0 nodes records).length = nodes.length * 32 + records.length * 64 := by
  rw [encodeTier0, tier0Words, length_encodeWords, List.length_append, length_recordWords]
  ring

/-- Blobs that fill the layout are accepted. -/
lemma fromLayout_encodeTier0 (sup : l.Supported) (fills : Fills l nodes records) :
    fromLayout (encodeTier0 nodes records) l = .ok (ofParts l nodes records) := by
  have hlen : (encodeTier0 nodes records).length =
      (2 ^ l.tier0Layers - 1) * 32 + 2 ^ l.tier0Layers * 64 := by
    rw [length_encodeTier0, fills.nodes, fills.records]
  have hval : validateAllFpChunks (encodeTier0 nodes records) "Tier 0" = .ok () :=
    validateAllFpChunks_encodeWords
  rw [fromLayout, sup.validateSplit_eq, sup.tier1Rows_eq, sup.tier0InternalNodes_eq,
    sup.tier0Bytes_eq]
  simp only [ok_bind]
  rw [ensure_pos (by rw [hlen, beq_self_eq_true]), hval]
  rfl

/-- An even number of words is a list of records. -/
lemma exists_records {n} {w : List Fp} (h : w.length = n * 2) :
    ∃ records : List (Fp × Fp), records.length = n ∧ w = records.flatMap fun r => [r.1, r.2] := by
  induction n generalizing w with
  | zero => exact ⟨[], rfl, List.length_eq_zero_iff.mp (by simpa using h)⟩
  | succ n ih =>
    match w, h with
    | [_], h => simp at h; omega
    | a :: b :: w, h =>
      obtain ⟨records, hr, hrec⟩ := ih (w := w) (by simp only [List.length_cons] at h; omega)
      exact ⟨(a, b) :: records, by simp [hr], by simp [hrec]⟩

/-- Every accepted blob is an encoding that fills the layout. -/
lemma fromLayout_ok {data t} (sup : l.Supported) (ok : fromLayout data l = .ok t) :
    ∃ nodes records, Fills l nodes records ∧ data = encodeTier0 nodes records ∧
      t = ofParts l nodes records := by
  rw [fromLayout, sup.validateSplit_eq, sup.tier1Rows_eq, sup.tier0InternalNodes_eq,
    sup.tier0Bytes_eq] at ok
  simp only [ok_bind] at ok
  obtain ⟨_, hlen, ok⟩ := bind_eq_ok.mp ok
  obtain ⟨_, hval, ok⟩ := bind_eq_ok.mp ok
  have hlen := beq_iff_eq.mp (ensure_eq_ok.mp hlen)
  have hpos : 0 < 2 ^ l.tier0Layers := Nat.two_pow_pos _
  obtain ⟨ws, hn, hws⟩ := exists_words
    (n := (2 ^ l.tier0Layers - 1) + 2 ^ l.tier0Layers * 2) (by omega) hval
  obtain ⟨records, hr, hrec⟩ := exists_records (n := 2 ^ l.tier0Layers)
    (w := ws.drop (2 ^ l.tier0Layers - 1)) (by rw [List.length_drop]; omega)
  refine ⟨ws.take (2 ^ l.tier0Layers - 1), records, ⟨?_, hr⟩, ?_, ?_⟩
  · rw [List.length_take]
    omega
  · rw [hws, encodeTier0, tier0Words, ← hrec, List.take_append_drop]
  · cases ok
    rw [ofParts, encodeTier0, tier0Words, ← hrec, List.take_append_drop, hws]

/-- The stored root is node 0. -/
lemma root_ofParts (h : 0 < nodes.length) : (ofParts l nodes records).root = .ok nodes[0] := by
  have hlen : 0 < (tier0Words nodes records).length := by
    rw [tier0Words, List.length_append]
    omega
  have hget : (tier0Words nodes records)[0] = nodes[0] := List.getElem_append_left h
  have hread := readFp_encodeWords hlen
  rw [hget, Nat.zero_mul] at hread
  exact hread

/-- `node_at` reads the node's BFS slot. -/
lemma nodeAt_ofParts {d i} (h : 2 ^ d - 1 + i < nodes.length) :
    (ofParts l nodes records).nodeAt d i = .ok nodes[2 ^ d - 1 + i] := by
  have hlen : 2 ^ d - 1 + i < (tier0Words nodes records).length := by
    rw [tier0Words, List.length_append]
    omega
  have hget : (tier0Words nodes records)[2 ^ d - 1 + i] = nodes[2 ^ d - 1 + i] :=
    List.getElem_append_left h
  rw [nodeAt, ofParts, encodeTier0]
  exact hget ▸ readFp_encodeWords hlen

section Readers

variable (fills : Fills l nodes records)
include fills

/-- Records come behind the nodes, two words each. -/
lemma getElem?_tier0Words {i k} (h : i < records.length) (hk : k < 2) :
    (tier0Words nodes records)[2 ^ l.tier0Layers - 1 + i * 2 + k]? =
      [records[i].1, records[i].2][k]? := by
  rw [tier0Words, ← fills.nodes, Nat.add_assoc,
    List.getElem?_append_right (Nat.le_add_right _ _), Nat.add_sub_cancel_left]
  exact getElem?_flatMap_const (w := 2) (fun _ _ => rfl) h hk

/-- `subtree_record` reads the record it names. -/
lemma subtreeRecord_ofParts {i} (h : i < records.length) :
    (ofParts l nodes records).subtreeRecord i = .ok records[i] := by
  obtain ⟨h0, e0⟩ := List.getElem?_eq_some_iff.mp (getElem?_tier0Words fills h (k := 0) (by omega))
  obtain ⟨h1, e1⟩ := List.getElem?_eq_some_iff.mp (getElem?_tier0Words fills h (k := 1) (by omega))
  simp only [subtreeRecord, ofParts, encodeTier0]
  rw [show (2 ^ l.tier0Layers - 1) * 32 + i * 64 = (2 ^ l.tier0Layers - 1 + i * 2 + 0) * 32 by ring,
    readFp_encodeWords h0, e0,
    show (2 ^ l.tier0Layers - 1 + i * 2 + 0) * 32 + 32 = (2 ^ l.tier0Layers - 1 + i * 2 + 1) * 32 by
      ring, readFp_encodeWords h1, e1]
  rfl

/-- `find_subtree` is the pure search over the record keys. -/
lemma findSubtree_ofParts {v} {keys : Nat → Fp}
    (hkeys : ∀ i (h : i < records.length), keys i = records[i].2) :
    (ofParts l nodes records).findSubtree v =
      .ok (let lo := Search.upperBound (fun i => decide (keys i ≤ v)) 0 (2 ^ l.tier0Layers)
           if lo = 0 then none else some (lo - 1)) := by
  rw [findSubtree, ofParts, encodeTier0]
  refine @binarySearchRecords_encodeWords _ _ _ 2 1 _ _ ?_
  intro i hi
  have hi' : i < records.length := fills.records ▸ hi
  rw [getElem?_tier0Words fills hi' (by omega), hkeys i hi']
  rfl

end Readers

end Tier0Data

end NullifierPir.Types
