import NullifierPir.Field
import NullifierPir.Lib.Search

/-!
# Field element serialization

Port of `pir/types/src/fp_utils.rs`: reading and validating arrays of 32-byte field elements and the
binary search over fixed-size records keyed by one.

Every blob these helpers accept is the encoding of a list of field elements (`exists_words`), so the
readers are specified on `encodeWords`: `readFp_encodeWords` reads a word back and
`binarySearchRecords_encodeWords` turns the record search into `Search.upperBound` over the keys.
-/

namespace NullifierPir.Types
open Rust ByteString

/-- A blob of field elements, each written by `write_fp`. -/
def encodeWords (ws : List Fp) : Bytes := ws.flatMap Fp.toRepr

/-- Read the element at byte offset `off` (Rust `read_fp(&data[off..off + 32])`). -/
def readFp (data : Bytes) (off : Nat) : Rust Fp :=
  if off + 32 ≤ data.length then
    match Fp.fromRepr (slice data off 32) with
    | some x => .ok x
    | none => panicked "read_fp: non-canonical Fp (caller must validate first)"
  else panicked s!"range end index out of range for slice of length {data.length}"

/-- Accept exactly one canonical encoding (Rust `validate_fp_bytes`). -/
def validateFpBytes (buf : Bytes) : Rust Unit := do
  ensure (buf.length == 32)
    s!"invalid field element byte length: got {buf.length}, expected 32"
  ensure (Fp.fromRepr buf).isSome "non-canonical field element encoding"

/-- Validate every whole 32-byte chunk (Rust `validate_all_fp_chunks`). -/
def validateAllFpChunks (data : Bytes) (tierLabel : String) : Rust Unit :=
  forEach (List.range (data.length / 32)) fun i =>
    match validateFpBytes (slice data (i * 32) 32) with
    | .error (.err e) =>
      bail s!"{tierLabel} invalid field element at 32-byte chunk {i}: {e}"
    | r => r

/-- Last record whose key is at most `value`, or `none` (Rust `binary_search_records`). -/
def binarySearchRecords (data : Bytes) (base count recordSize keyOffset : Nat) (value : Fp) :
    Rust (Option Nat) := do
  let lo ← Search.upperBoundM
    (fun mid => do return decide ((← readFp data (base + mid * recordSize + keyOffset)) ≤ value))
    0 count
  return if lo = 0 then none else some (lo - 1)

/-- A word takes 32 bytes. -/
@[simp] lemma length_encodeWords {ws} : (encodeWords ws).length = ws.length * 32 :=
  length_flatMap_const fun _ _ => Fp.length_toRepr

/-- Words are encoded one after the other. -/
lemma encodeWords_append {ws ws'} : encodeWords (ws ++ ws') = encodeWords ws ++ encodeWords ws' :=
  List.flatMap_append

/-- Each word is at its position. -/
lemma slice_encodeWords {ws i} (h : i < ws.length) :
    slice (encodeWords ws) (i * 32) 32 = ws[i].toRepr :=
  slice_flatMap (fun _ _ => Fp.length_toRepr) h

/-- A word is read back at its offset. -/
lemma readFp_encodeWords {ws i} (h : i < ws.length) :
    readFp (encodeWords ws) (i * 32) = .ok ws[i] := by
  rw [readFp, if_pos (by rw [length_encodeWords]; omega), slice_encodeWords h, Fp.fromRepr_toRepr]

/-- Encoded words pass validation. -/
lemma validateAllFpChunks_encodeWords {ws label} :
    validateAllFpChunks (encodeWords ws) label = .ok () := by
  rw [validateAllFpChunks, length_encodeWords, Nat.mul_div_cancel _ (by decide), forEach_eq_ok]
  intro i hi
  have step : validateFpBytes (slice (encodeWords ws) (i * 32) 32) = .ok () := by
    rw [slice_encodeWords (List.mem_range.mp hi), validateFpBytes, Fp.length_toRepr,
      Fp.fromRepr_toRepr]
    rfl
  rw [step]

/-- Validated blobs of whole words encode a list of field elements. -/
lemma exists_words {data label u n} (hlen : data.length = n * 32)
    (ok : validateAllFpChunks data label = .ok u) :
    ∃ ws : List Fp, ws.length = n ∧ data = encodeWords ws := by
  rw [validateAllFpChunks, hlen, Nat.mul_div_cancel _ (by decide), forEach_eq_ok] at ok
  have hall : ∀ i < n, ∃ x, Fp.fromRepr (slice data (i * 32) 32) = some x := by
    intro i hi
    have hstep := ok i (List.mem_range.mpr hi)
    split at hstep
    · cases hstep
    · obtain ⟨_, _, hc⟩ := bind_eq_ok.mp hstep
      exact Option.isSome_iff_exists.mp (ensure_eq_ok.mp hc)
  clear ok
  induction n generalizing data with
  | zero => exact ⟨[], rfl, List.length_eq_zero_iff.mp (by simpa using hlen)⟩
  | succ n ih =>
    obtain ⟨x, hx⟩ := hall 0 (by omega)
    have hdrop : (data.drop 32).length = n * 32 := by
      rw [List.length_drop]
      omega
    obtain ⟨ws, hn, hws⟩ := ih hdrop fun i hi => by
      obtain ⟨y, hy⟩ := hall (i + 1) (by omega)
      refine ⟨y, ?_⟩
      simp only [slice, List.drop_drop] at hy ⊢
      rw [show 32 + i * 32 = (i + 1) * 32 by ring]
      exact hy
    refine ⟨x :: ws, by simp [hn], ?_⟩
    have e : x.toRepr = data.take 32 := by
      simpa [slice] using Fp.toRepr_of_fromRepr hx
    rw [encodeWords, List.flatMap_cons, e]
    change data = data.take 32 ++ encodeWords ws
    rw [← hws, List.take_append_drop]

/-- On encoded words the record search is the pure search over the keys. -/
lemma binarySearchRecords_encodeWords {ws base count size key v} {keys : Nat → Fp}
    (hkeys : ∀ i < count, ws[base + i * size + key]? = some (keys i)) :
    binarySearchRecords (encodeWords ws) (base * 32) count (size * 32) (key * 32) v =
      .ok (let lo := Search.upperBound (fun i => decide (keys i ≤ v)) 0 count
           if lo = 0 then none else some (lo - 1)) := by
  rw [binarySearchRecords, @Search.upperBoundM_eq _ _ _ _ fun i => decide (keys i ≤ v)]
  · rfl
  · intro i hi
    obtain ⟨hlt, hget⟩ := List.getElem?_eq_some_iff.mp (hkeys i hi)
    rw [show base * 32 + i * (size * 32) + key * 32 = (base + i * size + key) * 32 by ring,
      readFp_encodeWords hlt, hget]
    rfl

end NullifierPir.Types
