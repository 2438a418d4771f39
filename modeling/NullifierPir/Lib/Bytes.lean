import Mathlib

/-!
# Byte strings

Little-endian encodings of natural numbers (`toLe`/`ofLe`, mutually inverse on `w`-byte words) and
slices of strings of bytes or of wider words. The slice lemmas read a fixed-width record back out of
the concatenation it was written into: `slice_flatMap` for an array of records of one width,
`slice_append_left` and `slice_append_right` for a record array that follows a header.
-/

namespace ByteString

/-- A byte string. -/
abbrev Bytes := List UInt8

/-- The `w`-byte little-endian encoding of `n`, truncated modulo `256 ^ w`. -/
def toLe : Nat → Nat → Bytes
  | 0, _ => []
  | w + 1, n => UInt8.ofNat n :: toLe w (n / 256)

/-- The natural number a byte string denotes in little-endian order. -/
def ofLe : Bytes → Nat
  | [] => 0
  | b :: bs => b.toNat + 256 * ofLe bs

/-- The `len` entries of `xs` from offset `off` on. -/
def slice {β : Type*} (xs : List β) (off len : Nat) : List β := (xs.drop off).take len

/-- A word has its width. -/
@[simp] lemma length_toLe {w n} : (toLe w n).length = w := by
  induction w generalizing n with
  | zero => rfl
  | succ w ih => simp [toLe, ih]

/-- Decoding an encoding leaves what fits the word. -/
lemma ofLe_toLe_mod {w n} : ofLe (toLe w n) = n % 256 ^ w := by
  induction w generalizing n with
  | zero => rw [toLe, ofLe, Nat.pow_zero, Nat.mod_one]
  | succ w ih =>
    have hpow : 256 ^ (w + 1) = 256 * 256 ^ w := Nat.pow_succ'
    rw [toLe, ofLe, ih, UInt8.toNat_ofNat', hpow]
    exact (@Nat.mod_mul 256 (256 ^ w) n).symm

/-- Decoding inverts encoding on numbers that fit. -/
lemma ofLe_toLe {w n} (fits : n < 256 ^ w) : ofLe (toLe w n) = n := by
  rw [ofLe_toLe_mod, Nat.mod_eq_of_lt fits]

/-- A word of `n` bytes is below `256 ^ n`. -/
lemma ofLe_lt {bs : Bytes} : ofLe bs < 256 ^ bs.length := by
  induction bs with
  | nil => simp [ofLe]
  | cons b bs ih =>
    have hb : b.toNat < 256 := b.toNat_lt
    simp only [ofLe, List.length_cons, Nat.pow_succ]
    omega

/-- Encoding inverts decoding on strings of the right length. -/
lemma toLe_ofLe {bs : Bytes} : toLe bs.length (ofLe bs) = bs := by
  induction bs with
  | nil => rfl
  | cons b bs ih =>
    have hb : b.toNat < 256 := b.toNat_lt
    have hdiv : (b.toNat + 256 * ofLe bs) / 256 = ofLe bs := by omega
    have hbyte : UInt8.ofNat (b.toNat + 256 * ofLe bs) = b := by
      apply UInt8.toNat_inj.mp
      simp only [UInt8.toNat_ofNat']
      omega
    simp only [ofLe, List.length_cons, toLe, hdiv, ih, hbyte]

section Slice

variable {α β : Type*} {f : α → List β} {w : Nat}

/-- A slice inside the first part of a concatenation. -/
lemma slice_append_left {a b : List β} {off len} (inside : off + len ≤ a.length) :
    slice (a ++ b) off len = slice a off len := by
  simp only [slice]
  rw [List.drop_append_of_le_length (by omega), List.take_append_of_le_length]
  simp only [List.length_drop]
  omega

/-- A slice inside the second part of a concatenation. -/
lemma slice_append_right {a b : List β} {off len} :
    slice (a ++ b) (a.length + off) len = slice b off len := by
  simp only [slice, ← List.drop_drop, List.drop_left]

/-- The slice of everything. -/
@[simp] lemma slice_zero_length {a : List β} : slice a 0 a.length = a := by
  simp [slice]

/-- A slice of a slice. -/
lemma slice_slice {bs : List β} {o l o' l'} (inside : o' + l' ≤ l) :
    slice (slice bs o l) o' l' = slice bs (o + o') l' := by
  simp only [slice, List.drop_take, List.drop_drop, List.take_take]
  rw [Nat.min_eq_left (by omega)]

/-- Pieces of one width. -/
lemma length_flatMap_const {xs : List α} (width : ∀ x ∈ xs, (f x).length = w) :
    (xs.flatMap f).length = xs.length * w := by
  induction xs with
  | nil => simp
  | cons x xs ih =>
    simp only [List.flatMap_cons, List.length_append, List.length_cons, Nat.add_mul, Nat.one_mul]
    rw [width x (by simp), ih fun y hy => width y (by simp [hy])]
    omega

/-- Record `i` of a concatenation of records of one width is read back by its slice. -/
lemma slice_flatMap {xs : List α} (width : ∀ x ∈ xs, (f x).length = w) {i} (h : i < xs.length) :
    slice (xs.flatMap f) (i * w) w = f xs[i] := by
  induction xs generalizing i with
  | nil => cases h
  | cons x xs ih =>
    have hx : (f x).length = w := width x (by simp)
    cases i with
    | zero =>
      simp only [List.flatMap_cons, Nat.zero_mul, List.getElem_cons_zero]
      rw [slice_append_left (by omega), ← hx, slice_zero_length]
    | succ i =>
      simp only [List.flatMap_cons, List.getElem_cons_succ]
      rw [show (i + 1) * w = (f x).length + i * w by rw [hx]; ring, slice_append_right]
      exact ih (fun y hy => width y (by simp [hy])) (by simpa using h)

/-- Bytes of a slice are those of the list. -/
lemma getElem?_slice {bs : List β} {off len k} (h : k < len) :
    (slice bs off len)[k]? = bs[off + k]? := by
  simp [slice, List.getElem?_take_of_lt h]

/-- Entry `k` of record `i` in a concatenation of records of one width. -/
lemma getElem?_flatMap_const {xs : List α} (width : ∀ x ∈ xs, (f x).length = w) {i k}
    (h : i < xs.length) (hk : k < w) : (xs.flatMap f)[i * w + k]? = (f xs[i])[k]? := by
  rw [← slice_flatMap width h, getElem?_slice hk]

end Slice

end ByteString
