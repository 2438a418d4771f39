import NullifierPir.Lib.Bytes
import NullifierPir.Rust

/-!
# The Pallas base field

`pasta_curves::Fp` as canonical residues modulo `MODULUS`. The order on `Fp` is the order of
canonical integers, as in `Ord for Fp`, and `toRepr`/`fromRepr` are the 32-byte little-endian
encoding and its checked inverse (`to_repr`/`from_repr`). `intervalCheck` is the wrapping test
`0 < value - nf_lo < nf_hi - nf_lo`, `value ≠ nf_mid` that three call sites share; on ordered
bounds it is the integer test (`intervalCheck_iff`).
-/

namespace NullifierPir
open ByteString

/-- The Pallas base field modulus `p`. -/
def MODULUS : Nat := 0x40000000000000000000000000000000224698fc094cf91b992d30ed00000001

instance : NeZero MODULUS := ⟨by decide⟩

/-- A canonical field element. -/
abbrev Fp := Fin MODULUS

namespace Fp

/-- `Fp::from(u64)`. -/
def ofNat (n : Nat) : Fp := Fin.ofNat MODULUS n

/-- `Fp::pow` with a one-limb exponent. -/
def pow (x : Fp) : Nat → Fp
  | 0 => 1
  | n + 1 => pow x n * x

/-- `Fp::one().neg()`, that is `p - 1`. -/
def negOne : Fp := -1

/-- Canonical 32-byte little-endian encoding (`to_repr`). -/
def toRepr (x : Fp) : Bytes := toLe 32 x.val

/-- Checked decoding (`from_repr`): rejects non-canonical encodings. -/
def fromRepr (bs : Bytes) : Option Fp :=
  if h : bs.length = 32 ∧ ofLe bs < MODULUS then some ⟨ofLe bs, h.2⟩ else none

/-- Encodings have 32 bytes. -/
@[simp] lemma length_toRepr {x : Fp} : x.toRepr.length = 32 := length_toLe

/-- Which is enough for the modulus. -/
lemma modulus_lt : MODULUS < 256 ^ 32 := by decide

/-- Decoding inverts encoding. -/
@[simp] lemma fromRepr_toRepr {x : Fp} : fromRepr x.toRepr = some x := by
  have e : ofLe x.toRepr = x.val := ofLe_toLe (x.isLt.trans modulus_lt)
  have h : x.toRepr.length = 32 ∧ ofLe x.toRepr < MODULUS := ⟨length_toRepr, e ▸ x.isLt⟩
  rw [fromRepr, dif_pos h]
  exact congrArg some (Fin.ext e)

/-- Only the canonical encoding decodes to a given element. -/
lemma toRepr_of_fromRepr {bs x} (h : fromRepr bs = some x) : x.toRepr = bs := by
  unfold fromRepr at h
  split at h
  · rename_i hc
    cases h
    simp only [toRepr]
    rw [← hc.1]
    exact toLe_ofLe
  · cases h

/-- An encoding determines the element. -/
lemma toRepr_injective : Function.Injective toRepr := by
  intro x y e
  have h := congrArg fromRepr e
  simpa using h

/-- Field subtraction on canonical integers. -/
lemma val_sub {a b : Fp} :
    (a - b).val = if b ≤ a then a.val - b.val else MODULUS + a.val - b.val := by
  rw [Fin.sub_def]
  have ha := a.isLt
  have hb := b.isLt
  simp only [Fin.le_def]
  split
  · rename_i h
    rw [show MODULUS - b.val + a.val = MODULUS + (a.val - b.val) by omega, Nat.add_mod_left]
    exact Nat.mod_eq_of_lt (by omega)
  · rename_i h
    rw [show MODULUS + a.val - b.val = MODULUS - b.val + a.val by omega]
    exact Nat.mod_eq_of_lt (by omega)

/-- Powers of 2 as numbers. -/
lemma val_pow_two {n} : (pow (ofNat 2) n).val = 2 ^ n % MODULUS := by
  induction n with
  | zero => rfl
  | succ n ih =>
    rw [pow, Fin.val_mul, ih, Nat.pow_succ, show (ofNat 2).val = 2 by decide, Nat.mod_mul_mod]

/-- The largest element as a number. -/
lemma val_negOne : negOne.val = MODULUS - 1 := by decide

/-- No element is larger. -/
lemma le_negOne {x : Fp} : x ≤ negOne := by
  rw [Fin.le_def, val_negOne]
  have := x.isLt
  omega

/-- Debug rendering (`{:?}`): `0x` and the 64 hexadecimal digits, big endian. -/
def debug (x : Fp) : String :=
  let digits := Nat.toDigits 16 x.val
  "0x" ++ String.ofList (List.replicate (64 - digits.length) '0' ++ digits)

end Fp

/-- A punctured range `[nf_lo, nf_mid, nf_hi]`, standing for `(nf_lo, nf_hi) \ {nf_mid}`. -/
structure PuncturedRange where
  lo : Fp
  mid : Fp
  hi : Fp
  deriving DecidableEq

/-- The wrapping interval test on a range: `value - lo` is non-zero and below `hi - lo`, and
`value` is not the midpoint. -/
def intervalCheck (r : PuncturedRange) (value : Fp) : Bool :=
  let offset := value - r.lo
  let span := r.hi - r.lo
  !(offset == 0 || decide (span ≤ offset)) && value != r.mid

/-- Strict membership in the punctured interval. -/
def PuncturedRange.Mem (v : Fp) (r : PuncturedRange) : Prop := r.lo < v ∧ v < r.hi ∧ v ≠ r.mid

/-- Strictly ordered bounds. -/
def PuncturedRange.Ordered (r : PuncturedRange) : Prop := r.lo < r.mid ∧ r.mid < r.hi

/-- On ordered bounds the wrapping test is the integer test. -/
lemma intervalCheck_iff {r : PuncturedRange} {v} (ord : r.Ordered) :
    intervalCheck r v = true ↔ r.Mem v := by
  obtain ⟨h1, h2⟩ := ord
  have hspan : (r.hi - r.lo).val = r.hi.val - r.lo.val := by
    rw [Fp.val_sub, if_pos (h1.trans h2).le]
  have hlt : r.lo.val < r.hi.val := h1.trans h2
  have hhi := r.hi.isLt
  have hv := v.isLt
  have hz : v - r.lo = 0 ↔ (v - r.lo).val = 0 := by
    rw [Fin.ext_iff]
    rfl
  simp only [intervalCheck, PuncturedRange.Mem, Bool.and_eq_true, Bool.not_eq_true',
    Bool.or_eq_false_iff, beq_eq_false_iff_ne, decide_eq_false_iff_not, bne_iff_ne, ne_eq, hz,
    Fin.le_def, Fin.lt_def, hspan, Fp.val_sub]
  split
  · rename_i hle
    constructor
    · rintro ⟨⟨h3, h4⟩, h5⟩
      exact ⟨by omega, by omega, h5⟩
    · rintro ⟨h3, h4, h5⟩
      exact ⟨⟨by omega, by omega⟩, h5⟩
  · rename_i hle
    constructor
    · rintro ⟨⟨h3, h4⟩, h5⟩
      omega
    · rintro ⟨h3, h4, h5⟩
      omega

/-- No value passes the test on a degenerate range, in particular on the empty leaf. -/
lemma intervalCheck_degenerate {r : PuncturedRange} {v} (h : r.lo = r.hi) :
    intervalCheck r v = false := by
  have hspan : (r.hi - r.lo) ≤ v - r.lo := by
    rw [h, Fin.le_def, Fp.val_sub, if_pos le_rfl]
    omega
  simp [intervalCheck, hspan]

end NullifierPir
