import Mathlib.Tactic.NormNum.Prime
import NullifierPir.Lib.Primality
import NullifierPir.Imt.Proof

/-!
# The interval check in the circuit

`imt-tree/README.md` states the interval check that the delegation circuit enforces: two 250-bit
range checks on differences of field elements, and an inverse of the distance to the midpoint.
`intervalCheck_circuit` shows that on ranges of span at most `2^250`, the bound
`verifyPuncturedRangeSpans` enforces, the out-of-circuit test accepts exactly the values for which
these constraints can be satisfied. The inverse exists because `MODULUS` is prime, which is proved
here from a chain of Lucas certificates (`prime_modulus`).
-/

namespace NullifierPir
open Primality

/-- The Pallas base field modulus is prime. -/
lemma prime_modulus : MODULUS.Prime := by
  -- one certificate for each factor of `MODULUS - 1` that needs one, with those of its own factors
  have h417677162933 : Nat.Prime 417677162933 :=
    @prime_of_lucas 40 _ 2 [2, 59, 1973, 897019]
      ⟨by norm_num, by norm_num, by norm_num, by norm_num⟩ (by decide +kernel)
  have h539204044132271846773 : Nat.Prime 539204044132271846773 :=
    @prime_of_lucas 70 _ 5 [2, 3, 89, 14923, 417677162933]
      ⟨by norm_num, by norm_num, by norm_num, by norm_num, h417677162933⟩ (by decide +kernel)
  have h41655379 : Nat.Prime 41655379 :=
    @prime_of_lucas 40 _ 2 [2, 3, 6942563]
      ⟨by norm_num, by norm_num, by norm_num⟩ (by decide +kernel)
  have h22160661629 : Nat.Prime 22160661629 :=
    @prime_of_lucas 40 _ 3 [2, 7, 19, 41655379]
      ⟨by norm_num, by norm_num, by norm_num, h41655379⟩ (by decide +kernel)
  have h325086459374267 : Nat.Prime 325086459374267 :=
    @prime_of_lucas 50 _ 2 [2, 509, 413527, 772231]
      ⟨by norm_num, by norm_num, by norm_num, by norm_num⟩ (by decide +kernel)
  have h8999194758858563409123804352480028797519453 :
      Nat.Prime 8999194758858563409123804352480028797519453 :=
    @prime_of_lucas 150 _ 2 [2, 3, 11, 2531, 115603, 1197907, 22160661629, 325086459374267]
      ⟨by norm_num, by norm_num, by norm_num, by norm_num, by norm_num, by norm_num,
        h22160661629, h325086459374267⟩ (by decide +kernel)
  exact @prime_of_lucas 256 _ 5
    [2, 3, 463, 539204044132271846773, 8999194758858563409123804352480028797519453]
    ⟨by norm_num, by norm_num, by norm_num, h539204044132271846773,
      h8999194758858563409123804352480028797519453⟩ (by decide +kernel)

/-- Exactly the non-zero elements have a multiplicative inverse. -/
lemma Fp.exists_inverse_iff {x : Fp} : (∃ y, x * y = 1) ↔ x ≠ 0 := by
  constructor
  · rintro ⟨y, hy⟩ rfl
    rw [Fin.zero_mul] at hy
    exact absurd hy (by decide)
  · intro hx
    have hpos : 0 < x.val := Nat.pos_of_ne_zero fun h => hx (Fin.ext h)
    have hcop : Nat.Coprime x.val MODULUS :=
      Nat.coprime_comm.mp (Nat.coprime_of_lt_prime hpos.ne' x.isLt prime_modulus)
    obtain ⟨m, -, hm⟩ := Nat.exists_mul_mod_eq_one_of_coprime hcop prime_modulus.one_lt
    refine ⟨Fp.ofNat m, Fin.ext ?_⟩
    rw [Fin.val_mul, Fp.ofNat, Fin.val_ofNat, Nat.mul_mod_mod, hm]
    rfl

namespace Imt

/-- Bits of the circuit's range check: 25 limbs of 10 bits. -/
def RANGE_CHECK_BITS : Nat := 250

/-- The constraints the circuit documents for a value and the bounds of its leaf, with the witness
`diff_inv` chosen by the prover (`q_punctured_interval`). -/
structure CircuitInterval (r : PuncturedRange) (v : Fp) : Prop where
  lower : (v - r.lo - 1).val < 2 ^ RANGE_CHECK_BITS
  upper : (r.hi - v - 1).val < 2 ^ RANGE_CHECK_BITS
  nonEqual : ∃ diffInv, (v - r.mid) * diffInv = 1

/-- The difference less one that both range checks are made on: it wraps unless `a` is above
`b`. -/
lemma val_sub_sub_one {a b : Fp} :
    (a - b - 1).val = if b < a then a.val - b.val - 1 else MODULUS + a.val - b.val - 1 := by
  have ha := a.isLt
  have hb := b.isLt
  have one : (1 : Fp).val = 1 := by decide
  simp only [Fp.val_sub, Fin.le_def, Fin.lt_def, one]
  grind

/-- The two range checks together are the strict integer bounds, when the span fits. -/
lemma rangeChecks_iff {r : PuncturedRange} {v} (ord : r.Ordered)
    (span : (r.hi - r.lo).val ≤ 2 ^ RANGE_CHECK_BITS) :
    (v - r.lo - 1).val < 2 ^ RANGE_CHECK_BITS ∧ (r.hi - v - 1).val < 2 ^ RANGE_CHECK_BITS ↔
      r.lo < v ∧ v < r.hi := by
  have hlt : r.lo.val < r.hi.val := ord.1.trans ord.2
  have hhi := r.hi.isLt
  have hv := v.isLt
  have hroom : 2 * 2 ^ RANGE_CHECK_BITS < MODULUS := by decide
  rw [Fp.val_sub, if_pos (ord.1.trans ord.2).le] at span
  rw [val_sub_sub_one, val_sub_sub_one]
  simp only [Fin.lt_def]
  generalize 2 ^ RANGE_CHECK_BITS = bound at *
  constructor
  · rintro ⟨hlower, hupper⟩
    -- a wrapped difference leaves no room for the other one
    split at hlower <;> split at hupper <;> omega
  · rintro ⟨hlo, hhi⟩
    rw [if_pos hlo, if_pos hhi]
    omega

/-- A value satisfies the circuit's constraints exactly when it is strictly inside the range. -/
lemma circuitInterval_iff {r : PuncturedRange} {v} (ord : r.Ordered)
    (span : (r.hi - r.lo).val ≤ 2 ^ RANGE_CHECK_BITS) : CircuitInterval r v ↔ r.Mem v := by
  have hbounds := rangeChecks_iff (v := v) ord span
  have hinv : (∃ diffInv, (v - r.mid) * diffInv = 1) ↔ v ≠ r.mid := by
    rw [Fp.exists_inverse_iff, ne_eq, sub_eq_zero]
  constructor
  · intro h
    have hlt := hbounds.mp ⟨h.lower, h.upper⟩
    exact ⟨hlt.1, hlt.2, hinv.mp h.nonEqual⟩
  · rintro ⟨hlo, hhi, hmid⟩
    have hchecks := hbounds.mpr ⟨hlo, hhi⟩
    exact ⟨hchecks.1, hchecks.2, hinv.mpr hmid⟩

/-- The wrapping test is the integer test, and on ranges whose span fits the circuit's range check
it is the circuit's test. -/
theorem intervalCheck_circuit {r : PuncturedRange} (ord : r.Ordered) (v : Fp) :
    (intervalCheck r v = true ↔
      r.lo.val < v.val ∧ v.val < r.hi.val ∧ v ≠ r.mid) ∧
    ((r.hi - r.lo).val ≤ 2 ^ RANGE_CHECK_BITS →
      (intervalCheck r v = true ↔ CircuitInterval r v)) := by
  constructor
  · exact intervalCheck_iff ord
  · intro span
    rw [intervalCheck_iff ord, circuitInterval_iff ord span]

/-- The widest range the spans check allows, and the value next to its lower bound. -/
theorem intervalCheck_circuit_widest :
    CircuitInterval ⟨0, Fp.ofNat (2 ^ 249), Fp.ofNat (2 ^ 250)⟩ 1 :=
  ((intervalCheck_circuit ⟨by decide, by decide⟩ 1).2 (by decide)).mp (by decide)

end Imt
end NullifierPir
