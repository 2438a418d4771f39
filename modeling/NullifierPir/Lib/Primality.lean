import Mathlib.NumberTheory.LucasPrimality
import Mathlib.Data.List.Prime

/-!
# Primality certificates

Lucas's criterion as a Boolean test on the number, a witness and the prime factors of its
predecessor (`lucas`). Powers are computed by repeated squaring, so that the kernel evaluates the
test of a number with hundreds of bits. `prime_of_lucas` proves a number that passes prime.
-/

namespace Primality

/-- `acc * a ^ n % m`, squaring `a` while halving `n`, for at most `fuel` bits of `n`. -/
def powMod (m : ℕ) : ℕ → ℕ → ℕ → ℕ → ℕ
  | 0, acc, _, _ => acc % m
  | fuel + 1, acc, a, n =>
    powMod m fuel (if n % 2 = 1 then acc * a % m else acc) (a * a % m) (n / 2)

/-- Repeated squaring computes the power when the exponent has at most `fuel` bits. -/
lemma powMod_eq {m fuel acc a n : ℕ} (h : n < 2 ^ fuel) :
    powMod m fuel acc a n = acc * a ^ n % m := by
  induction fuel generalizing acc a n with
  | zero =>
    obtain rfl : n = 0 := by simpa using h
    simp [powMod]
  | succ fuel ih =>
    have hhalf : n / 2 < 2 ^ fuel := by
      rw [pow_succ] at h
      omega
    have hsq : (a * a % m) ^ (n / 2) ≡ a ^ (2 * (n / 2)) [MOD m] := by
      rw [pow_mul, sq]
      exact (Nat.mod_modEq _ _).pow _
    rw [powMod, ih hhalf]
    split
    · rename_i hodd
      have e : a ^ n = a * a ^ (2 * (n / 2)) := by
        rw [← pow_succ', show 2 * (n / 2) + 1 = n by omega]
      rw [e, ← mul_assoc]
      exact (Nat.mod_modEq _ _).mul hsq
    · rename_i heven
      have e : a ^ n = a ^ (2 * (n / 2)) := by
        rw [show 2 * (n / 2) = n by omega]
      rw [e]
      exact Nat.ModEq.mul rfl hsq

/-- Lucas's test of `p` with witness `a`, where `qs` are the primes of `p - 1`, none of them more
than `bits` times. -/
def lucas (bits p a : ℕ) (qs : List ℕ) : Bool :=
  decide (1 < p) && decide (p ≤ 2 ^ bits) && qs.prod ^ bits % (p - 1) == 0 &&
    powMod p bits 1 a (p - 1) == 1 && qs.all fun q => powMod p bits 1 a ((p - 1) / q) != 1

/-- A number that passes Lucas's test over primes is prime. -/
lemma prime_of_lucas {bits p a : ℕ} {qs : List ℕ} (primes : qs.Forall Nat.Prime)
    (h : lucas bits p a qs = true) : p.Prime := by
  simp only [lucas, Bool.and_eq_true, decide_eq_true_eq, beq_iff_eq, List.all_eq_true, bne_iff_ne,
    ne_eq] at h
  obtain ⟨⟨⟨⟨hp, hbits⟩, hfactors⟩, hfull⟩, hproper⟩ := h
  have hpow {n : ℕ} (hn : n < 2 ^ bits) : (a : ZMod p) ^ n = 1 ↔ powMod p bits 1 a n = 1 := by
    have h := ZMod.natCast_eq_natCast_iff' (a ^ n) 1 p
    rwa [Nat.mod_eq_of_lt hp, Nat.cast_pow, Nat.cast_one, ← one_mul (a ^ n), ← powMod_eq hn] at h
  apply lucas_primality p (a : ZMod p) ((hpow (by omega)).mpr hfull)
  intro q hq hdvd h
  -- a prime of `p - 1` divides a power of the listed product, so it is one of the list
  have hprod : q ∣ qs.prod := hq.dvd_of_dvd_pow (hdvd.trans (Nat.dvd_of_mod_eq_zero hfactors))
  obtain ⟨r, hr, hqr⟩ := (Prime.dvd_prod_iff hq.prime).mp hprod
  obtain rfl := (Nat.prime_dvd_prime_iff_eq hq (List.forall_iff_forall_mem.mp primes r hr)).mp hqr
  have hlt : (p - 1) / q ≤ p - 1 := Nat.div_le_self _ _
  exact hproper q hr ((hpow (by omega)).mp h)

end Primality
