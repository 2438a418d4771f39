import NullifierPir.Imt.Ranges

/-!
# Preparing nullifiers

Port of the nullifier preparation of `pir/export/src/lib.rs`: sort, inject the circuit's sentinels,
sort and deduplicate, pad to an odd count, and group into punctured ranges (`prepareNullifiers`).
When it returns, the ranges cover the whole field and their boundaries are the input nullifiers, the
sentinels and the pad (`prepareNullifiers_ok`).
-/

namespace NullifierPir.Export
open Rust Imt

def SENTINEL_EXPONENT : Nat := 249
def SENTINEL_COUNT : Nat := 32

/-- `k * 2^249` for `k = 0..=32`, then `p - 1`. -/
def sentinels : List Fp :=
  let step := Fp.pow (Fp.ofNat 2) SENTINEL_EXPONENT
  (List.range (SENTINEL_COUNT + 1)).map (fun k => step * Fp.ofNat k) ++ [Fp.negOne]

/-- `Vec::sort` on field elements. -/
def sortFp (xs : List Fp) : List Fp := xs.mergeSort fun a b => decide (a ≤ b)

/-- `Vec::dedup`: drop repetitions of adjacent elements. -/
def dedup : List Fp → List Fp
  | a :: b :: xs => if a = b then dedup (b :: xs) else a :: dedup (b :: xs)
  | xs => xs

/-- The sorted, deduplicated list of nullifiers and sentinels. -/
def withSentinels (nfs : List Fp) : List Fp := dedup (sortFp (sortFp nfs ++ sentinels))

/-- Whether the parity pad is inserted. -/
def padInserted (nfs : List Fp) : Bool := (withSentinels nfs).length % 2 == 0

/-- Sort, inject sentinels, pad and group into ranges (Rust `prepare_nullifiers`). -/
def prepareNullifiers (nfs : List Fp) : Rust (List PuncturedRange) :=
  let sorted := withSentinels nfs
  let sorted := if padInserted nfs then sorted.insertIdx 1 (Fp.ofNat 2) else sorted
  buildPuncturedRanges sorted

/-- A nullifier, a sentinel, or the parity pad when it was inserted. -/
def IsBoundary (nfs : List Fp) (v : Fp) : Prop :=
  v ∈ nfs ∨ v ∈ sentinels ∨ (padInserted nfs = true ∧ v = Fp.ofNat 2)

/-- Removing duplicates keeps the elements. -/
lemma mem_dedup {xs : List Fp} {v} : v ∈ dedup xs ↔ v ∈ xs := by
  induction xs using dedup.induct with
  | case1 a xs ih =>
    rw [dedup, if_pos rfl, ih]
    simp
  | case2 a b xs hne ih =>
    rw [dedup, if_neg hne]
    simp only [List.mem_cons, ih]
  | case3 xs h =>
    match xs with
    | [] => rfl
    | [_] => rfl
    | a :: b :: xs => exact absurd rfl (h a b xs)

/-- The nullifiers and the sentinels. -/
lemma mem_withSentinels {nfs v} : v ∈ withSentinels nfs ↔ v ∈ nfs ∨ v ∈ sentinels := by
  simp [withSentinels, sortFp, mem_dedup]

/-- There are sentinels. -/
lemma withSentinels_ne_nil {nfs} : withSentinels nfs ≠ [] := by
  intro e
  have h : Fp.negOne ∈ withSentinels nfs := mem_withSentinels.mpr (.inr (by simp [sentinels]))
  rw [e] at h
  cases h

/-- The list handed to the grouping holds exactly the boundaries. -/
lemma mem_padded_iff {nfs v} :
    v ∈ (if padInserted nfs then (withSentinels nfs).insertIdx 1 (Fp.ofNat 2)
      else withSentinels nfs) ↔ IsBoundary nfs v := by
  have hlen : 1 ≤ (withSentinels nfs).length :=
    Nat.one_le_iff_ne_zero.mpr fun h => withSentinels_ne_nil (List.length_eq_zero_iff.mp h)
  split
  · rename_i hpad
    rw [List.mem_insertIdx hlen, mem_withSentinels, IsBoundary, hpad]
    constructor
    · rintro (h | h | h)
      · exact .inr (.inr ⟨rfl, h⟩)
      · exact .inl h
      · exact .inr (.inl h)
    · rintro (h | h | ⟨_, h⟩)
      · exact .inr (.inl h)
      · exact .inr (.inr h)
      · exact .inl h
  · rename_i hpad
    rw [mem_withSentinels, IsBoundary]
    simp [hpad]

/-- 0 is a sentinel. -/
lemma zero_mem_sentinels : (0 : Fp) ∈ sentinels := by
  refine List.mem_append_left _ (List.mem_map.mpr ⟨0, by simp, ?_⟩)
  rw [show Fp.ofNat 0 = 0 from rfl, Fin.mul_zero]

/-- When preparation returns, its ranges cover the field and bound exactly the boundaries. -/
lemma prepareNullifiers_ok {nfs ranges} (ok : prepareNullifiers nfs = .ok ranges) :
    Cover ranges ∧ (∀ v, Boundary ranges v ↔ IsBoundary nfs v) ∧
      ∃ h : 0 < ranges.length, (ranges.get ⟨0, h⟩).lo = 0 ∧
        (ranges.get ⟨ranges.length - 1, Nat.sub_lt h Nat.one_pos⟩).hi = Fp.negOne := by
  have cov := cover_of_buildPuncturedRanges ok
  have hb : ∀ v, Boundary ranges v ↔ IsBoundary nfs v := fun v =>
    (boundary_iff_mem ok).trans mem_padded_iff
  obtain ⟨_, hpos, _⟩ := buildPuncturedRanges_ok ok
  refine ⟨cov, hb, hpos, ?_, ?_⟩
  · -- the sentinel 0 is a boundary, and no boundary lies below the first range
    obtain ⟨r, hr, h⟩ := (hb 0).mpr (.inr (.inl zero_mem_sentinels))
    obtain ⟨j, hj, rfl⟩ := List.mem_iff_getElem.mp hr
    have hord := cov.ordered j hj
    have hle := cov.lo_le_lo (Nat.zero_le j) hj
    apply le_antisymm _ (Fin.zero_le _)
    rcases h with h | h | h
    · exact h ▸ hle
    · exact h ▸ hle.trans hord.1.le
    · exact h ▸ hle.trans (hord.1.trans hord.2).le
  · obtain ⟨r, hr, h⟩ := (hb Fp.negOne).mpr (.inr (.inl (by simp [sentinels])))
    obtain ⟨j, hj, rfl⟩ := List.mem_iff_getElem.mp hr
    have hord := cov.ordered j hj
    have hle : ranges[j].hi ≤ ranges[ranges.length - 1].hi := by
      rcases Nat.lt_or_ge j (ranges.length - 1) with hlt | hge
      · have hlast := cov.ordered (ranges.length - 1) (by omega)
        exact (cov.hi_le_lo hlt (by omega)).trans (hlast.1.trans hlast.2).le
      · obtain rfl : j = ranges.length - 1 := by omega
        exact le_rfl
    apply le_antisymm Fp.le_negOne
    rcases h with h | h | h
    · exact h ▸ (hord.1.trans hord.2).le.trans hle
    · exact h ▸ hord.2.le.trans hle
    · exact h ▸ hle

/-- Every field value is a boundary or lies strictly inside one range, never both. -/
lemma exists_mem_iff_not_isBoundary {nfs ranges v} (ok : prepareNullifiers nfs = .ok ranges) :
    (∃ i, ∃ h : i < ranges.length, ranges[i].Mem v) ↔ ¬ IsBoundary nfs v := by
  obtain ⟨cov, hb, hpos, hlo, hhi⟩ := prepareNullifiers_ok ok
  constructor
  · rintro ⟨i, h, hmem⟩ hbd
    exact cov.not_mem_of_boundary h ((hb v).mpr hbd) hmem
  · intro hbd
    rcases cov.mem_or_boundary hpos (hlo ▸ Fin.zero_le v) (hhi ▸ Fp.le_negOne) with h | h
    · exact h
    · exact absurd ((hb v).mp h) hbd

/-- Without nullifiers the sentinels remain, which are sorted and distinct. -/
lemma withSentinels_nil : withSentinels [] = sentinels := by
  have hnil : sortFp [] = [] := List.mergeSort_nil
  have hsort : sortFp sentinels = sentinels := List.mergeSort_of_pairwise (by decide +kernel)
  have hdedup : dedup sentinels = sentinels := by decide +kernel
  rw [withSentinels, hnil, List.nil_append, hsort, hdedup]

/-- The ranges of the sentinels and the parity pad alone. -/
def sentinelRanges : List PuncturedRange :=
  (buildPuncturedRanges (sentinels.insertIdx 1 (Fp.ofNat 2))).toOption.getD []

/-- They prepare the sentinel ranges. -/
lemma prepareNullifiers_nil : prepareNullifiers [] = .ok sentinelRanges := by
  have hpad : padInserted [] = true := by
    rw [padInserted, withSentinels_nil]
    decide +kernel
  rw [prepareNullifiers]
  simp only [hpad, withSentinels_nil, if_true]
  decide +kernel

/-- There are 17 of them, and they pass the span check. -/
lemma sentinelRanges_checked :
    sentinelRanges.length = 17 ∧ verifyPuncturedRangeSpans sentinelRanges = .ok () := by
  decide +kernel

end NullifierPir.Export
