import NullifierPir.Imt.Tree

/-!
# Punctured ranges cover the field

What `buildPuncturedRanges` guarantees of its output, and what the lookup over it finds. `Cover` is
the invariant of a range list: bounds ordered inside each range, and consecutive ranges sharing a
boundary. Under it the ranges are disjoint (`Cover.mem_unique`), a value between the outer bounds is
either a boundary or strictly inside one range (`Cover.mem_or_boundary`), and the lookup returns
exactly that range (`Cover.find_iff`).
-/

namespace NullifierPir.Imt
open Rust

/-- Ordered ranges, each ending where the next begins. -/
structure Cover (ranges : List PuncturedRange) : Prop where
  ordered : ∀ i (h : i < ranges.length), ranges[i].Ordered
  chained : ∀ i (h : i + 1 < ranges.length), ranges[i].hi = ranges[i + 1].lo

/-- `v` is one of the three bounds of some range. -/
def Boundary (ranges : List PuncturedRange) (v : Fp) : Prop :=
  ∃ r ∈ ranges, v = r.lo ∨ v = r.mid ∨ v = r.hi

/-- A run of `buildPuncturedRanges` that does not panic returns the triples of an odd list. -/
lemma buildPuncturedRanges_ok {nfs ranges} (ok : buildPuncturedRanges nfs = .ok ranges) :
    nfs.length = 2 * ranges.length + 1 ∧ 0 < ranges.length ∧
      ∀ i (h : i < ranges.length) (h' : i * 2 + 2 < nfs.length),
        ranges[i] = ⟨nfs[i * 2], nfs[i * 2 + 1], nfs[i * 2 + 2]⟩ ∧ ranges[i].Ordered := by
  simp only [buildPuncturedRanges] at ok
  obtain ⟨_, h3, ok⟩ := bind_eq_ok.mp ok
  obtain ⟨_, hodd, ok⟩ := bind_eq_ok.mp ok
  simp only [assert_eq_ok, decide_eq_true_eq, beq_iff_eq] at h3 hodd
  have hall := mapM_inv ok
  have hlen : ranges.length = (nfs.length - 1) / 2 := by simpa using hall.length_eq.symm
  refine ⟨by omega, by omega, ?_⟩
  intro i h h'
  have hstep := hall.get (by simpa [← hlen] using h) h
  simp only [List.get_eq_getElem, List.getElem_range] at hstep
  rw [index_eq_ok (by omega), index_eq_ok (by omega), index_eq_ok h'] at hstep
  simp only [ok_bind] at hstep
  obtain ⟨_, hord, hr⟩ := bind_eq_ok.mp hstep
  simp only [assert_eq_ok, Bool.and_eq_true, decide_eq_true_eq] at hord
  have e : ranges[i] = _ := (Except.ok.inj hr).symm
  exact ⟨e, e ▸ hord⟩

/-- The triples of an odd list cover: they share their end points. -/
lemma cover_of_buildPuncturedRanges {nfs ranges} (ok : buildPuncturedRanges nfs = .ok ranges) :
    Cover ranges := by
  obtain ⟨hlen, _, hget⟩ := buildPuncturedRanges_ok ok
  constructor
  · intro i h
    exact (hget i h (by omega)).2
  · intro i h
    rw [(hget i (by omega) (by omega)).1, (hget (i + 1) h (by omega)).1]
    simp only [Nat.add_mul, Nat.one_mul]

/-- The boundaries of the triples are the elements of the list. -/
lemma boundary_iff_mem {nfs ranges v} (ok : buildPuncturedRanges nfs = .ok ranges) :
    Boundary ranges v ↔ v ∈ nfs := by
  obtain ⟨hlen, hpos, hget⟩ := buildPuncturedRanges_ok ok
  constructor
  · rintro ⟨r, hr, h⟩
    obtain ⟨i, hi, rfl⟩ := List.mem_iff_getElem.mp hr
    rw [(hget i hi (by omega)).1] at h
    rcases h with rfl | rfl | rfl <;> exact List.getElem_mem _
  · intro hv
    obtain ⟨k, hk, rfl⟩ := List.mem_iff_getElem.mp hv
    -- an even position is the `lo` of its range, except the last one, which is a `hi`
    rcases Nat.lt_or_ge (k / 2) ranges.length with hlt | hge
    · refine ⟨ranges[k / 2], List.getElem_mem _, ?_⟩
      rw [(hget (k / 2) hlt (by omega)).1]
      rcases Nat.mod_two_eq_zero_or_one k with hpar | hpar
      · left
        congr 1
        omega
      · right
        left
        congr 1
        omega
    · refine ⟨ranges[ranges.length - 1], List.getElem_mem _, .inr (.inr ?_)⟩
      rw [(hget (ranges.length - 1) (by omega) (by omega)).1]
      congr 1
      omega

namespace Cover

variable {ranges : List PuncturedRange} (cov : Cover ranges)
include cov

/-- A range lies below every later one. -/
lemma hi_le_lo {i j} (h : i < j) (hj : j < ranges.length) : ranges[i].hi ≤ ranges[j].lo := by
  induction j with
  | zero => cases h
  | succ j ih =>
    rcases Nat.lt_succ_iff_lt_or_eq.mp h with hlt | rfl
    · have hord := cov.ordered j (by omega)
      exact ((ih hlt (by omega)).trans (hord.1.trans hord.2).le).trans (cov.chained j hj).le
    · exact (cov.chained i hj).le

/-- Lower bounds increase along the list. -/
lemma lo_lt_lo {i j} (h : i < j) (hj : j < ranges.length) : ranges[i].lo < ranges[j].lo :=
  have hord := cov.ordered i (by omega)
  (hord.1.trans hord.2).trans_le (cov.hi_le_lo h hj)

/-- Lower ends increase. -/
lemma lo_le_lo {i j} (h : i ≤ j) (hj : j < ranges.length) : ranges[i].lo ≤ ranges[j].lo := by
  rcases Nat.eq_or_lt_of_le h with rfl | hlt
  · exact le_rfl
  · exact (cov.lo_lt_lo hlt hj).le

/-- At most one range contains a value. -/
lemma mem_unique {i j v} (hi : i < ranges.length) (hj : j < ranges.length)
    (mi : ranges[i].Mem v) (mj : ranges[j].Mem v) : i = j := by
  rcases Nat.lt_trichotomy i j with h | h | h
  · exact absurd (mi.2.1.trans_le (cov.hi_le_lo h hj)) (not_lt.mpr mj.1.le)
  · exact h
  · exact absurd (mj.2.1.trans_le (cov.hi_le_lo h hi)) (not_lt.mpr mi.1.le)

/-- No boundary is strictly inside a range. -/
lemma not_mem_of_boundary {i v} (hi : i < ranges.length) (b : Boundary ranges v) :
    ¬ ranges[i].Mem v := by
  rintro ⟨hlo, hhi, hmid⟩
  obtain ⟨r, hr, h⟩ := b
  obtain ⟨j, hj, rfl⟩ := List.mem_iff_getElem.mp hr
  have hord := cov.ordered j hj
  rcases Nat.lt_trichotomy i j with hij | rfl | hij
  · -- `v` lies at or above the `lo` of range `j`, which is at least the `hi` of range `i`
    have hge : ranges[j].lo ≤ v := by
      rcases h with rfl | rfl | rfl
      · exact le_rfl
      · exact hord.1.le
      · exact (hord.1.trans hord.2).le
    exact absurd (hhi.trans_le (cov.hi_le_lo hij hj)) (not_lt.mpr hge)
  · rcases h with rfl | rfl | rfl
    · exact lt_irrefl _ hlo
    · exact hmid rfl
    · exact lt_irrefl _ hhi
  · have hle : v ≤ ranges[j].hi := by
      rcases h with rfl | rfl | rfl
      · exact (hord.1.trans hord.2).le
      · exact hord.2.le
      · exact le_rfl
    exact absurd (hle.trans (cov.hi_le_lo hij hi)) (not_le.mpr hlo)

/-- Between the outer bounds, a value that is no boundary is strictly inside a range. -/
lemma mem_or_boundary {v} (hpos : 0 < ranges.length) (hlo : ranges[0].lo ≤ v)
    (hhi : v ≤ ranges[ranges.length - 1].hi) :
    (∃ i, ∃ h : i < ranges.length, ranges[i].Mem v) ∨ Boundary ranges v := by
  -- the last range that starts at or below `v`
  obtain ⟨i, hi, hle, hnext⟩ : ∃ i, ∃ h : i < ranges.length, ranges[i].lo ≤ v ∧
      v ≤ ranges[i].hi := by
    by_contra hno
    push Not at hno
    have hall : ∀ k (h : k < ranges.length), ranges[k].lo ≤ v := by
      intro k
      induction k with
      | zero => exact fun _ => hlo
      | succ k ih =>
        intro h
        exact (cov.chained k h) ▸ (hno k (by omega) (ih (by omega))).le
    exact absurd hhi (not_le.mpr (hno _ (by omega) (hall _ (by omega))))
  by_cases hb : v = ranges[i].lo ∨ v = ranges[i].mid ∨ v = ranges[i].hi
  · exact .inr ⟨ranges[i], List.getElem_mem _, hb⟩
  · push Not at hb
    exact .inl ⟨i, hi, lt_of_le_of_ne hle (Ne.symm hb.1), lt_of_le_of_ne hnext hb.2.2, hb.2.1⟩

end Cover

/-- The partition point of a list that is split at `k`. -/
lemma partitionPoint_eq {α : Type} {xs : List α} {p : α → Bool} {k} (hk : k ≤ xs.length)
    (below : ∀ i (h : i < xs.length), i < k → p xs[i] = true)
    (above : ∀ h : k < xs.length, p xs[k] = false) : partitionPoint xs p = k := by
  induction xs generalizing k with
  | nil =>
    have e : k = 0 := by simpa using hk
    simp [partitionPoint, e]
  | cons x xs ih =>
    cases k with
    | zero =>
      have hx : p x = false := above (by simp)
      simp [partitionPoint, hx]
    | succ k =>
      have hx : p x = true := below 0 (by simp) (by omega)
      have hrest := @ih k (by simpa using hk)
        (fun i h hik => below (i + 1) (by simpa using h) (by omega))
        fun h => above (by simpa using h)
      simpa [partitionPoint, hx] using hrest

/-- The lookup returns exactly the range strictly containing the value off its midpoint
(Rust `find_punctured_range_for_value`). -/
lemma Cover.find_iff {ranges v i} (cov : Cover ranges) :
    findPuncturedRangeForValue ranges v = some i ↔ ∃ h : i < ranges.length, ranges[i].Mem v := by
  constructor
  · intro h
    simp only [findPuncturedRangeForValue] at h
    split at h
    · cases h
    · split at h
      · rename_i r hr
        obtain ⟨hlt, rfl⟩ := List.getElem?_eq_some_iff.mp hr
        split at h
        · rename_i hc
          cases h
          exact ⟨hlt, (intervalCheck_iff (cov.ordered _ hlt)).mp hc⟩
        · cases h
      · cases h
  · rintro ⟨hlt, hmem⟩
    have hpp : partitionPoint ranges (fun r => decide (r.lo < v)) = i + 1 := by
      apply partitionPoint_eq hlt
      · intro j _ hj
        exact decide_eq_true ((cov.lo_le_lo (Nat.lt_succ_iff.mp hj) hlt).trans_lt hmem.1)
      · intro h
        exact decide_eq_false (not_lt.mpr (hmem.2.1.le.trans (cov.hi_le_lo (by omega) h)))
    simp only [findPuncturedRangeForValue, hpp, Nat.add_one_ne_zero, if_false, Nat.add_sub_cancel,
      List.getElem?_eq_getElem hlt, (intervalCheck_iff (cov.ordered i hlt)).mpr hmem, if_true]

end NullifierPir.Imt
