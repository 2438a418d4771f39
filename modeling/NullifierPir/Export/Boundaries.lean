import NullifierPir.Export.Prepare

/-!
# Prepared nullifiers as a set

`withSentinels` is the strictly increasing list of the nullifiers and the sentinels, so it depends on
the set alone (`withSentinels_eq`). The parity pad goes to the second place of that list whatever
stands there, and the grouping succeeds exactly when it fits (`prepareNullifiers_isOk_iff`). The
sentinels keep every range within `2^250` (`outerSpan_le`).
-/

namespace NullifierPir.Export
open Rust Imt

/-- The test helper that puts the sentinels first (Rust `build_ranges_with_sentinels`). -/
def buildRangesWithSentinels (rawNfs : List Fp) : Rust (List PuncturedRange) :=
  let allNfs := dedup (sortFp (sentinels ++ rawNfs))
  let allNfs := if allNfs.length % 2 == 0 then allNfs.insertIdx 1 (Fp.ofNat 2) else allNfs
  buildPuncturedRanges allNfs

/-- The list that is grouped into ranges. -/
def paddedNfs (nfs : List Fp) : List Fp :=
  if padInserted nfs then (withSentinels nfs).insertIdx 1 (Fp.ofNat 2) else withSentinels nfs

/-- Preparation groups the padded list. -/
lemma prepareNullifiers_eq {nfs} : prepareNullifiers nfs = buildPuncturedRanges (paddedNfs nfs) := rfl

section Sorted

/-- Sorting sorts. -/
lemma sortFp_pairwise {xs : List Fp} : (sortFp xs).Pairwise (· ≤ ·) := by
  have h := @List.pairwise_mergeSort Fp (fun a b => decide (a ≤ b))
    (fun a b c hab hbc => decide_eq_true ((of_decide_eq_true hab).trans (of_decide_eq_true hbc)))
    (fun a b => by simpa using le_total a b) xs
  exact h.imp fun h => of_decide_eq_true h

/-- Dropping adjacent repetitions of a sorted list leaves it strictly increasing. -/
lemma dedup_pairwise {xs : List Fp} (h : xs.Pairwise (· ≤ ·)) : (dedup xs).Pairwise (· < ·) := by
  induction xs using dedup.induct with
  | case1 a xs ih =>
    rw [dedup, if_pos rfl]
    exact ih (List.pairwise_cons.mp h).2
  | case2 a b xs hne ih =>
    obtain ⟨hhead, htail⟩ := List.pairwise_cons.mp h
    rw [dedup, if_neg hne]
    refine List.pairwise_cons.mpr ⟨?_, ih htail⟩
    intro y hy
    have hab : a < b := lt_of_le_of_ne (hhead b List.mem_cons_self) hne
    rcases List.mem_cons.mp (mem_dedup.mp hy) with rfl | hy
    · exact hab
    · exact hab.trans_le ((List.pairwise_cons.mp htail).1 y hy)
  | case3 xs hshort =>
    cases xs with
    | nil => exact List.Pairwise.nil
    | cons a xs =>
      cases xs with
      | nil => exact List.pairwise_singleton _ _
      | cons b xs => exact absurd rfl (hshort a b xs)

/-- The list with the sentinels is strictly increasing. -/
lemma withSentinels_pairwise {nfs} : (withSentinels nfs).Pairwise (· < ·) :=
  dedup_pairwise sortFp_pairwise

/-- A strictly increasing list is determined by its elements. -/
lemma withSentinels_unique {nfs xs} (sorted : xs.Pairwise (· < ·))
    (mem : ∀ v, v ∈ xs ↔ v ∈ nfs ∨ v ∈ sentinels) : withSentinels nfs = xs :=
  withSentinels_pairwise.eq_of_mem_iff sorted fun v => mem_withSentinels.trans (mem v).symm

/-- The order, repetitions and sentinels of the input do not matter. -/
lemma withSentinels_congr {nfs nfs'} (h : ∀ v, v ∉ sentinels → (v ∈ nfs ↔ v ∈ nfs')) :
    withSentinels nfs = withSentinels nfs' := by
  refine withSentinels_unique withSentinels_pairwise fun v => mem_withSentinels.trans ?_
  by_cases hv : v ∈ sentinels
  · exact ⟨fun _ => .inr hv, fun _ => .inr hv⟩
  · rw [h v hv]

/-- Preparation reads a list as a set, up to sentinels. -/
lemma prepareNullifiers_congr {nfs nfs'} (h : ∀ v, v ∉ sentinels → (v ∈ nfs ↔ v ∈ nfs')) :
    prepareNullifiers nfs = prepareNullifiers nfs' := by
  rw [prepareNullifiers, prepareNullifiers, padInserted, padInserted, withSentinels_congr h]

/-- Injecting the sentinels before the input gives the same list. -/
lemma buildRangesWithSentinels_eq {nfs} : buildRangesWithSentinels nfs = prepareNullifiers nfs := by
  have h : dedup (sortFp (sentinels ++ nfs)) = withSentinels nfs := by
    refine (withSentinels_unique (dedup_pairwise sortFp_pairwise) fun v => ?_).symm
    rw [mem_dedup, sortFp, List.mem_mergeSort, List.mem_append, or_comm]
  rw [buildRangesWithSentinels, prepareNullifiers, padInserted, h]

/-- The list starts at the sentinel 0. -/
lemma withSentinels_cons {nfs} : ∃ rest, withSentinels nfs = 0 :: rest := by
  have hzero : (0 : Fp) ∈ withSentinels nfs := mem_withSentinels.mpr (.inr zero_mem_sentinels)
  have hsorted := @withSentinels_pairwise nfs
  cases hlist : withSentinels nfs with
  | nil => exact absurd hlist withSentinels_ne_nil
  | cons a rest =>
    rw [hlist] at hzero hsorted
    rcases List.mem_cons.mp hzero with rfl | h
    · exact ⟨rest, rfl⟩
    · exact absurd ((List.pairwise_cons.mp hsorted).1 0 h) (Fin.not_lt_zero a)

/-- It has one entry for each value. -/
lemma length_withSentinels {nfs} :
    (withSentinels nfs).length = (nfs ++ sentinels).toFinset.card := by
  have hnodup : (withSentinels nfs).Nodup := withSentinels_pairwise.imp fun h => h.ne
  rw [← List.toFinset_card_of_nodup hnodup]
  congr 1
  ext v
  simp [mem_withSentinels]

/-- The two ends of the field are in the list. -/
lemma two_le_length_withSentinels {nfs} : 2 ≤ (withSentinels nfs).length := by
  have hlast : Fp.negOne ∈ withSentinels nfs := mem_withSentinels.mpr (.inr (by simp [sentinels]))
  obtain ⟨rest, hrest⟩ := @withSentinels_cons nfs
  rw [hrest] at hlast ⊢
  rcases List.mem_cons.mp hlast with h | h
  · exact absurd h (by decide)
  · exact Nat.succ_le_succ (List.length_pos_of_mem h)

end Sorted

section Grouping

/-- Triples of a strictly increasing odd list are grouped without a failed assertion. -/
lemma buildPuncturedRanges_isOk {xs : List Fp} (h3 : 3 ≤ xs.length) (hodd : xs.length % 2 = 1)
    (sorted : xs.Pairwise (· < ·)) : ∃ ranges, buildPuncturedRanges xs = .ok ranges := by
  have hlt : ∀ i (h : i + 1 < xs.length), xs[i] < xs[i + 1] := fun i h =>
    List.pairwise_iff_getElem.mp sorted i (i + 1) (by omega) h (by omega)
  have hgroup : ∀ i ∈ List.range ((xs.length - 1) / 2), (do
      let lo ← index xs (i * 2)
      let mid ← index xs (i * 2 + 1)
      let hi ← index xs (i * 2 + 2)
      assert (decide (lo < mid) && decide (mid < hi))
        (s!"punctured range {i} violates strict ordering: nf_lo={lo.debug}, " ++
          s!"nf_mid={mid.debug}, nf_hi={hi.debug} (input must be sorted and deduplicated)")
      return ⟨lo, mid, hi⟩ : Rust PuncturedRange) =
        .ok ⟨xs.getD (i * 2) 0, xs.getD (i * 2 + 1) 0, xs.getD (i * 2 + 2) 0⟩ := by
    intro i hi
    have hi := List.mem_range.mp hi
    have h0 : i * 2 < xs.length := by omega
    have h1 : i * 2 + 1 < xs.length := by omega
    have h2 : i * 2 + 2 < xs.length := by omega
    rw [index_eq_ok h0, index_eq_ok h1, index_eq_ok h2]
    simp only [ok_bind, decide_eq_true (hlt _ h1), decide_eq_true (hlt _ h2), Bool.and_self,
      assert_true, List.getD_eq_getElem?_getD, List.getElem?_eq_getElem h0,
      List.getElem?_eq_getElem h1, List.getElem?_eq_getElem h2, Option.getD_some]
    rfl
  rw [buildPuncturedRanges]
  simp only [decide_eq_true h3, assert_true, ok_bind, hodd, beq_self_eq_true]
  exact ⟨_, mapM_eq_ok hgroup⟩

/-- When the grouping returns, its input was strictly increasing. -/
lemma pairwise_of_buildPuncturedRanges {xs ranges} (ok : buildPuncturedRanges xs = .ok ranges) :
    xs.Pairwise (· < ·) := by
  obtain ⟨hlen, hpos, hget⟩ := buildPuncturedRanges_ok ok
  rw [← List.isChain_iff_pairwise, List.isChain_iff_getElem]
  intro i hi
  have hrange : i / 2 < ranges.length := by omega
  obtain ⟨heq, hord⟩ := hget (i / 2) hrange (by omega)
  rw [heq] at hord
  rcases Nat.mod_two_eq_zero_or_one i with hpar | hpar
  · have h := hord.1
    simp only [show i / 2 * 2 = i by omega] at h
    exact h
  · have h := hord.2
    simp only [show i / 2 * 2 + 1 = i by omega, show i / 2 * 2 + 2 = i + 1 by omega] at h
    exact h

/-- The pad fits in the second place. -/
def PadFits (nfs : List Fp) : Prop :=
  Odd (nfs ++ sentinels).toFinset.card ∨ Fp.ofNat 1 ∉ nfs ∧ Fp.ofNat 2 ∉ nfs

/-- The pad is inserted when the number of values is even. -/
lemma padInserted_iff {nfs} :
    padInserted nfs = true ↔ ¬ Odd (nfs ++ sentinels).toFinset.card := by
  rw [padInserted, length_withSentinels, beq_iff_eq, Nat.not_odd_iff]

/-- A sentinel step does not wrap. -/
lemma val_step_mul {k} (h : k ≤ SENTINEL_COUNT) :
    (Fp.pow (Fp.ofNat 2) SENTINEL_EXPONENT * Fp.ofNat k).val = k * 2 ^ 249 := by
  have hcount : SENTINEL_COUNT = 32 := rfl
  have hk : (Fp.ofNat k).val = k := Nat.mod_eq_of_lt (by
    have : 32 < MODULUS := by decide
    omega)
  have hmul : k * 2 ^ 249 < MODULUS := by
    have : 32 * 2 ^ 249 < MODULUS := by decide
    exact (Nat.mul_le_mul_right _ (hcount ▸ h)).trans_lt this
  rw [Fin.val_mul, Fp.val_pow_two, hk, Nat.mod_mul_mod, Nat.mul_comm]
  exact Nat.mod_eq_of_lt hmul

/-- The sentinels are the multiples of the step and the largest value. -/
lemma mem_sentinels_iff {v} :
    v ∈ sentinels ↔ (∃ k ≤ 32, v.val = k * 2 ^ 249) ∨ v = Fp.negOne := by
  rw [sentinels, List.mem_append, List.mem_singleton, List.mem_map]
  constructor
  · rintro (⟨k, hk, rfl⟩ | h)
    · have hk : k ≤ SENTINEL_COUNT := Nat.lt_succ_iff.mp (List.mem_range.mp hk)
      exact .inl ⟨k, hk, val_step_mul hk⟩
    · exact .inr h
  · rintro (⟨k, hk, hv⟩ | h)
    · refine .inl ⟨k, List.mem_range.mpr (Nat.lt_succ_iff.mpr hk), Fin.ext ?_⟩
      rw [val_step_mul hk, hv]
    · exact .inr h

/-- Between 0 and the first step there is no sentinel. -/
lemma not_mem_sentinels_of_lt {v : Fp} (hpos : 0 < v.val) (hlt : v.val < 2 ^ 249) : v ∉ sentinels := by
  intro h
  rcases mem_sentinels_iff.mp h with ⟨k, _, hk⟩ | rfl
  · cases k with
    | zero => omega
    | succ k => omega
  · rw [Fp.val_negOne] at hlt
    exact absurd hlt (by decide)

/-- A positive value up to 2 is 1 or 2. -/
lemma Fp.eq_one_or_two {v : Fp} (hpos : 0 < v) (hle : v ≤ Fp.ofNat 2) :
    v = Fp.ofNat 1 ∨ v = Fp.ofNat 2 := by
  have h1 : (Fp.ofNat 1).val = 1 := by decide
  have h2 : (Fp.ofNat 2).val = 2 := by decide
  rw [Fin.lt_def] at hpos
  rw [Fin.le_def, h2] at hle
  rw [Fin.ext_iff, Fin.ext_iff, h1, h2]
  have : (0 : Fp).val = 0 := rfl
  omega

/-- With the pad, the list increases exactly when nothing else stands at or below 2. -/
lemma pairwise_insertIdx_iff {rest : List Fp} (sorted : (0 :: rest).Pairwise (· < ·)) :
    ((0 :: rest).insertIdx 1 (Fp.ofNat 2)).Pairwise (· < ·) ↔
      Fp.ofNat 1 ∉ rest ∧ Fp.ofNat 2 ∉ rest := by
  obtain ⟨hpos, hrest⟩ := List.pairwise_cons.mp sorted
  have h12 : Fp.ofNat 1 < Fp.ofNat 2 := by decide
  have h02 : (0 : Fp) < Fp.ofNat 2 := by decide
  rw [List.insertIdx_succ_cons, List.insertIdx_zero, List.pairwise_cons, List.pairwise_cons]
  constructor
  · rintro ⟨_, hpad, _⟩
    exact ⟨fun h => absurd (hpad _ h) (not_lt.mpr h12.le), fun h => lt_irrefl _ (hpad _ h)⟩
  · rintro ⟨hone, htwo⟩
    refine ⟨?_, ?_, hrest⟩
    · intro v hv
      rcases List.mem_cons.mp hv with rfl | hv
      · exact h02
      · exact hpos v hv
    · intro v hv
      by_contra hle
      rcases Fp.eq_one_or_two (hpos v hv) (not_lt.mp hle) with rfl | rfl
      · exact hone hv
      · exact htwo hv

/-- The grouped list is strictly increasing exactly when the pad, if any, fits. -/
lemma paddedNfs_pairwise_iff {nfs} : (paddedNfs nfs).Pairwise (· < ·) ↔ PadFits nfs := by
  rw [paddedNfs, PadFits]
  split
  · rename_i hpad
    obtain ⟨rest, hrest⟩ := @withSentinels_cons nfs
    have hmem : ∀ v, v ∉ sentinels → v ≠ 0 → (v ∈ rest ↔ v ∈ nfs) := by
      intro v hv hne
      have h := @mem_withSentinels nfs v
      rw [hrest, List.mem_cons, or_iff_right hne, or_iff_left hv] at h
      exact h
    rw [hrest, pairwise_insertIdx_iff (hrest ▸ withSentinels_pairwise),
      hmem _ (not_mem_sentinels_of_lt (by decide) (by decide)) (by decide),
      hmem _ (not_mem_sentinels_of_lt (by decide) (by decide)) (by decide),
      or_iff_right (padInserted_iff.mp hpad)]
  · rename_i hpad
    rw [padInserted_iff, not_not] at hpad
    exact ⟨fun _ => .inl hpad, fun _ => withSentinels_pairwise⟩

/-- The padded list has an odd length of at least 3. -/
lemma length_paddedNfs {nfs} : 3 ≤ (paddedNfs nfs).length ∧ (paddedNfs nfs).length % 2 = 1 := by
  have h2 := @two_le_length_withSentinels nfs
  rw [paddedNfs]
  split
  · rename_i hpad
    rw [padInserted, beq_iff_eq] at hpad
    rw [List.length_insertIdx_of_le_length (by omega)]
    omega
  · rename_i hpad
    rw [padInserted, beq_iff_eq] at hpad
    omega

/-- Preparation returns exactly when the pad fits. -/
lemma prepareNullifiers_isOk_iff {nfs} :
    (∃ ranges, prepareNullifiers nfs = .ok ranges) ↔ PadFits nfs := by
  rw [← paddedNfs_pairwise_iff, prepareNullifiers_eq]
  constructor
  · rintro ⟨ranges, ok⟩
    exact pairwise_of_buildPuncturedRanges ok
  · exact buildPuncturedRanges_isOk length_paddedNfs.1 length_paddedNfs.2

/-- The grouped list is always odd and long enough; it is strictly increasing, and preparation
returns, exactly when the pad fits. -/
theorem prepareNullifiers_returns_iff {nfs : List Fp} :
    ((∃ ranges, prepareNullifiers nfs = .ok ranges) ∧ (paddedNfs nfs).length % 2 = 1 ∧
      3 ≤ (paddedNfs nfs).length ∧ (paddedNfs nfs).Pairwise (· < ·)) ↔
    Odd (nfs ++ sentinels).toFinset.card ∨ Fp.ofNat 1 ∉ nfs ∧ Fp.ofNat 2 ∉ nfs := by
  constructor
  · rintro ⟨hok, _⟩
    exact prepareNullifiers_isOk_iff.mp hok
  · intro hfit
    exact ⟨prepareNullifiers_isOk_iff.mpr hfit, length_paddedNfs.2, length_paddedNfs.1,
      paddedNfs_pairwise_iff.mpr hfit⟩

/-- The pad 2 lands before the nullifier 1. -/
theorem prepareNullifiers_one_three :
    ∃ msg, prepareNullifiers [Fp.ofNat 1, Fp.ofNat 3] = .error (.panic msg) := by
  have hlist : withSentinels [Fp.ofNat 1, Fp.ofNat 3] =
      sentinels.take 1 ++ [Fp.ofNat 1, Fp.ofNat 3] ++ sentinels.drop 1 := by
    refine withSentinels_unique (by decide +kernel) fun v => ?_
    conv_rhs => rw [← List.take_append_drop 1 sentinels]
    rw [List.mem_append, List.mem_append, List.mem_append, or_comm (a := v ∈ sentinels.take 1),
      or_assoc]
  have hpad : padInserted [Fp.ofNat 1, Fp.ofNat 3] = true := by
    rw [padInserted, hlist]
    decide +kernel
  rw [prepareNullifiers_eq, paddedNfs, if_pos hpad, hlist]
  exact ⟨"punctured range 0 violates strict ordering: nf_lo=" ++ Fp.debug 0 ++ ", nf_mid=" ++
    (Fp.ofNat 2).debug ++ ", nf_hi=" ++ (Fp.ofNat 1).debug ++
    " (input must be sorted and deduplicated)", by decide +kernel⟩

end Grouping

section Spans

/-- The next multiple above a number is at most one step away. -/
lemma next_multiple {n step : Nat} (h : 0 < step) :
    n < (n / step + 1) * step ∧ (n / step + 1) * step ≤ n + step := by
  have hlow := Nat.lt_div_mul_add h (a := n)
  have hhigh := Nat.div_mul_le_self n step
  rw [Nat.add_mul, Nat.one_mul]
  exact ⟨hlow, Nat.add_le_add_right hhigh step⟩

/-- Above every value but the last there is a sentinel within one step. -/
lemma exists_sentinel_above {v : Fp} (h : v < Fp.negOne) :
    ∃ s ∈ sentinels, v < s ∧ s.val ≤ v.val + 2 ^ 249 := by
  have hneg := Fp.val_negOne
  rw [Fin.lt_def, hneg] at h
  by_cases hk : v.val / 2 ^ 249 + 1 ≤ 32
  · have hlt : (v.val / 2 ^ 249 + 1) * 2 ^ 249 < MODULUS := by
      have : 32 * 2 ^ 249 < MODULUS := by decide
      exact (Nat.mul_le_mul_right _ hk).trans_lt this
    obtain ⟨hlow, hhigh⟩ := @next_multiple v.val (2 ^ 249) (by decide)
    exact ⟨⟨_, hlt⟩, mem_sentinels_iff.mpr (.inl ⟨_, hk, rfl⟩), hlow, hhigh⟩
  · -- past `2^254` only `p - 1` is left
    refine ⟨Fp.negOne, mem_sentinels_iff.mpr (.inr rfl), ?_, ?_⟩
    · rw [Fin.lt_def, hneg]
      exact h
    · have hge : 32 * 2 ^ 249 ≤ v.val :=
        (Nat.mul_le_mul_right _ (by omega)).trans (Nat.div_mul_le_self v.val (2 ^ 249))
      have hp : MODULUS ≤ 33 * 2 ^ 249 := by decide
      rw [hneg]
      omega

variable {nfs : List Fp} {ranges : List PuncturedRange}

/-- A range spans at most two sentinel steps. -/
lemma outerSpan_le (ok : prepareNullifiers nfs = .ok ranges) {i} (h : i < ranges.length) :
    ranges[i].hi.val - ranges[i].lo.val ≤ 2 ^ 250 := by
  obtain ⟨cov, hb, _⟩ := prepareNullifiers_ok ok
  obtain ⟨hlo, hhi⟩ := cov.ordered i h
  -- a sentinel inside the range is its midpoint
  have hmid : ∀ s ∈ sentinels, ranges[i].lo < s → s < ranges[i].hi → s = ranges[i].mid := by
    intro s hs hlow hhigh
    by_contra hne
    exact cov.not_mem_of_boundary h ((hb s).mpr (.inr (.inl hs))) ⟨hlow, hhigh, hne⟩
  obtain ⟨s, hs, hlow, hstep⟩ := exists_sentinel_above ((hlo.trans hhi).trans_le Fp.le_negOne)
  rcases lt_or_ge s ranges[i].hi with hin | hout
  · obtain rfl := hmid s hs hlow hin
    obtain ⟨s', hs', hlow', hstep'⟩ := exists_sentinel_above (hhi.trans_le Fp.le_negOne)
    have hout' : ranges[i].hi ≤ s' := by
      by_contra hin'
      exact hlow'.ne' (hmid s' hs' (hlo.trans hlow') (not_le.mp hin'))
    rw [Fin.le_def] at hout'
    omega
  · rw [Fin.le_def] at hout
    omega

/-- Prepared ranges pass the span check. -/
lemma verifyPuncturedRangeSpans_ok (ok : prepareNullifiers nfs = .ok ranges) :
    verifyPuncturedRangeSpans ranges = .ok () := by
  obtain ⟨cov, _⟩ := prepareNullifiers_ok ok
  have hmax : (Fp.pow (Fp.ofNat 2) 250).val = 2 ^ 250 := by
    rw [Fp.val_pow_two]
    decide
  rw [verifyPuncturedRangeSpans, forEach_eq_ok]
  rintro ⟨r, k⟩ hmem
  obtain ⟨i, hi, rfl⟩ := List.mem_iff_getElem.mp (List.fst_mem_of_mem_zipIdx hmem)
  have hord := cov.ordered i hi
  apply ensure_pos
  apply decide_eq_true
  rw [Fin.le_def, hmax, Fp.val_sub, if_pos (hord.1.trans hord.2).le]
  exact outerSpan_le ok hi

/-- Prepared ranges cover the field exactly: they chain from 0 to `p - 1`, bound the nullifiers, the
sentinels and the pad, stay within the span check, and the lookup finds the one range of every other
value. -/
theorem prepareNullifiers_covers (ok : prepareNullifiers nfs = .ok ranges) :
    (∀ i (h : i + 1 < ranges.length),
      (ranges.get ⟨i, Nat.lt_of_succ_lt h⟩).hi = (ranges.get ⟨i + 1, h⟩).lo) ∧
    (∃ h : 0 < ranges.length, (ranges.get ⟨0, h⟩).lo = 0 ∧
      (ranges.get ⟨ranges.length - 1, Nat.sub_lt h Nat.one_pos⟩).hi = Fp.negOne) ∧
    (∀ r ∈ ranges, r.lo < r.mid ∧ r.mid < r.hi) ∧
    (∀ v, Boundary ranges v ↔ v ∈ nfs ∨ ((∃ k ≤ 32, v.val = k * 2 ^ 249) ∨ v = Fp.negOne) ∨
      (padInserted nfs = true ∧ v = Fp.ofNat 2)) ∧
    (∀ r ∈ ranges, r.hi.val - r.lo.val ≤ 2 ^ 250) ∧
    verifyPuncturedRangeSpans ranges = .ok () ∧
    ∀ v, (Boundary ranges v → findPuncturedRangeForValue ranges v = none) ∧
      (¬ Boundary ranges v → ∃ i, findPuncturedRangeForValue ranges v = some i ∧
        (∃ h : i < ranges.length, (ranges.get ⟨i, h⟩).Mem v) ∧
        ∀ j (h : j < ranges.length), (ranges.get ⟨j, h⟩).Mem v → j = i) := by
  obtain ⟨cov, hb, hends⟩ := prepareNullifiers_ok ok
  refine ⟨cov.chained, hends, ?_, ?_, ?_, verifyPuncturedRangeSpans_ok ok, ?_⟩
  · intro r hr
    obtain ⟨i, hi, rfl⟩ := List.mem_iff_getElem.mp hr
    exact cov.ordered i hi
  · intro v
    rw [hb v, IsBoundary, mem_sentinels_iff]
  · intro r hr
    obtain ⟨i, hi, rfl⟩ := List.mem_iff_getElem.mp hr
    exact outerSpan_le ok hi
  · intro v
    refine ⟨?_, ?_⟩
    · intro hbd
      cases hfind : findPuncturedRangeForValue ranges v with
      | none => rfl
      | some i =>
        obtain ⟨hi, hmem⟩ := cov.find_iff.mp hfind
        exact absurd hmem (cov.not_mem_of_boundary hi hbd)
    · intro hbd
      obtain ⟨i, hi, hmem⟩ := (exists_mem_iff_not_isBoundary ok).mpr fun h => hbd ((hb v).mpr h)
      exact ⟨i, cov.find_iff.mpr ⟨hi, hmem⟩, ⟨hi, hmem⟩, fun j hj h => cov.mem_unique hj hi h hmem⟩

/-- The pad 2 fits in front of two larger nullifiers. -/
lemma padFits_two : PadFits [5, 7] := .inr ⟨by decide, by decide⟩

/-- With the sentinels they are 36, so the pad is inserted. -/
lemma length_withSentinels_two : (withSentinels [5, 7]).length = 36 := by
  rw [length_withSentinels]
  decide +kernel

/-- So the pad is inserted. -/
lemma padInserted_two : padInserted [5, 7] = true := by
  rw [padInserted, length_withSentinels_two]
  rfl

/-- 6 lies between the two. -/
lemma not_isBoundary_six : ¬ IsBoundary [5, 7] 6 := by
  rintro (h | h | ⟨_, h⟩)
  · exact absurd h (by decide)
  · exact not_mem_sentinels_of_lt (by decide) (by decide) h
  · exact absurd h (by decide)

/-- Two nullifiers that need the pad: they and 2 bound the ranges, and 6 is in one of them. -/
theorem prepareNullifiers_covers_two :
    ∃ ranges, prepareNullifiers [5, 7] = .ok ranges ∧ padInserted [5, 7] = true ∧
      verifyPuncturedRangeSpans ranges = .ok () ∧
      (∀ v ∈ ([2, 5, 7] : List Fp), findPuncturedRangeForValue ranges v = none) ∧
      ∃ i, findPuncturedRangeForValue ranges 6 = some i := by
  obtain ⟨ranges, ok⟩ := prepareNullifiers_isOk_iff.mpr padFits_two
  obtain ⟨_, _, _, hb, _, hspans, hfind⟩ := prepareNullifiers_covers ok
  refine ⟨ranges, ok, padInserted_two, hspans, ?_, ?_⟩
  · intro v hv
    simp only [List.mem_cons, List.not_mem_nil, or_false] at hv
    obtain rfl | hv := hv
    · exact (hfind 2).1 ((hb 2).mpr (.inr (.inr ⟨padInserted_two, rfl⟩)))
    · exact (hfind v).1 ((hb v).mpr (.inl (by simpa using hv)))
  · have hout : ¬ Boundary ranges 6 := by
      rw [hb 6, ← mem_sentinels_iff]
      exact not_isBoundary_six
    obtain ⟨i, hi, _⟩ := (hfind 6).2 hout
    exact ⟨i, hi⟩

end Spans

end NullifierPir.Export
