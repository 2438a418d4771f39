import Mathlib

/-!
# Staleness watchdog

Port of the decision function of `nf-server/src/serve/watchdog.rs`. Instants and durations are
naturals, so that a difference saturates as `saturating_duration_since` does.

A stale episode starts at a stale tick whose predecessor is not stale. During an episode the state is
a function of its ticks alone (`stateBefore_stale`), and between episodes it is the initial one
(`stateBefore_fresh`). `watchdog_pages_once` reads off the pages.
-/

namespace NullifierPir.NfServer.Watchdog

/-- One observation. -/
structure Tick where
  now : Nat
  served : Nat
  expected : Nat

/-- Outcome of a tick (Rust `Action`). -/
inductive Action where
  | converged
  | stale (gap staleFor : Nat)
  | fireAlert (served expected gap staleFor : Nat)
  | recovered (gap staleFor : Nat)
  deriving DecidableEq

/-- State carried across ticks (Rust `State`). -/
structure State where
  staleSince : Option Nat := none
  alerted : Bool := false
  lastGap : Nat := 0
  deriving DecidableEq

/-- A canonical height is known and not yet served. -/
def Tick.isStale (t : Tick) : Bool := decide (0 < t.expected) && decide (t.served < t.expected)

/-- Classify an observation and update the state (Rust `tick`). -/
def tick (threshold : Nat) (state : State) (t : Tick) : State × Action :=
  if !t.isStale then
    let staleFor := (state.staleSince.map fun since => t.now - since).getD 0
    ({}, if state.alerted then .recovered state.lastGap staleFor else .converged)
  else
    let gap := t.expected - t.served
    let started := state.staleSince.getD t.now
    let staleFor := t.now - started
    if !state.alerted && decide (threshold ≤ staleFor) then
      (⟨some started, true, gap⟩, .fireAlert t.served t.expected gap staleFor)
    else (⟨some started, state.alerted, gap⟩, .stale gap staleFor)

section Runs

variable (threshold : Nat) (ticks : Nat → Tick)

/-- The state in front of the `k`-th tick. -/
def stateBefore : Nat → State
  | 0 => {}
  | k + 1 => (tick threshold (stateBefore k) (ticks k)).1

/-- What the `k`-th tick returns. -/
def actionAt (k : Nat) : Action := (tick threshold (stateBefore threshold ticks k) (ticks k)).2

/-- The `k`-th tick pages. -/
def Fires (k : Nat) : Prop :=
  ∃ served expected gap staleFor, actionAt threshold ticks k = .fireAlert served expected gap staleFor

/-- The time an action reports. -/
def Action.staleFor : Action → Option Nat
  | .converged => none
  | .stale _ staleFor => some staleFor
  | .fireAlert _ _ _ staleFor => some staleFor
  | .recovered _ staleFor => some staleFor

/-- A stale episode begins at tick `i`. -/
structure Begins (i : Nat) : Prop where
  stale : (ticks i).isStale = true
  fresh : ∀ j, i = j + 1 → (ticks j).isStale = false

/-- Tick `k` is in the episode that begins at `i`. -/
structure InEpisode (i k : Nat) : Prop where
  begins : Begins ticks i
  le : i ≤ k
  stale : ∀ m, i ≤ m → m ≤ k → (ticks m).isStale = true

/-- The threshold has passed at tick `k`, counted from tick `i`. -/
def Overdue (i k : Nat) : Prop := (ticks i).now + threshold ≤ (ticks k).now

end Runs

section Step

variable {threshold : Nat} {state : State} {t : Tick}

/-- A fresh tick recovers or stays converged. -/
lemma tick_fresh (h : t.isStale = false) :
    tick threshold state t =
      ({}, if state.alerted then
          .recovered state.lastGap ((state.staleSince.map fun since => t.now - since).getD 0)
        else .converged) := by
  rw [tick, h]
  rfl

/-- A stale tick of an episode that began at `since`. -/
lemma tick_stale {since} (h : t.isStale = true) (hsince : state.staleSince.getD t.now = since) :
    (tick threshold state t).1 = ⟨some since,
        state.alerted || decide (threshold ≤ t.now - since), t.expected - t.served⟩ ∧
      (tick threshold state t).2 =
        if state.alerted = false ∧ threshold ≤ t.now - since then
          .fireAlert t.served t.expected (t.expected - t.served) (t.now - since)
        else .stale (t.expected - t.served) (t.now - since) := by
  rw [tick, h]
  simp only [Bool.not_true, Bool.false_eq_true, if_false, hsince]
  cases state.alerted with
  | true => simp
  | false =>
    by_cases hdue : threshold ≤ t.now - since
    · simp [hdue]
    · simp [hdue]

end Step

section Episodes

variable {threshold : Nat} {ticks : Nat → Tick}

/-- Between episodes the state is the initial one. -/
lemma stateBefore_fresh {k} (h : ∀ j, k = j + 1 → (ticks j).isStale = false) :
    stateBefore threshold ticks k = {} := by
  cases k with
  | zero => rfl
  | succ k => rw [stateBefore, tick_fresh (h k rfl)]

/-- During an episode the state holds its start, whether it has paged, and the last gap. -/
lemma stateBefore_stale {i k} (episode : InEpisode ticks i k) :
    (stateBefore threshold ticks (k + 1)).staleSince = some (ticks i).now ∧
    (stateBefore threshold ticks (k + 1)).lastGap = (ticks k).expected - (ticks k).served ∧
    ((stateBefore threshold ticks (k + 1)).alerted = true ↔
      ∃ m, i ≤ m ∧ m ≤ k ∧ threshold ≤ (ticks m).now - (ticks i).now) := by
  obtain ⟨begins, hle, hstale⟩ := episode
  induction k, hle using Nat.le_induction with
  | base =>
    have hfresh : stateBefore threshold ticks i = {} := stateBefore_fresh begins.fresh
    have hstep := @tick_stale threshold (stateBefore threshold ticks i) (ticks i) _ begins.stale
      (by rw [hfresh])
    rw [stateBefore, hstep.1, hfresh]
    refine ⟨rfl, rfl, ?_⟩
    simp only [Bool.false_or, decide_eq_true_eq]
    constructor
    · exact fun h => ⟨i, le_rfl, le_rfl, h⟩
    · rintro ⟨m, hlow, hhigh, h⟩
      obtain rfl : m = i := le_antisymm hhigh hlow
      exact h
  | succ k hle ih =>
    obtain ⟨hsince, _, halerted⟩ := ih fun m hlow hhigh => hstale m hlow (Nat.le_succ_of_le hhigh)
    have hstep := @tick_stale threshold (stateBefore threshold ticks (k + 1)) (ticks (k + 1)) _
      (hstale (k + 1) (Nat.le_succ_of_le hle) le_rfl) (by rw [hsince])
    rw [stateBefore, hstep.1]
    refine ⟨rfl, rfl, ?_⟩
    simp only [Bool.or_eq_true, decide_eq_true_eq, halerted]
    constructor
    · rintro (⟨m, hlow, hhigh, h⟩ | h)
      · exact ⟨m, hlow, Nat.le_succ_of_le hhigh, h⟩
      · exact ⟨k + 1, Nat.le_succ_of_le hle, le_rfl, h⟩
    · rintro ⟨m, hlow, hhigh, h⟩
      rcases Nat.le_succ_iff.mp hhigh with hhigh | rfl
      · exact .inl ⟨m, hlow, hhigh, h⟩
      · exact .inr h

/-- The state in front of a tick of an episode. -/
lemma stateBefore_inEpisode {i k} (episode : InEpisode ticks i k) :
    (stateBefore threshold ticks k).staleSince.getD (ticks k).now = (ticks i).now ∧
    ((stateBefore threshold ticks k).alerted = true ↔
      ∃ m, i ≤ m ∧ m < k ∧ threshold ≤ (ticks m).now - (ticks i).now) := by
  obtain ⟨begins, hle, hstale⟩ := episode
  cases Nat.eq_or_lt_of_le hle with
  | inl heq =>
    subst heq
    rw [stateBefore_fresh begins.fresh]
    refine ⟨rfl, ?_⟩
    constructor
    · intro h
      cases h
    · intro h
      obtain ⟨m, hlow, hhigh, _⟩ := h
      exact absurd hhigh (not_lt.mpr hlow)
  | inr hlt =>
    obtain ⟨k, rfl⟩ : ∃ j, k = j + 1 := ⟨k - 1, (Nat.succ_pred_eq_of_pos (by omega)).symm⟩
    have hprev : InEpisode ticks i k :=
      ⟨begins, Nat.le_of_lt_succ hlt, fun m hlow hhigh => hstale m hlow (Nat.le_succ_of_le hhigh)⟩
    obtain ⟨hsince, _, halerted⟩ := stateBefore_stale hprev
    rw [hsince, halerted]
    simp only [Option.getD_some, Nat.lt_succ_iff, true_and]

/-- The first overdue tick of an episode pages. -/
lemma actionAt_fires {i k} (episode : InEpisode ticks i k)
    (hdue : threshold ≤ (ticks k).now - (ticks i).now)
    (hfirst : ¬ ∃ m, i ≤ m ∧ m < k ∧ threshold ≤ (ticks m).now - (ticks i).now) :
    actionAt threshold ticks k = .fireAlert (ticks k).served (ticks k).expected
      ((ticks k).expected - (ticks k).served) ((ticks k).now - (ticks i).now) := by
  obtain ⟨hsince, halerted⟩ := stateBefore_inEpisode episode
  have hquiet : (stateBefore threshold ticks k).alerted = false := by
    rw [← Bool.not_eq_true, halerted]
    exact hfirst
  have hstep := (@tick_stale threshold _ (ticks k) _
    (episode.stale k episode.le le_rfl) hsince).2
  rw [if_pos ⟨hquiet, hdue⟩] at hstep
  exact hstep

/-- Every other tick of an episode only reports. -/
lemma actionAt_reports {i k} (episode : InEpisode ticks i k)
    (h : ¬ (threshold ≤ (ticks k).now - (ticks i).now ∧
      ¬ ∃ m, i ≤ m ∧ m < k ∧ threshold ≤ (ticks m).now - (ticks i).now)) :
    actionAt threshold ticks k =
      .stale ((ticks k).expected - (ticks k).served) ((ticks k).now - (ticks i).now) := by
  obtain ⟨hsince, halerted⟩ := stateBefore_inEpisode episode
  have hstep := (@tick_stale threshold _ (ticks k) _
    (episode.stale k episode.le le_rfl) hsince).2
  have hnot : ¬ ((stateBefore threshold ticks k).alerted = false ∧
      threshold ≤ (ticks k).now - (ticks i).now) := by
    intro hboth
    refine h ⟨hboth.2, ?_⟩
    rw [← halerted, hboth.1]
    exact Bool.false_ne_true
  rw [if_neg hnot] at hstep
  exact hstep

/-- A stale tick pages iff it is the first overdue one of its episode. -/
lemma fires_iff {i k} (episode : InEpisode ticks i k) :
    Fires threshold ticks k ↔ threshold ≤ (ticks k).now - (ticks i).now ∧
      ¬ ∃ m, i ≤ m ∧ m < k ∧ threshold ≤ (ticks m).now - (ticks i).now := by
  constructor
  · intro h
    by_contra hnot
    obtain ⟨_, _, _, _, hfire⟩ := h
    rw [actionAt_reports episode hnot] at hfire
    cases hfire
  · intro h
    exact ⟨_, _, _, _, actionAt_fires episode h.1 h.2⟩

/-- Some tick of an episode up to `k` pages iff some tick of it up to `k` is overdue. -/
lemma fired_iff {i k} (episode : InEpisode ticks i k) :
    (∃ m, i ≤ m ∧ m ≤ k ∧ Fires threshold ticks m) ↔
      ∃ m, i ≤ m ∧ m ≤ k ∧ threshold ≤ (ticks m).now - (ticks i).now := by
  have hsub {m} (hlow : i ≤ m) (hhigh : m ≤ k) : InEpisode ticks i m :=
    ⟨episode.begins, hlow, fun j hj hjm => episode.stale j hj (hjm.trans hhigh)⟩
  constructor
  · intro h
    obtain ⟨m, hlow, hhigh, hfire⟩ := h
    exact ⟨m, hlow, hhigh, ((fires_iff (hsub hlow hhigh)).mp hfire).1⟩
  · intro h
    -- the least overdue tick is the one that pages
    classical
    obtain ⟨hlow, hhigh, hdue⟩ := Nat.find_spec h
    refine ⟨Nat.find h, hlow, hhigh, (fires_iff (hsub hlow hhigh)).mpr ⟨hdue, ?_⟩⟩
    intro hearlier
    obtain ⟨m, hm, hlt, hmdue⟩ := hearlier
    exact Nat.find_min h hlt ⟨hm, hlt.le.trans hhigh, hmdue⟩

/-- The tick that ends an episode. -/
lemma actionAt_ends {i k} (episode : InEpisode ticks i k)
    (hfresh : (ticks (k + 1)).isStale = false) :
    ((∃ m, i ≤ m ∧ m ≤ k ∧ Fires threshold ticks m) →
      actionAt threshold ticks (k + 1) = .recovered ((ticks k).expected - (ticks k).served)
        ((ticks (k + 1)).now - (ticks i).now)) ∧
    ((¬ ∃ m, i ≤ m ∧ m ≤ k ∧ Fires threshold ticks m) →
      actionAt threshold ticks (k + 1) = .converged) := by
  obtain ⟨hsince, hgap, halerted⟩ := stateBefore_stale episode
  rw [fired_iff episode, ← halerted, actionAt, tick_fresh hfresh, hsince, hgap]
  constructor
  · intro h
    rw [if_pos h]
    rfl
  · intro h
    rw [if_neg h]

/-- A tick between episodes. -/
lemma actionAt_fresh {k} (hfresh : (ticks k).isStale = false)
    (hprev : ∀ j, k = j + 1 → (ticks j).isStale = false) :
    actionAt threshold ticks k = .converged := by
  rw [actionAt, tick_fresh hfresh, stateBefore_fresh hprev]
  rfl

/-- Every stale tick is in an episode. -/
lemma exists_inEpisode {k} (h : (ticks k).isStale = true) : ∃ i, InEpisode ticks i k := by
  induction k with
  | zero =>
    refine ⟨0, ⟨h, fun j hj => by cases hj⟩, le_rfl, fun m _ hm => ?_⟩
    obtain rfl : m = 0 := Nat.le_zero.mp hm
    exact h
  | succ k ih =>
    cases hk : (ticks k).isStale with
    | false =>
      refine ⟨k + 1, ⟨h, fun j hj => ?_⟩, le_rfl, fun m hlow hhigh => ?_⟩
      · obtain rfl := Nat.succ.inj hj
        exact hk
      · obtain rfl := le_antisymm hhigh hlow
        exact h
    | true =>
      obtain ⟨i, episode⟩ := ih hk
      refine ⟨i, episode.begins, Nat.le_succ_of_le episode.le, fun m hlow hhigh => ?_⟩
      rcases Nat.le_succ_iff.mp hhigh with hhigh | rfl
      · exact episode.stale m hlow hhigh
      · exact h

end Episodes

section Pages

variable (threshold : Nat) (ticks : Nat → Tick)

/-- What the ticks of the episode that begins at `i` return. -/
structure PagesOnce (i : Nat) : Prop where
  /-- At most one tick pages. -/
  unique : ∀ k m, InEpisode ticks i k → InEpisode ticks i m →
    Fires threshold ticks k → Fires threshold ticks m → k = m
  /-- A tick pages iff it is the first one at least `threshold` after the first tick. -/
  first : ∀ k, InEpisode ticks i k →
    (Fires threshold ticks k ↔
      Overdue threshold ticks i k ∧ ∀ m, i ≤ m → m < k → ¬ Overdue threshold ticks i m)
  /-- Some tick pages iff some tick is at least `threshold` after the first one. -/
  fired : ∀ k, InEpisode ticks i k →
    ((∃ m, i ≤ m ∧ m ≤ k ∧ Fires threshold ticks m) ↔
      ∃ m, i ≤ m ∧ m ≤ k ∧ Overdue threshold ticks i m)
  /-- Every tick reports the time since the first one. -/
  since : ∀ k, InEpisode ticks i k →
    (actionAt threshold ticks k).staleFor = some ((ticks k).now - (ticks i).now)
  /-- The tick that ends the episode recovers iff the episode paged. -/
  recovers : ∀ k, InEpisode ticks i k → (ticks (k + 1)).isStale = false →
    ((∃ m, i ≤ m ∧ m ≤ k ∧ Fires threshold ticks m) ∧
      actionAt threshold ticks (k + 1) = .recovered ((ticks k).expected - (ticks k).served)
        ((ticks (k + 1)).now - (ticks i).now)) ∨
    ((¬ ∃ m, i ≤ m ∧ m ≤ k ∧ Fires threshold ticks m) ∧
      actionAt threshold ticks (k + 1) = .converged)

variable {threshold ticks}

/-- A gap is overdue when it lasts for the threshold. -/
lemma overdue_iff (hmono : Monotone fun k => (ticks k).now) {i k} (hle : i ≤ k) :
    Overdue threshold ticks i k ↔ threshold ≤ (ticks k).now - (ticks i).now := by
  have hnow : (ticks i).now ≤ (ticks k).now := hmono hle
  rw [Overdue, Nat.le_sub_iff_add_le hnow, Nat.add_comm]

/-- One page per stale episode, at the first overdue tick, and one recovery for a page. -/
theorem watchdog_pages_once (threshold : Nat) (ticks : Nat → Tick)
    (hmono : Monotone fun k => (ticks k).now) :
    (∀ i, Begins ticks i → PagesOnce threshold ticks i) ∧
    (∀ k, (ticks k).isStale = true → ∃ i, InEpisode ticks i k) ∧
    ∀ k, (ticks k).isStale = false → (∀ j, k = j + 1 → (ticks j).isStale = false) →
      actionAt threshold ticks k = .converged := by
  refine ⟨fun i begins => ?_, fun k => exists_inEpisode, fun k => actionAt_fresh⟩
  have hfirst (k) (episode : InEpisode ticks i k) :
      Fires threshold ticks k ↔
        Overdue threshold ticks i k ∧ ∀ m, i ≤ m → m < k → ¬ Overdue threshold ticks i m := by
    rw [fires_iff episode, overdue_iff hmono episode.le]
    refine and_congr_right fun _ => ?_
    constructor
    · intro h m hlow hhigh hdue
      exact h ⟨m, hlow, hhigh, (overdue_iff hmono hlow).mp hdue⟩
    · intro h hearlier
      obtain ⟨m, hlow, hhigh, hdue⟩ := hearlier
      exact h m hlow hhigh ((overdue_iff hmono hlow).mpr hdue)
  constructor
  case first => exact hfirst
  case unique =>
    intro k m hk hm hfk hfm
    obtain ⟨hk', hfk⟩ := (hfirst k hk).mp hfk
    obtain ⟨hm', hfm⟩ := (hfirst m hm).mp hfm
    rcases Nat.lt_trichotomy k m with hlt | heq | hlt
    · exact absurd hk' (hfm k hk.le hlt)
    · exact heq
    · exact absurd hm' (hfk m hm.le hlt)
  case fired =>
    intro k episode
    rw [fired_iff episode]
    refine exists_congr fun m => and_congr_right fun hlow => and_congr_right fun _ => ?_
    exact (overdue_iff hmono hlow).symm
  case since =>
    intro k episode
    by_cases h : threshold ≤ (ticks k).now - (ticks i).now ∧
        ¬ ∃ m, i ≤ m ∧ m < k ∧ threshold ≤ (ticks m).now - (ticks i).now
    · rw [actionAt_fires episode h.1 h.2]
      rfl
    · rw [actionAt_reports episode h]
      rfl
  case recovers =>
    intro k episode hfresh
    obtain ⟨hyes, hno⟩ := actionAt_ends episode hfresh
    by_cases hfired : ∃ m, i ≤ m ∧ m ≤ k ∧ Fires threshold ticks m
    · exact .inl ⟨hfired, hyes hfired⟩
    · exact .inr ⟨hfired, hno hfired⟩

/-- The ticks of an episode that pages at its third tick: a tick a minute, nothing served. -/
theorem watchdog_pages_once_minutes :
    (∀ i, Begins (fun k => ⟨60 * k, 0, 5⟩) i → PagesOnce 120 (fun k => ⟨60 * k, 0, 5⟩) i) ∧
      actionAt 120 (fun k => ⟨60 * k, 0, 5⟩) 2 = .fireAlert 0 5 5 120 :=
  ⟨(watchdog_pages_once 120 (fun k => ⟨60 * k, 0, 5⟩)
    (fun _ _ h => Nat.mul_le_mul_left 60 h)).1, by decide⟩

end Pages

end NullifierPir.NfServer.Watchdog
