import Mathlib

/-!
# Binary search

The half-open binary search `while lo < hi { mid = lo + (hi - lo) / 2; … }` over a predicate on
indices. `upperBound` is the pure loop and `upperBoundM` the same loop over a test that may fail.
`upperBound_bounds` holds of every predicate (the window never leaves `[lo, hi]`, so only indices
below `hi` are tested); `upperBound_eq` says where the loop stops on a predicate that is true up to
a point and false from there on.
-/

namespace Search

/-- The first index of `[lo, hi)` at which `p` fails, when `p` is true up to a point. -/
def upperBound (p : Nat → Bool) (lo hi : Nat) : Nat :=
  if _h : lo < hi then
    let mid := lo + (hi - lo) / 2
    if p mid then upperBound p (mid + 1) hi else upperBound p lo mid
  else lo
termination_by hi - lo

/-- The loop of `upperBound` over a test that may fail. -/
def upperBoundM {m : Type → Type*} [Monad m] (p : Nat → m Bool) (lo hi : Nat) : m Nat :=
  if _h : lo < hi then
    let mid := lo + (hi - lo) / 2
    p mid >>= fun b => if b then upperBoundM p (mid + 1) hi else upperBoundM p lo mid
  else pure lo
termination_by hi - lo

/-- Whatever the predicate, the search ends inside its window. -/
lemma upperBound_bounds {p lo hi} (h : lo ≤ hi) :
    lo ≤ upperBound p lo hi ∧ upperBound p lo hi ≤ hi := by
  fun_induction upperBound p lo hi with
  | case1 lo hi hlt mid hp ih =>
    have hmid : mid < hi := by omega
    have := ih (by omega)
    omega
  | case2 lo hi hlt mid hp ih =>
    have hmid : mid < hi := by omega
    have := ih (by omega)
    omega
  | case3 lo hi hlt => omega

/-- On a predicate that is true below `k` and false from `k` on, the search ends at `k`. -/
lemma upperBound_eq {p lo hi k} (hlo : lo ≤ k) (hhi : k ≤ hi)
    (below : ∀ i, lo ≤ i → i < k → p i = true) (above : ∀ i, k ≤ i → i < hi → p i = false) :
    upperBound p lo hi = k := by
  fun_induction upperBound p lo hi with
  | case1 lo hi hlt mid hp ih =>
    have hk : mid < k := by
      by_contra hn
      rw [above mid (by omega) (by omega)] at hp
      cases hp
    exact ih (by omega) hhi (fun i hi' hik => below i (by omega) hik) above
  | case2 lo hi hlt mid hp ih =>
    have hk : k ≤ mid := by
      by_contra hn
      exact hp (below mid (by omega) (by omega))
    exact ih hlo hk below fun i hki him => above i hki (by omega)
  | case3 lo hi hlt => omega

/-- On a predicate that holds below every index where it holds, the search splits the window. -/
lemma upperBound_split {p lo hi n} (hle : lo ≤ hi) (hn : hi ≤ n)
    (down : ∀ i j, i ≤ j → j < n → p j = true → p i = true) (below : ∀ i < lo, p i = true)
    (above : ∀ i, hi ≤ i → i < n → p i = false) :
    (∀ i < upperBound p lo hi, p i = true) ∧ ∀ i, upperBound p lo hi ≤ i → i < n → p i = false := by
  fun_induction upperBound p lo hi with
  | case1 lo hi hlt mid hp ih =>
    have hmid : mid < hi := by omega
    refine ih (by omega) hn (fun i hi' => ?_) above
    exact down i mid (by omega) (by omega) hp
  | case2 lo hi hlt mid hp ih =>
    have hmid : mid < hi := by omega
    refine ih (by omega) (by omega) below fun i hi' hin => ?_
    by_contra htrue
    exact hp (down mid i hi' hin (by simpa using htrue))
  | case3 lo hi hlt => exact ⟨below, fun i hi' => above i (by omega)⟩

/-- The search only looks at indices of its window. -/
lemma upperBoundM_congr {m : Type → Type*} [Monad m] {q q' : Nat → m Bool} {lo hi}
    (same : ∀ i, lo ≤ i → i < hi → q i = q' i) : upperBoundM q lo hi = upperBoundM q' lo hi := by
  fun_induction upperBoundM q lo hi with
  | case1 lo hi hlt mid ih ih' =>
    have hmid : mid < hi := by omega
    rw [upperBoundM.eq_1 q', dif_pos hlt, same mid (by omega) hmid]
    refine congrArg _ (funext fun b => ?_)
    cases b with
    | true => exact ih fun i hi' hlt' => same i (by omega) hlt'
    | false => exact ih' fun i hi' hlt' => same i hi' (by omega)
  | case2 lo hi hlt => rw [upperBoundM, dif_neg hlt]

/-- A test that never fails below `hi` turns the failing search into the pure one. -/
lemma upperBoundM_eq {m : Type → Type*} [Monad m] [LawfulMonad m] {q : Nat → m Bool} {p lo hi}
    (total : ∀ i < hi, q i = pure (p i)) :
    upperBoundM q lo hi = pure (upperBound p lo hi) := by
  fun_induction upperBound p lo hi with
  | case1 lo hi hlt mid hp ih =>
    rw [upperBoundM, dif_pos hlt]
    simp only [total (lo + (hi - lo) / 2) (by omega), pure_bind]
    rw [if_pos hp]
    exact ih total
  | case2 lo hi hlt mid hp ih =>
    rw [upperBoundM, dif_pos hlt]
    simp only [total (lo + (hi - lo) / 2) (by omega), pure_bind]
    rw [if_neg hp]
    exact ih fun i hi' => total i (by omega)
  | case3 lo hi hlt => rw [upperBoundM, dif_neg hlt]

end Search
