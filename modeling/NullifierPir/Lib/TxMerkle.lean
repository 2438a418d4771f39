import Mathlib

/-!
# The duplicating Merkle tree

The Merkle tree that hashes the last node of an odd level with itself. Its root does not determine the
leaf list: a list that repeats the duplicated nodes has the same root. Between lists without
repetition it does, when the node hash does not collide on the pairs hashed in the two trees and
outputs none of their leaves (`iterate_injective_on`): equal levels have equal levels below
(`pairUp_injective_on`), down to where one of the lists ends.
-/

namespace TxMerkle

variable {H : Type} {node : H → H → H}

/-- The level above: adjacent pairs, the last of an odd list with itself. -/
def pairUp (node : H → H → H) : List H → List H
  | a :: b :: xs => node a b :: pairUp node xs
  | [a] => [node a a]
  | [] => []

/-- The pairs hashed into the level above. -/
def pairs : List H → List (H × H)
  | a :: b :: xs => (a, b) :: pairs xs
  | [a] => [(a, a)]
  | [] => []

/-- Different pairs of a set have different hashes. -/
def BindingOn (node : H → H → H) (S : Set (H × H)) : Prop := S.InjOn fun p => node p.1 p.2

/-- A level is the hashes of the pairs below it. -/
lemma pairUp_eq {xs : List H} : pairUp node xs = (pairs xs).map fun p => node p.1 p.2 := by
  induction xs using pairUp.induct with
  | case1 a b xs ih => rw [pairUp, pairs, List.map_cons, ih]
  | case2 a => rfl
  | case3 => rfl

/-- Pairs are made of the list. -/
lemma mem_pairs {xs : List H} {p} (mem : p ∈ pairs xs) : p.1 ∈ xs := by
  induction xs using pairs.induct with
  | case1 a b xs ih =>
    rcases List.mem_cons.mp mem with rfl | mem
    · exact List.mem_cons_self
    · exact List.mem_cons_of_mem a (List.mem_cons_of_mem b (ih mem))
  | case2 a =>
    obtain rfl := List.mem_singleton.mp mem
    exact List.mem_singleton_self a
  | case3 => cases mem

/-- Distinct hashes make distinct pairs. -/
lemma pairs_nodup {xs : List H} (nodup : xs.Nodup) : (pairs xs).Nodup := by
  induction xs using pairs.induct with
  | case1 a b xs ih =>
    obtain ⟨ha, hrest⟩ := List.nodup_cons.mp nodup
    refine List.nodup_cons.mpr ⟨?_, ih hrest.tail⟩
    intro mem
    exact ha (List.mem_cons_of_mem b (mem_pairs mem))
  | case2 a => exact List.nodup_singleton _
  | case3 => exact List.nodup_nil

/-- A list without repetition is read off its pairs: only the last of an odd list pairs with
itself. -/
lemma pairs_injective {xs ys : List H} (nodup : xs.Nodup) (nodup' : ys.Nodup)
    (heq : pairs xs = pairs ys) : xs = ys := by
  have hone : ∀ a b c (zs : List H), (b :: c :: zs).Nodup → pairs [a] ≠ pairs (b :: c :: zs) := by
    intro a b c zs hz h
    cases (List.cons.inj h).1
    exact (List.nodup_cons.mp hz).1 List.mem_cons_self
  induction xs using pairs.induct generalizing ys with
  | case1 a b xs ih =>
    match ys with
    | [] => cases heq
    | [c] => exact absurd heq.symm (hone c a b xs nodup)
    | c :: d :: ys =>
      obtain ⟨hhead, htail⟩ := List.cons.inj heq
      cases hhead
      have hrest : xs = ys := ih nodup.tail.tail nodup'.tail.tail htail
      rw [hrest]
  | case2 a =>
    match ys with
    | [] => cases heq
    | [c] =>
      cases (List.cons.inj heq).1
      rfl
    | c :: d :: ys => exact absurd heq (hone a c d ys nodup')
  | case3 =>
    match ys with
    | [] => rfl
    | [c] => cases heq
    | c :: d :: ys => cases heq

section Levels

variable {S : Set (H × H)}

/-- The pairs hashed in the first `n` levels belong to `S`. -/
def Within (node : H → H → H) (S : Set (H × H)) (n : Nat) (xs : List H) : Prop :=
  ∀ k < n, ∀ p ∈ pairs ((pairUp node)^[k] xs), p ∈ S

/-- More levels include fewer. -/
lemma Within.pred {n : Nat} {xs : List H} (within : Within node S (n + 1) xs) :
    Within node S n xs :=
  fun k hk => within k (Nat.lt_succ_of_lt hk)

/-- Levels of a list without repetition have none. -/
lemma iterate_nodup (binding : BindingOn node S) {n : Nat} {xs : List H}
    (within : Within node S n xs) (nodup : xs.Nodup) : ((pairUp node)^[n] xs).Nodup := by
  induction n with
  | zero => exact nodup
  | succ n ih =>
    rw [Function.iterate_succ_apply', pairUp_eq]
    have hin := within n (Nat.lt_succ_self n)
    exact (pairs_nodup (ih within.pred)).map_on fun p hp q hq heq =>
      binding (hin p hp) (hin q hq) heq

/-- A level determines the level below when neither repeats a node. -/
lemma pairUp_injective_on (binding : BindingOn node S) {xs ys : List H}
    (within : ∀ p ∈ pairs xs, p ∈ S) (within' : ∀ p ∈ pairs ys, p ∈ S) (nodup : xs.Nodup)
    (nodup' : ys.Nodup) (heq : pairUp node xs = pairUp node ys) : xs = ys := by
  have hmap : ∀ {ps qs : List (H × H)}, (∀ p ∈ ps, p ∈ S) → (∀ q ∈ qs, q ∈ S) →
      (ps.map fun p => node p.1 p.2) = (qs.map fun p => node p.1 p.2) → ps = qs := by
    intro ps
    induction ps with
    | nil =>
      intro qs _ _ h
      exact (List.map_eq_nil_iff.mp h.symm).symm
    | cons p ps ih =>
      intro qs hp hq h
      cases qs with
      | nil => cases h
      | cons q qs =>
        obtain ⟨hhead, htail⟩ := List.cons.inj h
        rw [binding (hp p List.mem_cons_self) (hq q List.mem_cons_self) hhead,
          ih (fun r hr => hp r (List.mem_cons_of_mem p hr))
            (fun r hr => hq r (List.mem_cons_of_mem q hr)) htail]
  rw [pairUp_eq, pairUp_eq] at heq
  exact pairs_injective nodup nodup' (hmap within within' heq)

/-- A level of one list is no list of leaves of the other. -/
lemma ne_iterate_succ {n : Nat} {xs ys : List H} (within : Within node S (n + 1) ys)
    (sep : ∀ p ∈ S, node p.1 p.2 ∉ xs) (hne : xs ≠ []) : xs ≠ (pairUp node)^[n + 1] ys := by
  intro heq
  obtain ⟨x, hx⟩ := List.exists_mem_of_ne_nil xs hne
  have hlevel := hx
  rw [heq, Function.iterate_succ_apply', pairUp_eq] at hlevel
  obtain ⟨p, hp, hxp⟩ := List.mem_map.mp hlevel
  exact sep p (within n (Nat.lt_succ_self n) p hp) (by rw [hxp]; exact hx)

/-- Levels that agree stand at one height, over the same leaves. -/
lemma iterate_injective_on (binding : BindingOn node S) {n m : Nat} {xs ys : List H}
    (within : Within node S n xs) (within' : Within node S m ys)
    (sep : ∀ p ∈ S, node p.1 p.2 ∉ xs) (sep' : ∀ p ∈ S, node p.1 p.2 ∉ ys)
    (hne : xs ≠ []) (hne' : ys ≠ []) (nodup : xs.Nodup) (nodup' : ys.Nodup)
    (heq : (pairUp node)^[n] xs = (pairUp node)^[m] ys) : xs = ys := by
  -- both trees are taken down one level at a time, until one of them is at its leaves
  induction n generalizing m with
  | zero =>
    cases m with
    | zero => exact heq
    | succ m => exact absurd heq (ne_iterate_succ within' sep hne)
  | succ n ih =>
    cases m with
    | zero => exact absurd heq.symm (ne_iterate_succ within sep' hne')
    | succ m =>
      rw [Function.iterate_succ_apply', Function.iterate_succ_apply'] at heq
      exact ih within.pred within'.pred
        (pairUp_injective_on binding (within n (Nat.lt_succ_self n))
          (within' m (Nat.lt_succ_self m)) (iterate_nodup binding within.pred nodup)
          (iterate_nodup binding within'.pred nodup') heq)

end Levels

/-- The root: pair up until one hash is left, `d` when there is none. -/
def rootFrom (node : H → H → H) (d : H) : Nat → List H → H
  | _, [a] => a
  | n + 1, xs => rootFrom node d n (pairUp node xs)
  | 0, _ => d

/-- The pairs hashed on the way to the root. -/
def hashedPairs (node : H → H → H) : Nat → List H → List (H × H)
  | _, [_] => []
  | n + 1, xs => pairs xs ++ hashedPairs node n (pairUp node xs)
  | 0, _ => []

/-- Half as many hashes, rounded up. -/
lemma length_pairUp {xs : List H} : (pairUp node xs).length = (xs.length + 1) / 2 := by
  induction xs using pairUp.induct with
  | case1 a b xs ih =>
    rw [pairUp, List.length_cons, ih, List.length_cons, List.length_cons]
    omega
  | case2 a => simp [pairUp]
  | case3 => simp [pairUp]

/-- The root stands at the end of the levels, above the pairs hashed on the way to it. -/
lemma iterate_rootFrom {d : H} {n : Nat} {xs : List H} (hne : xs ≠ []) (hlen : xs.length ≤ n + 1) :
    ∃ m, (pairUp node)^[m] xs = [rootFrom node d n xs] ∧
      Within node {p | p ∈ hashedPairs node n xs} m xs := by
  induction n generalizing xs with
  | zero =>
    match xs with
    | [] => exact absurd rfl hne
    | [a] => exact ⟨0, rfl, fun k hk => absurd hk (Nat.not_lt_zero k)⟩
    | a :: b :: xs => simp at hlen
  | succ n ih =>
    match xs with
    | [] => exact absurd rfl hne
    | [a] => exact ⟨0, rfl, fun k hk => absurd hk (Nat.not_lt_zero k)⟩
    | a :: b :: xs =>
      obtain ⟨m, hm, within⟩ := @ih (pairUp node (a :: b :: xs)) (List.cons_ne_nil _ _) (by
        rw [length_pairUp]
        simp only [List.length_cons] at hlen ⊢
        omega)
      refine ⟨m + 1, hm, ?_⟩
      intro k hk p hp
      cases k with
      | zero => exact List.mem_append_left _ hp
      | succ k =>
        exact List.mem_append_right _ (within k (Nat.lt_of_succ_lt_succ hk) p hp)

end TxMerkle
