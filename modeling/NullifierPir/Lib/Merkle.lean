import Mathlib

/-!
# Perfect Merkle trees

The perfect binary tree over an infinite leaf function: `node l i` is the node at height `l` and
index `i`, for any two-input `hash`. A finite tree padded with empty leaves is the case where `leaf`
is constant from some index on, and its padding nodes are `emptyNode` (`node_eq_emptyNode`).

`climb` is the fold of a verifier along an authentication path. `climb_siblings` is completeness:
the siblings of a leaf climb to the node above it. `climb_sound` is soundness: a path that climbs to
a node of the tree started at the tree's own node, provided `hash` is injective on the pairs that the
tree and the climb feed to it.
-/

namespace Merkle

variable {F : Type*} (hash : F → F → F)

/-- The node at height `l`, index `i` of the perfect tree over `leaf`. -/
def node (leaf : Nat → F) : Nat → Nat → F
  | 0, i => leaf i
  | l + 1, i => hash (node leaf l (2 * i)) (node leaf l (2 * i + 1))

/-- The root of a tree of height `l` whose leaves are all `e`. -/
def emptyNode (e : F) : Nat → F
  | 0 => e
  | l + 1 => hash (emptyNode e l) (emptyNode e l)

/-- Fold an authentication path over `cur`, the low bit of `pos` choosing the side. -/
def climb : F → Nat → List F → F
  | cur, _, [] => cur
  | cur, pos, s :: path =>
    climb (if pos % 2 = 0 then hash cur s else hash s cur) (pos / 2) path

/-- The pairs `climb` feeds to the hash. -/
def climbPairs : F → Nat → List F → List (F × F)
  | _, _, [] => []
  | cur, pos, s :: path =>
    let pair := if pos % 2 = 0 then (cur, s) else (s, cur)
    pair :: climbPairs (hash pair.1 pair.2) (pos / 2) path

variable {hash} {leaf : Nat → F}

/-- The sibling of an even index is the next one. -/
lemma xor_one_of_even {i : Nat} (h : i % 2 = 0) : i ^^^ 1 = i + 1 := by
  have hdiv : (i ^^^ 1) / 2 = i / 2 := by simp [Nat.xor_div_two]
  have hmod : (i ^^^ 1) % 2 = 1 := by
    rw [Nat.xor_mod_two_eq]
    omega
  omega

/-- The sibling of an odd index is the one before. -/
lemma xor_one_of_odd {i : Nat} (h : i % 2 = 1) : i ^^^ 1 = i - 1 := by
  have hdiv : (i ^^^ 1) / 2 = i / 2 := by simp [Nat.xor_div_two]
  have hmod : (i ^^^ 1) % 2 = 0 := by
    rw [Nat.xor_mod_two_eq]
    omega
  omega

/-- Hashing a node with its sibling gives the node above. -/
lemma node_succ_div (l i : Nat) :
    node hash leaf (l + 1) (i / 2) =
      if i % 2 = 0 then hash (node hash leaf l i) (node hash leaf l (i ^^^ 1))
      else hash (node hash leaf l (i ^^^ 1)) (node hash leaf l i) := by
  split
  · rename_i h
    rw [xor_one_of_even h, node, show 2 * (i / 2) = i by omega]
  · rename_i h
    rw [xor_one_of_odd (by omega), node, show 2 * (i / 2) = i - 1 by omega,
      show i - 1 + 1 = i by omega]

/-- The subtree of height `t` at index `s` is the tree over the leaves from `s * 2 ^ t` on. -/
lemma node_shift {s t l i} (h : l ≤ t) :
    node hash (fun j => leaf (s * 2 ^ t + j)) l i = node hash leaf l (s * 2 ^ (t - l) + i) := by
  induction l generalizing i with
  | zero => simp [node]
  | succ l ih =>
    have e : s * 2 ^ (t - l) = 2 * (s * 2 ^ (t - (l + 1))) := by
      rw [show t - l = t - (l + 1) + 1 by omega, Nat.pow_succ]
      ring
    simp only [node]
    rw [ih (by omega), ih (by omega), e]
    congr 2 <;> ring

/-- A node all of whose leaves are padding is an empty node. -/
lemma node_eq_emptyNode {e n l i} (pad : ∀ j, n ≤ j → leaf j = e) (h : n ≤ i * 2 ^ l) :
    node hash leaf l i = emptyNode hash e l := by
  induction l generalizing i with
  | zero => exact pad i (by simpa using h)
  | succ l ih =>
    have e' : i * 2 ^ (l + 1) = 2 * i * 2 ^ l := by ring
    simp only [node, emptyNode]
    rw [ih (by omega), ih (by rw [Nat.add_mul]; omega)]

/-- Completeness: the siblings of node `pos` climb to the node above it. -/
lemma climb_siblings {l pos n} :
    climb hash (node hash leaf l pos) pos
      ((List.range n).map fun k => node hash leaf (l + k) ((pos / 2 ^ k) ^^^ 1)) =
    node hash leaf (l + n) (pos / 2 ^ n) := by
  induction n generalizing l pos with
  | zero => simp [climb]
  | succ n ih =>
    rw [List.range_succ_eq_map]
    simp only [List.map_cons, List.map_map, climb, Nat.pow_zero, Nat.div_one, Nat.add_zero,
      ← node_succ_div]
    have e : ((fun k => node hash leaf (l + k) ((pos / 2 ^ k) ^^^ 1)) ∘ Nat.succ) =
        fun k => node hash leaf (l + 1 + k) ((pos / 2 / 2 ^ k) ^^^ 1) := by
      funext k
      simp only [Function.comp, Nat.succ_eq_add_one, Nat.pow_succ, Nat.div_div_eq_div_mul]
      rw [show l + (k + 1) = l + 1 + k by omega, Nat.mul_comm 2]
    rw [e, ih, Nat.div_div_eq_div_mul, Nat.pow_succ, Nat.mul_comm 2,
      show l + 1 + n = l + (n + 1) by omega]

/-- Only the low bits of the position steer a climb. -/
lemma climb_mod {cur : F} {pos} {path : List F} :
    climb hash cur (pos % 2 ^ path.length) path = climb hash cur pos path := by
  induction path generalizing cur pos with
  | nil => rfl
  | cons s path ih =>
    have e : pos % 2 ^ (path.length + 1) % 2 = pos % 2 := by
      rw [Nat.pow_succ', Nat.mod_mul_right_mod]
    have e' : pos % 2 ^ (path.length + 1) / 2 = pos / 2 % 2 ^ path.length := by
      rw [Nat.pow_succ', Nat.mod_mul_right_div_self]
    simp only [climb, List.length_cons, e, e', ih]

/-- Only the low bits of the position are read. -/
lemma climbPairs_mod {cur : F} {pos} {path : List F} :
    climbPairs hash cur (pos % 2 ^ path.length) path = climbPairs hash cur pos path := by
  induction path generalizing cur pos with
  | nil => rfl
  | cons s path ih =>
    have e : pos % 2 ^ (path.length + 1) % 2 = pos % 2 := by
      rw [Nat.pow_succ', Nat.mod_mul_right_mod]
    have e' : pos % 2 ^ (path.length + 1) / 2 = pos / 2 % 2 ^ path.length := by
      rw [Nat.pow_succ', Nat.mod_mul_right_div_self]
    simp only [climbPairs, List.length_cons, e, e', ih]

/-- Soundness: a climb that ends at a node of the tree started at the tree's node, when `hash` is
injective on a set holding the pairs of the climb and of the tree's own path. -/
lemma climb_sound {S : Set (F × F)} {cur : F} {l pos} {path : List F}
    (inj : ∀ a ∈ S, ∀ b ∈ S, hash a.1 a.2 = hash b.1 b.2 → a = b)
    (hclimb : ∀ a ∈ climbPairs hash cur pos path, a ∈ S)
    (htree : ∀ k < path.length,
      (node hash leaf (l + k) (2 * (pos / 2 ^ (k + 1))),
        node hash leaf (l + k) (2 * (pos / 2 ^ (k + 1)) + 1)) ∈ S)
    (h : climb hash cur pos path = node hash leaf (l + path.length) (pos / 2 ^ path.length)) :
    cur = node hash leaf l pos := by
  induction path generalizing cur l pos with
  | nil => simpa [climb] using h
  | cons s path ih =>
    simp only [climbPairs, List.mem_cons, forall_eq_or_imp] at hclimb
    obtain ⟨hfst, hrest⟩ := hclimb
    have hpair : (if pos % 2 = 0 then hash cur s else hash s cur) =
        hash (if pos % 2 = 0 then (cur, s) else (s, cur)).1
          (if pos % 2 = 0 then (cur, s) else (s, cur)).2 := by
      split <;> rfl
    have up := @ih (if pos % 2 = 0 then hash cur s else hash s cur) (l + 1) (pos / 2)
      (by rwa [hpair])
      (fun k hk => by
        have hmem := htree (k + 1) (by simpa using hk)
        rw [Nat.div_div_eq_div_mul, ← Nat.pow_succ', show l + 1 + k = l + (k + 1) by omega]
        exact hmem)
      (by
        simp only [climb, List.length_cons] at h
        rw [h, Nat.div_div_eq_div_mul, ← Nat.pow_succ',
          show l + 1 + path.length = l + (path.length + 1) by omega])
    rw [hpair, node] at up
    have hself := htree 0 (by simp)
    simp only [Nat.add_zero, Nat.zero_add, Nat.pow_one] at hself
    have epair := inj _ hfst _ hself up
    -- the climbing side of the pair is `cur`, and it is the tree's child of the same parity
    split at epair
    · rename_i hpar
      rw [show 2 * (pos / 2) = pos by omega] at epair
      exact congrArg Prod.fst epair
    · rename_i hpar
      rw [show 2 * (pos / 2) + 1 = pos by omega] at epair
      exact congrArg Prod.snd epair

end Merkle
