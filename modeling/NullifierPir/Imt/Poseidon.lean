import Mathlib.Tactic.Ring
import NullifierPir.Lib.Sponge
import NullifierPir.Imt.Hasher

/-!
# The inlined hasher is the Poseidon sponge

`PoseidonHasher` runs the rounds as three loops over one list of constants, absorbs its first block
by building the state, and adds only what a block does not pad. `PoseidonHasher.spec` reads its
constants and matrix as parameters of the generic construction (width 3, rate 2, 8 full and 56
partial rounds), and `hash_eq_sponge` shows that `hash` and `hash3` are the sponge of that
construction on two and on three elements.
-/

namespace NullifierPir.Imt
open scoped Fin.CommRing

/-- The lanes of a state as a vector. -/
def State.lanes (s : State) : Fin 3 → Fp := ![s.s0, s.s1, s.s2]

namespace PoseidonHasher

variable (self : PoseidonHasher)

/-- The parameters of the generic construction that the hasher inlines (`P128Pow5T3`). -/
def spec : Poseidon.Spec Fp 3 where
  rate := 2
  fullRounds := 8
  partialRounds := 56
  roundConstants := self.roundConstants.toList.map State.lanes
  mds := ![self.mds.1.lanes, self.mds.2.1.lanes, self.mds.2.2.lanes]

/-- The inlined power is the S-box. -/
lemma pow5_eq {x : Fp} : pow5 x = Poseidon.sbox x := by
  simp only [pow5, Poseidon.sbox]
  ring

/-- `apply_mds` is the matrix product. -/
lemma lanes_applyMds {s : State} : (self.applyMds s).lanes = self.spec.mds.mulVec s.lanes := by
  funext lane
  simp only [Matrix.mulVec, dotProduct, Fin.sum_univ_three]
  fin_cases lane <;> rfl

/-- A full round is one of the specification. -/
lemma lanes_fullRound {s rc : State} :
    (self.fullRound s rc).lanes = self.spec.round s.lanes (.full, rc.lanes) := by
  rw [fullRound, lanes_applyMds, Poseidon.Spec.round]
  congr 1
  funext lane
  fin_cases lane <;> exact pow5_eq

/-- A partial round is one of the specification. -/
lemma lanes_partialRound {s rc : State} :
    (self.partialRound s rc).lanes = self.spec.round s.lanes (.part, rc.lanes) := by
  rw [partialRound, lanes_applyMds, Poseidon.Spec.round]
  congr 1
  funext lane
  fin_cases lane
  · exact pow5_eq
  · rfl
  · rfl

/-- A loop over states is the loop over their lanes. -/
lemma lanes_foldl {f : State → State → State} {g : (Fin 3 → Fp) → (Fin 3 → Fp) → Fin 3 → Fp}
    (step : ∀ s rc, (f s rc).lanes = g s.lanes rc.lanes) {rcs : List State} {s : State} :
    (rcs.foldl f s).lanes = (rcs.map State.lanes).foldl g s.lanes := by
  induction rcs generalizing s with
  | nil => rfl
  | cons rc rcs ih =>
    rw [List.foldl_cons, ih, step]
    rfl

/-- A sequence of full rounds. -/
lemma lanes_fullRounds {rcs : List State} {s : State} :
    (rcs.foldl self.fullRound s).lanes =
      (rcs.map State.lanes).foldl (fun s rc => self.spec.round s (.full, rc)) s.lanes :=
  lanes_foldl fun _ _ => self.lanes_fullRound

/-- A sequence of partial rounds. -/
lemma lanes_partialRounds {rcs : List State} {s : State} :
    (rcs.foldl self.partialRound s).lanes =
      (rcs.map State.lanes).foldl (fun s rc => self.spec.round s (.part, rc)) s.lanes :=
  lanes_foldl fun _ _ => self.lanes_partialRound

/-- The three loops of the inlined permutation are the generic permutation. -/
lemma lanes_permute {s : State} : (self.permute s).lanes = self.spec.permute s.lanes := by
  have half : self.spec.fullRounds / 2 = 4 := by simp [spec]
  have parts : self.spec.partialRounds = 56 := rfl
  -- the third loop runs to the end of the constants, of which four are left
  have hlast : (self.spec.roundConstants.drop 60).take 4 = self.spec.roundConstants.drop 60 :=
    List.take_of_length_le (by simp [spec])
  rw [Poseidon.Spec.permute_eq, half, parts, hlast, permute, lanes_fullRounds,
    lanes_partialRounds, lanes_fullRounds, List.map_drop, List.map_take, List.map_take,
    List.map_drop]
  rfl

/-- Absorbing a block of two into a state. -/
lemma absorbBlock_eq {s : State} {x y : Fp} :
    self.spec.absorbBlock s.lanes [x, y] =
      (self.permute ⟨s.s0 + x, s.s1 + y, s.s2⟩).lanes := by
  rw [lanes_permute, Poseidon.Spec.absorbBlock]
  congr 1
  funext lane
  fin_cases lane <;> rfl

/-- The sponge of a list starts with its capacity element in the third lane. -/
lemma initial_eq {length : Nat} :
    (Poseidon.initial length : Poseidon.Sponge Fp 3).lanes =
      State.lanes ⟨0, 0, Fp.ofNat (length * 2 ^ 64)⟩ := by
  funext lane
  fin_cases lane <;> rfl

/-- Two elements are one block. -/
lemma constantLength_two {a b : Fp} : self.spec.constantLength [a, b] =
    self.spec.absorbBlock (Poseidon.initial 2 : Poseidon.Sponge Fp 3).lanes [a, b] 0 := by
  have hpad : Poseidon.pad self.spec.rate [a, b] = [a, b] := by
    simp [Poseidon.pad, spec]
  rw [Poseidon.Spec.constantLength, hpad]
  rfl

/-- Three elements are two blocks, the second one padded with a zero. -/
lemma constantLength_three {a b c : Fp} : self.spec.constantLength [a, b, c] =
    self.spec.absorbBlock (self.spec.absorbBlock
      (Poseidon.initial 3 : Poseidon.Sponge Fp 3).lanes [a, b]) [c, 0] 0 := by
  have hpad : Poseidon.pad self.spec.rate [a, b, c] = [a, b, c, 0] := by
    simp [Poseidon.pad, spec]
  rw [Poseidon.Spec.constantLength, hpad]
  rfl

/-- The inlined hashes are the sponge on two and on three elements. -/
theorem hash_eq_sponge (a b c : Fp) :
    self.hash a b = self.spec.constantLength [a, b] ∧
    self.hash3 a b c = self.spec.constantLength [a, b, c] := by
  constructor
  · rw [constantLength_two, initial_eq, absorbBlock_eq, Fin.zero_add, Fin.zero_add]
    rfl
  · rw [constantLength_three, initial_eq, absorbBlock_eq, absorbBlock_eq, Fin.zero_add,
      Fin.zero_add, Fin.add_zero]
    rfl

end PoseidonHasher
end NullifierPir.Imt
