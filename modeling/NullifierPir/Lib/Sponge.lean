import Mathlib.Data.Matrix.Mul

/-!
# Poseidon sponges

The generic Poseidon construction over a commutative semiring `F`: a permutation of `width` lanes
made of full and partial rounds, and a sponge over it that absorbs a list of any length `rate`
elements at a time. `Spec` holds the parameters of an instance. `constantLength` is the hash with
the domain separation of inputs of a fixed length: the capacity lane starts at `2^64` times the
length, and the input is padded with zeros to whole blocks.
-/

namespace Poseidon

/-- Whether a round applies the S-box to every lane or to the first one only. -/
inductive Round where
  | full
  | part
  deriving DecidableEq

/-- Parameters of a Poseidon instance. -/
structure Spec (F : Type) (width : ℕ) where
  rate : ℕ
  fullRounds : ℕ
  partialRounds : ℕ
  roundConstants : List (Fin width → F)
  mds : Matrix (Fin width) (Fin width) F

variable {F : Type} [CommSemiring F] {width : ℕ} (S : Spec F width)

/-- The S-box. -/
def sbox (x : F) : F := x ^ 5

/-- The lanes that go through the S-box. -/
def Round.boxes : Round → Fin width → Prop
  | .full, _ => True
  | .part, lane => lane.val = 0

instance Round.decidableBoxes (kind : Round) (lane : Fin width) : Decidable (kind.boxes lane) :=
  match kind with
  | .full => inferInstanceAs (Decidable True)
  | .part => inferInstanceAs (Decidable (lane.val = 0))

/-- One round: add the constants, apply the S-box, multiply by the matrix. -/
def Spec.round (state : Fin width → F) (kc : Round × (Fin width → F)) : Fin width → F :=
  let added := state + kc.2
  S.mds.mulVec fun lane => if kc.1.boxes lane then sbox (added lane) else added lane

/-- The kinds of the rounds in order: the full rounds split around the partial ones. -/
def Spec.schedule : List Round :=
  List.replicate (S.fullRounds / 2) .full ++ List.replicate S.partialRounds .part ++
    List.replicate (S.fullRounds / 2) .full

/-- The permutation: every round with its own constants. -/
def Spec.permute (state : Fin width → F) : Fin width → F :=
  (S.schedule.zip S.roundConstants).foldl S.round state

/-- A sponge while absorbing: its lanes and the block collected so far. -/
structure Sponge (F : Type) (width : ℕ) where
  lanes : Fin width → F
  block : List F

/-- Add a block to the rate lanes and permute. -/
def Spec.absorbBlock (lanes : Fin width → F) (block : List F) : Fin width → F :=
  S.permute fun lane => if lane.val < S.rate then lanes lane + block.getD lane 0 else lanes lane

/-- Absorb one element; a full block is absorbed before the next one is begun. -/
def Spec.absorb (sponge : Sponge F width) (x : F) : Sponge F width :=
  if sponge.block.length < S.rate then ⟨sponge.lanes, sponge.block ++ [x]⟩
  else ⟨S.absorbBlock sponge.lanes sponge.block, [x]⟩

/-- Absorb the last block, after which the sponge can be squeezed. -/
def Spec.finish (sponge : Sponge F width) : Fin width → F :=
  S.absorbBlock sponge.lanes sponge.block

/-- Zeros up to a whole number of blocks. -/
def pad (rate : ℕ) (xs : List F) : List F :=
  xs ++ List.replicate ((xs.length + rate - 1) / rate * rate - xs.length) 0

/-- The sponge of inputs of length `length`: the capacity element in the last lane. -/
def initial (length : ℕ) : Sponge F width :=
  ⟨fun lane => if lane.val + 1 = width then (length * 2 ^ 64 : ℕ) else 0, []⟩

/-- The hash of a list under the domain of its length: absorb, then squeeze the first lane. -/
def Spec.constantLength [NeZero width] (xs : List F) : F :=
  S.finish ((pad S.rate xs).foldl S.absorb (initial xs.length)) 0

section Rounds

variable {α β σ : Type} {f : σ → α × β → σ}

/-- Rounds run one after the other use consecutive constants. -/
lemma foldl_zip_append {as bs : List α} {cs : List β} {s} :
    ((as ++ bs).zip cs).foldl f s =
      (bs.zip (cs.drop as.length)).foldl f ((as.zip cs).foldl f s) := by
  induction as generalizing cs s with
  | nil => rfl
  | cons a as ih =>
    cases cs with
    | nil => simp
    | cons c cs => exact ih

/-- Rounds of one kind are a loop over the constants. -/
lemma foldl_zip_replicate {n : ℕ} {a : α} {cs : List β} {s} :
    ((List.replicate n a).zip cs).foldl f s = (cs.take n).foldl (fun s c => f s (a, c)) s := by
  induction n generalizing cs s with
  | zero => rfl
  | succ n ih =>
    cases cs with
    | nil => rfl
    | cons c cs => exact ih

end Rounds

/-- The permutation as three loops over slices of the constants. -/
lemma Spec.permute_eq {state : Fin width → F} :
    S.permute state =
      ((S.roundConstants.drop (S.fullRounds / 2 + S.partialRounds)).take
        (S.fullRounds / 2)).foldl (fun s c => S.round s (.full, c))
        (((S.roundConstants.drop (S.fullRounds / 2)).take S.partialRounds).foldl
          (fun s c => S.round s (.part, c))
          ((S.roundConstants.take (S.fullRounds / 2)).foldl
            (fun s c => S.round s (.full, c)) state)) := by
  simp only [Spec.permute, Spec.schedule, foldl_zip_append, foldl_zip_replicate,
    List.length_append, List.length_replicate]

end Poseidon
