import NullifierPir.Field

/-!
# Poseidon hasher

Port of `imt-tree/src/hasher.rs`: the inlined Poseidon permutation (`permute`, four full rounds,
fifty-six partial rounds, four full rounds) and the two sponges over it, `hash` for
`ConstantLength<2>` and `hash3` for `ConstantLength<3>`. The round constants and the MDS matrix come
from `halo2_gadgets` and are fields of the hasher.

The tree routines only ever call `hash` and `hash3`; `Hasher` is that pair of functions, and
`PoseidonHasher.toHasher` the instance the program runs with.
-/

namespace NullifierPir.Imt

/-- The two hash functions the tree routines call. -/
structure Hasher where
  hash : Fp → Fp → Fp
  hash3 : Fp → Fp → Fp → Fp

/-- A width-3 sponge state. -/
structure State where
  s0 : Fp
  s1 : Fp
  s2 : Fp
  deriving DecidableEq

/-- Round constants and MDS matrix (Rust `PoseidonHasher`). -/
structure PoseidonHasher where
  roundConstants : Vector State 64
  mds : State × State × State

namespace PoseidonHasher

/-- `2 << 64`, the capacity element of `ConstantLength<2>`. -/
def initialCapacity : Fp := Fp.ofNat (2 * 2 ^ 64)

/-- `3 << 64`, the capacity element of `ConstantLength<3>`. -/
def initialCapacity3 : Fp := Fp.ofNat (3 * 2 ^ 64)

/-- The S-box `x ^ 5`, by two squarings. -/
def pow5 (x : Fp) : Fp :=
  let x2 := x * x
  let x4 := x2 * x2
  x4 * x

/-- One row of the MDS product. -/
def mdsRow (row s : State) : Fp := row.s0 * s.s0 + row.s1 * s.s1 + row.s2 * s.s2

variable (self : PoseidonHasher)

/-- Multiply the state by the MDS matrix (Rust `apply_mds`). -/
def applyMds (s : State) : State :=
  ⟨mdsRow self.mds.1 s, mdsRow self.mds.2.1 s, mdsRow self.mds.2.2 s⟩

/-- A full round: the S-box on every element. -/
def fullRound (s rc : State) : State :=
  self.applyMds ⟨pow5 (s.s0 + rc.s0), pow5 (s.s1 + rc.s1), pow5 (s.s2 + rc.s2)⟩

/-- A partial round: the S-box on the first element only. -/
def partialRound (s rc : State) : State :=
  self.applyMds ⟨pow5 (s.s0 + rc.s0), s.s1 + rc.s1, s.s2 + rc.s2⟩

/-- The permutation: 4 full, 56 partial and 4 full rounds (Rust `permute`). -/
def permute (s : State) : State :=
  let rcs := self.roundConstants.toList
  let s := (rcs.take 4).foldl self.fullRound s
  let s := ((rcs.drop 4).take 56).foldl self.partialRound s
  (rcs.drop 60).foldl self.fullRound s

/-- Hash two field elements (Rust `hash`). -/
def hash (left right : Fp) : Fp := (self.permute ⟨left, right, initialCapacity⟩).s0

/-- Hash three field elements in two absorption blocks (Rust `hash3`). -/
def hash3 (a b c : Fp) : Fp :=
  let s := self.permute ⟨a, b, initialCapacity3⟩
  (self.permute { s with s0 := s.s0 + c }).s0

/-- The pair of functions the tree routines use. -/
def toHasher : Hasher := ⟨self.hash, self.hash3⟩

end PoseidonHasher

namespace Hasher

variable (H : Hasher)

/-- The commitment of a punctured range. -/
def leaf (r : PuncturedRange) : Fp := H.hash3 r.lo r.mid r.hi

/-- The commitment of an all-zero range. -/
def emptyLeaf : Fp := H.hash3 0 0 0

/-- An affine stand-in, cheap enough for concrete runs. -/
def affine : Hasher :=
  ⟨fun a b => 3 * a + 5 * b + 7, fun a b c => 11 * a + 13 * b + 17 * c + 19⟩

end Hasher

end NullifierPir.Imt
