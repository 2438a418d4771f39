import NullifierPir.Imt.Tree

/-!
# Non-membership proofs

Port of `imt-tree/src/proof.rs`: `ImtProofData` and its out-of-circuit verifier.
-/

namespace NullifierPir.Imt

/-- Circuit-compatible non-membership proof (Rust `ImtProofData`). -/
structure ImtProofData where
  root : Fp
  nfBounds : PuncturedRange
  leafPos : UInt32
  path : Vector Fp TREE_DEPTH
  deriving DecidableEq

/-- Walk an authentication path and compare with `root` (Rust `verify_merkle_path`). -/
def verifyMerklePath (H : Hasher) (leaf : Fp) (pos : UInt32) (path : Vector Fp TREE_DEPTH)
    (root : Fp) : Bool :=
  Merkle.climb H.hash leaf pos.toNat path.toList == root

/-- Interval check, then Merkle path (Rust `ImtProofData::verify`). -/
def ImtProofData.verify (H : Hasher) (self : ImtProofData) (value : Fp) : Bool :=
  if intervalCheck self.nfBounds value then
    verifyMerklePath H (H.leaf self.nfBounds) self.leafPos self.path self.root
  else false

end NullifierPir.Imt
