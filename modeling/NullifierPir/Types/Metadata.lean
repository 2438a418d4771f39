import NullifierPir.Types.Layout

/-!
# Dataset identity and snapshot metadata

Port of the metadata half of `pir/types/src/lib.rs`: the network and dataset a snapshot belongs to and
the record written to `pir_root.json` beside the tier files.
-/

namespace NullifierPir.Types

def NULLIFIER_POOL : String := "ironwood"
def DATASET_VERSION : Nat := 2

/-- Zcash network of a dataset (Rust `ZcashNetwork`). -/
inductive ZcashNetwork where
  | main
  | test
  deriving DecidableEq, Repr

/-- Canonical wire value (Rust `as_str`). -/
def ZcashNetwork.asStr : ZcashNetwork → String
  | .main => "main"
  | .test => "test"

/-- Rust `is_current_dataset`. -/
def isCurrentDataset (nullifierPool : String) (datasetVersion : Nat) : Bool :=
  nullifierPool == NULLIFIER_POOL && datasetVersion == DATASET_VERSION

/-- Metadata written to `pir_root.json` (Rust `PirMetadata`). -/
structure PirMetadata where
  zcashNetwork : ZcashNetwork
  nullifierPool : String
  datasetVersion : Nat
  pirRoot : String
  circuitRoot : String
  numRanges : Nat
  pirDepth : Nat
  pirLayout : PirLayout
  tier0Bytes : Nat
  tier1Rows : Nat
  tier1RowBytes : Nat
  height : Option Nat
  deriving DecidableEq

/-- The compiled dataset is current. -/
@[simp] lemma isCurrentDataset_current : isCurrentDataset NULLIFIER_POOL DATASET_VERSION = true := by
  decide

end NullifierPir.Types
