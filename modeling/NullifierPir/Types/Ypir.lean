import NullifierPir.Lib.Bytes
import NullifierPir.Types.Layout

/-!
# YPIR scenarios and the query wire format

Port of the YPIR half of `pir/types/src/lib.rs` and of the scenario derivation of
`pir/server/src/lib.rs`. A query body is an 8-byte section length followed by the two sections, each
a string of little-endian words.
-/

namespace NullifierPir.Types
open Rust ByteString

def U64_BYTES : Nat := 8

/-- Parameters of one tier's PIR database (Rust `YpirScenario`). -/
structure YpirScenario where
  numItems : Nat
  itemSizeBits : Nat
  polyLen : Nat
  deriving DecidableEq, Repr

/-- Little-endian bytes of a word list. -/
def wordsLe (words : List UInt64) : Bytes := words.flatMap fun w => toLe U64_BYTES w.toNat

/-- Query body: section length, packed query, packing parameters (Rust `serialize_ypir_query`). -/
def serializeYpirQuery (pqr pubParams : List UInt64) : Bytes :=
  toLe U64_BYTES (pqr.length * U64_BYTES) ++ wordsLe pqr ++ wordsLe pubParams

/-- Rust `tier1_scenario_for_layout_with_poly_len`. -/
def tier1ScenarioForLayoutWithPolyLen (layout : PirLayout) (polyLen : Nat) : Rust YpirScenario := do
  layout.validateSupported
  ensure (polyLen == 2048 || polyLen == 4096) "YPIR polynomial degree must be 2048 or 4096"
  return ⟨← layout.tier1Rows, ← layout.tier1ItemBits, polyLen⟩

/-- Scenario of a layout (Rust `tier1_scenario_for_layout`). -/
def tier1ScenarioForLayout (layout : PirLayout) : Rust YpirScenario :=
  tier1ScenarioForLayoutWithPolyLen layout layout.polyLen

/-- A word takes 8 bytes. -/
lemma length_wordsLe {words : List UInt64} : (wordsLe words).length = words.length * U64_BYTES :=
  length_flatMap_const fun _ _ => length_toLe

/-- A query is its length in front of its words. -/
lemma length_serializeYpirQuery {pqr pubParams : List UInt64} :
    (serializeYpirQuery pqr pubParams).length =
      U64_BYTES + (pqr.length + pubParams.length) * U64_BYTES := by
  rw [serializeYpirQuery, List.length_append, List.length_append, length_toLe, length_wordsLe,
    length_wordsLe]
  ring

/-- The scenario of a supported layout. -/
lemma tier1ScenarioForLayout_eq {layout : PirLayout} (sup : layout.Supported) :
    tier1ScenarioForLayout layout =
      .ok ⟨2 ^ layout.tier0Layers, 2 ^ layout.tier1Layers * 96 * 8, layout.polyLen⟩ := by
  have hpoly : (layout.polyLen == 2048 || layout.polyLen == 4096) = true := by
    rcases sup.poly with h | h
    · simp [h]
    · simp [h]
  rw [tier1ScenarioForLayout, tier1ScenarioForLayoutWithPolyLen, sup.validateSupported_eq,
    ensure_pos hpoly, sup.tier1Rows_eq, sup.tier1ItemBits_eq]
  rfl

end NullifierPir.Types
