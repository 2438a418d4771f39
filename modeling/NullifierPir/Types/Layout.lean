import NullifierPir.Rust

/-!
# PIR layouts

Port of the layout half of `pir/types/src/lib.rs`: the negotiated tree layout `PirLayout`, its
derived geometry and `validateSupported`. `Supported` is what validation establishes
(`validateSupported_ok`), and under it every derived size is the plain power-of-two formula.
-/

namespace NullifierPir.Types
open Rust

def PIR_DEPTH : Nat := 19
def MAX_PIR_DEPTH : Nat := 29
def MAX_TIER0_LAYERS : Nat := 16
def MAX_TIER1_LAYERS : Nat := 15
def TIER0_LAYERS : Nat := 12
def TIER1_LAYERS : Nat := 7
def TIER1_LEAF_BYTES : Nat := 96
def YPIR_MIN_ROWS : Nat := 2048
def YPIR_MIN_ITEM_BITS : Nat := 28672
def DEFAULT_YPIR_POLY_LEN : Nat := 4096

/-- Explicit two-tier tree layout (Rust `PirLayout`). -/
structure PirLayout where
  pirDepth : Nat
  tier0Layers : Nat
  tier1Layers : Nat
  polyLen : Nat
  deriving DecidableEq, Repr

/-- The production default layout (Rust `COMPILED_PIR_LAYOUT`). -/
def COMPILED_PIR_LAYOUT : PirLayout :=
  ⟨PIR_DEPTH, TIER0_LAYERS, TIER1_LAYERS, DEFAULT_YPIR_POLY_LEN⟩

namespace PirLayout

variable (self : PirLayout)

/-- Derived `Debug` rendering. -/
def debug : String :=
  s!"PirLayout \x7b pir_depth: {self.pirDepth}, tier0_layers: {self.tier0Layers}, " ++
    s!"tier1_layers: {self.tier1Layers}, poly_len: {self.polyLen} \x7d"

/-- `pir_depth = tier0_layers + tier1_layers` with non-zero tiers (Rust `validate_split`). -/
def validateSplit : Rust Unit := do
  ensure (!(self.tier0Layers == 0 || self.tier1Layers == 0))
    s!"PIR layout tiers must be non-zero: {self.debug}"
  let split ← ofOption "PIR layout tier split overflows"
    (checkedAdd self.tier0Layers self.tier1Layers)
  ensure (self.pirDepth == split)
    (s!"PIR layout is inconsistent: pir_depth {self.pirDepth} != " ++
      s!"tier0_layers {self.tier0Layers} + tier1_layers {self.tier1Layers}")

/-- `1usize.checked_shl` of a layer count that must first fit a `u32`. -/
def shiftOne (name : String) (layers : Nat) : Rust Nat := do
  ensure (decide (layers < 2 ^ 32)) s!"PIR layout {name} does not fit a shift count"
  ofOption s!"PIR layout {name} exceeds platform geometry" (checkedShlOne layers)

/-- Number of Tier 1 rows (Rust `tier1_rows`). -/
def tier1Rows : Rust Nat := do
  self.validateSplit
  shiftOne "tier0_layers" self.tier0Layers

/-- Leaves per Tier 1 row (Rust `tier1_leaves`). -/
def tier1Leaves : Rust Nat := do
  self.validateSplit
  shiftOne "tier1_layers" self.tier1Layers

/-- Byte width of one Tier 1 row (Rust `tier1_row_bytes`). -/
def tier1RowBytes : Rust Nat := do
  ofOption "PIR layout Tier 1 row width overflows" (checkedMul (← self.tier1Leaves) TIER1_LEAF_BYTES)

/-- YPIR item size in bits (Rust `tier1_item_bits`). -/
def tier1ItemBits : Rust Nat := do
  ofOption "PIR layout Tier 1 item bits overflow" (checkedMul (← self.tier1RowBytes) 8)

/-- Internal nodes stored in Tier 0 (Rust `tier0_internal_nodes`). -/
def tier0InternalNodes : Rust Nat := do
  ofOption "PIR layout tier0_layers must be >= 1" (checkedSub (← self.tier1Rows) 1)

/-- Total Tier 0 size in bytes (Rust `tier0_bytes`). -/
def tier0Bytes : Rust Nat := do
  let internal ← self.tier0InternalNodes
  let rows ← self.tier1Rows
  ofOption "PIR layout Tier 0 size overflows" <|
    (checkedMul internal 32).bind fun n => (checkedMul rows 64).bind fun m => checkedAdd n m

/-- Reject layouts below the YPIR minima (Rust `validate_ypir_bounds`). -/
def validateYpirBounds : Rust Unit := do
  let rows ← self.tier1Rows
  let bits ← self.tier1ItemBits
  ensure (decide (YPIR_MIN_ROWS ≤ rows))
    s!"PIR layout Tier 1 rows {rows} below YPIR minimum {YPIR_MIN_ROWS}"
  ensure (decide (YPIR_MIN_ITEM_BITS ≤ bits))
    s!"PIR layout Tier 1 item bits {bits} below YPIR minimum {YPIR_MIN_ITEM_BITS}"

/-- Accept the layouts this protocol release supports (Rust `validate_supported`). -/
def validateSupported : Rust Unit := do
  self.validateSplit
  ensure (decide (1 ≤ self.pirDepth) && decide (self.pirDepth ≤ MAX_PIR_DEPTH))
    s!"unsupported PIR layout depth {self.pirDepth}; expected 1..={MAX_PIR_DEPTH}"
  ensure (decide (self.tier0Layers ≤ MAX_TIER0_LAYERS))
    s!"PIR layout Tier 0 layers {self.tier0Layers} exceeds maximum {MAX_TIER0_LAYERS}"
  ensure (decide (self.tier1Layers ≤ MAX_TIER1_LAYERS))
    s!"PIR layout Tier 1 layers {self.tier1Layers} exceeds maximum {MAX_TIER1_LAYERS}"
  ensure (self.polyLen == 2048 || self.polyLen == 4096)
    (s!"unsupported PIR layout poly_len {self.polyLen}; " ++
      "supported values are 2048 and 4096")
  self.validateYpirBounds

end PirLayout

/-- What `validateSupported` establishes. -/
structure PirLayout.Supported (l : PirLayout) : Prop where
  split : l.pirDepth = l.tier0Layers + l.tier1Layers
  depth : l.pirDepth ≤ MAX_PIR_DEPTH
  tier0 : 11 ≤ l.tier0Layers ∧ l.tier0Layers ≤ MAX_TIER0_LAYERS
  tier1 : 6 ≤ l.tier1Layers ∧ l.tier1Layers ≤ MAX_TIER1_LAYERS
  poly : l.polyLen = 2048 ∨ l.polyLen = 4096

namespace PirLayout

variable {l : PirLayout}

/-- A split into non-empty parts is accepted. -/
lemma validateSplit_eq_ok (h0 : l.tier0Layers ≠ 0) (h1 : l.tier1Layers ≠ 0)
    (hs : l.pirDepth = l.tier0Layers + l.tier1Layers) (hlt : l.pirDepth < U64) :
    l.validateSplit = .ok () := by
  have hz : (!(l.tier0Layers == 0 || l.tier1Layers == 0)) = true := by simp [h0, h1]
  rw [validateSplit, ensure_pos hz, checkedAdd_eq (hs ▸ hlt)]
  exact ensure_pos (by simp [hs])

/-- An accepted split has non-empty parts. -/
lemma validateSplit_ok {u} (ok : l.validateSplit = .ok u) :
    l.tier0Layers ≠ 0 ∧ l.tier1Layers ≠ 0 ∧ l.pirDepth = l.tier0Layers + l.tier1Layers := by
  simp only [validateSplit] at ok
  obtain ⟨_, h1, ok⟩ := bind_eq_ok.mp ok
  obtain ⟨s, h2, ok⟩ := bind_eq_ok.mp ok
  simp only [ensure_eq_ok, Bool.not_eq_true', Bool.or_eq_false_iff, beq_eq_false_iff_ne,
    beq_iff_eq] at h1 ok
  simp only [checkedAdd] at h2
  split at h2
  · cases h2
    exact ⟨h1.1, h1.2, ok⟩
  · cases h2

/-- Shifts below 64 are computed. -/
lemma shiftOne_eq_ok {name n} (h : n < 64) : shiftOne name n = .ok (2 ^ n) := by
  rw [shiftOne, ensure_pos (decide_eq_true (by omega)), checkedShlOne_eq h]
  rfl

namespace Supported

variable (sup : l.Supported)
include sup

/-- The split of a supported layout is accepted. -/
lemma validateSplit_eq : l.validateSplit = .ok () := by
  obtain ⟨hs, hd, h0, h1, _⟩ := sup
  simp only [MAX_PIR_DEPTH] at hd
  exact validateSplit_eq_ok (by omega) (by omega) hs (by simp only [U64]; omega)

/-- Tier 0 has at most 65536 subtrees. -/
lemma two_pow_tier0_le : 2 ^ l.tier0Layers ≤ 65536 :=
  (Nat.pow_le_pow_right (by decide) sup.tier0.2).trans (by decide)

/-- A row has at most 32768 leaves. -/
lemma two_pow_tier1_le : 2 ^ l.tier1Layers ≤ 32768 :=
  (Nat.pow_le_pow_right (by decide) sup.tier1.2).trans (by decide)

/-- One row a subtree. -/
lemma tier1Rows_eq : l.tier1Rows = .ok (2 ^ l.tier0Layers) := by
  have h := sup.tier0.2
  simp only [MAX_TIER0_LAYERS] at h
  simp [tier1Rows, sup.validateSplit_eq, shiftOne_eq_ok (show l.tier0Layers < 64 by omega)]

/-- The leaves of a row. -/
lemma tier1Leaves_eq : l.tier1Leaves = .ok (2 ^ l.tier1Layers) := by
  have h := sup.tier1.2
  simp only [MAX_TIER1_LAYERS] at h
  simp [tier1Leaves, sup.validateSplit_eq, shiftOne_eq_ok (show l.tier1Layers < 64 by omega)]

/-- 96 bytes a leaf. -/
lemma tier1RowBytes_eq : l.tier1RowBytes = .ok (2 ^ l.tier1Layers * 96) := by
  have h := sup.two_pow_tier1_le
  simp [tier1RowBytes, sup.tier1Leaves_eq, TIER1_LEAF_BYTES,
    checkedMul_eq (show 2 ^ l.tier1Layers * 96 < U64 by simp only [U64]; omega)]

/-- The same in bits. -/
lemma tier1ItemBits_eq : l.tier1ItemBits = .ok (2 ^ l.tier1Layers * 96 * 8) := by
  have h := sup.two_pow_tier1_le
  simp [tier1ItemBits, sup.tier1RowBytes_eq,
    checkedMul_eq (show 2 ^ l.tier1Layers * 96 * 8 < U64 by simp only [U64]; omega)]

/-- One internal node less than subtrees. -/
lemma tier0InternalNodes_eq : l.tier0InternalNodes = .ok (2 ^ l.tier0Layers - 1) := by
  simp [tier0InternalNodes, sup.tier1Rows_eq, checkedSub_eq (Nat.one_le_two_pow)]

/-- The nodes take 32 bytes each, the records 64. -/
lemma tier0Bytes_eq :
    l.tier0Bytes = .ok ((2 ^ l.tier0Layers - 1) * 32 + 2 ^ l.tier0Layers * 64) := by
  have h := sup.two_pow_tier0_le
  simp only [tier0Bytes, sup.tier0InternalNodes_eq, sup.tier1Rows_eq, ok_bind,
    checkedMul_eq (show (2 ^ l.tier0Layers - 1) * 32 < U64 by simp only [U64]; omega),
    checkedMul_eq (show 2 ^ l.tier0Layers * 64 < U64 by simp only [U64]; omega), Option.bind_some,
    checkedAdd_eq (show (2 ^ l.tier0Layers - 1) * 32 + 2 ^ l.tier0Layers * 64 < U64 by
      simp only [U64]; omega), ofOption_some]

end Supported

/-- Validation succeeds only on supported layouts. -/
lemma validateSupported_ok {u} (ok : l.validateSupported = .ok u) : l.Supported := by
  simp only [validateSupported] at ok
  obtain ⟨_, hsplit, ok⟩ := bind_eq_ok.mp ok
  obtain ⟨_, hdepth, ok⟩ := bind_eq_ok.mp ok
  obtain ⟨_, h0, ok⟩ := bind_eq_ok.mp ok
  obtain ⟨_, h1, ok⟩ := bind_eq_ok.mp ok
  obtain ⟨_, hpoly, ok⟩ := bind_eq_ok.mp ok
  obtain ⟨hn0, hn1, hs⟩ := validateSplit_ok hsplit
  simp only [ensure_eq_ok, Bool.and_eq_true, decide_eq_true_eq, Bool.or_eq_true,
    beq_iff_eq] at hdepth h0 h1 hpoly
  have hd := hdepth.2
  simp only [MAX_PIR_DEPTH] at hd
  have hsplit' : l.validateSplit = .ok () :=
    validateSplit_eq_ok hn0 hn1 hs (by simp only [U64]; omega)
  have hrows : l.tier1Rows = .ok (2 ^ l.tier0Layers) := by
    simp [tier1Rows, hsplit', shiftOne_eq_ok (show l.tier0Layers < 64 by omega)]
  have hleaves : l.tier1Leaves = .ok (2 ^ l.tier1Layers) := by
    simp [tier1Leaves, hsplit', shiftOne_eq_ok (show l.tier1Layers < 64 by omega)]
  have hpow : 2 ^ l.tier1Layers ≤ 32768 := (Nat.pow_le_pow_right (by decide) h1).trans (by decide)
  simp only [validateYpirBounds, tier1ItemBits, tier1RowBytes, hrows, hleaves, ok_bind,
    TIER1_LEAF_BYTES,
    checkedMul_eq (show 2 ^ l.tier1Layers * 96 < U64 by simp only [U64]; omega),
    checkedMul_eq (show 2 ^ l.tier1Layers * 96 * 8 < U64 by simp only [U64]; omega),
    ofOption_some] at ok
  obtain ⟨_, hr, hb⟩ := bind_eq_ok.mp ok
  have hr : 2048 ≤ 2 ^ l.tier0Layers := of_decide_eq_true (ensure_eq_ok.mp hr)
  have hb : 28672 ≤ 2 ^ l.tier1Layers * 96 * 8 := of_decide_eq_true (ensure_eq_ok.mp hb)
  refine ⟨hs, hdepth.2, ⟨?_, h0⟩, ⟨?_, h1⟩, hpoly⟩
  · by_contra hlt
    have : 2 ^ l.tier0Layers ≤ 2 ^ 10 := Nat.pow_le_pow_right (by decide) (by omega)
    omega
  · by_contra hlt
    have : 2 ^ l.tier1Layers ≤ 2 ^ 5 := Nat.pow_le_pow_right (by decide) (by omega)
    omega

/-- Validation accepts every supported layout. -/
lemma Supported.validateSupported_eq (sup : l.Supported) : l.validateSupported = .ok () := by
  have h0 := sup.tier0
  have h1 := sup.tier1
  have hr : 2 ^ 11 ≤ 2 ^ l.tier0Layers := Nat.pow_le_pow_right (by decide) h0.1
  have hb : 2 ^ 6 ≤ 2 ^ l.tier1Layers := Nat.pow_le_pow_right (by decide) h1.1
  have hs := sup.split
  simp only [validateSupported, validateYpirBounds, sup.validateSplit_eq, sup.tier1Rows_eq,
    sup.tier1ItemBits_eq, ok_bind, sup.depth, h0.2, h1.2, YPIR_MIN_ROWS, YPIR_MIN_ITEM_BITS,
    show 1 ≤ l.pirDepth by omega, show 2048 ≤ 2 ^ l.tier0Layers by omega,
    show 28672 ≤ 2 ^ l.tier1Layers * 96 * 8 by omega, decide_true, Bool.and_self, ensure_true]
  rcases sup.poly with h | h <;> simp [h]

section Ends

/-- The split check ends. -/
lemma validateSplit_ends : Ends l.validateSplit :=
  .bind Ends.ensure fun _ => .bind Ends.ofOption fun _ => Ends.ensure

/-- The shift ends. -/
lemma shiftOne_ends {name layers} : Ends (shiftOne name layers) :=
  .bind Ends.ensure fun _ => Ends.ofOption

/-- The number of rows ends. -/
lemma tier1Rows_ends : Ends l.tier1Rows := .bind validateSplit_ends fun _ => shiftOne_ends

/-- The number of leaves ends. -/
lemma tier1Leaves_ends : Ends l.tier1Leaves := .bind validateSplit_ends fun _ => shiftOne_ends

/-- The row size ends. -/
lemma tier1RowBytes_ends : Ends l.tier1RowBytes := .bind tier1Leaves_ends fun _ => Ends.ofOption

/-- The row size in bits ends. -/
lemma tier1ItemBits_ends : Ends l.tier1ItemBits := .bind tier1RowBytes_ends fun _ => Ends.ofOption

/-- The Tier 0 size ends. -/
lemma tier0Bytes_ends : Ends l.tier0Bytes :=
  .bind (.bind tier1Rows_ends fun _ => Ends.ofOption) fun _ =>
    .bind tier1Rows_ends fun _ => Ends.ofOption

/-- The support check ends. -/
lemma validateSupported_ends : Ends l.validateSupported :=
  .bind validateSplit_ends fun _ => .bind Ends.ensure fun _ => .bind Ends.ensure fun _ =>
    .bind Ends.ensure fun _ => .bind Ends.ensure fun _ => .bind tier1Rows_ends fun _ =>
    .bind tier1ItemBits_ends fun _ => .bind Ends.ensure fun _ => Ends.ensure

end Ends

end PirLayout

end NullifierPir.Types
