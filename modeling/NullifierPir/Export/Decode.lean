import NullifierPir.Export.Tiers

/-!
# Exported tiers decode to the tree

What the readers of `pir/types` return on the blobs that `exportForLayout` writes for a tree built
from prepared nullifiers. `DecodesTo` states it in terms of the tree alone: the nodes of the perfect
depth-19 tree padded with empty leaves, the first populated leaf of a subtree, and the ranges by
their position. `exportForLayout_decodes` proves it for every supported split of depth 19.
-/

namespace NullifierPir.Export
open Rust ByteString Imt NullifierPir.Types

/-- The first populated leaf of subtree `s`. -/
def firstPopulated (ranges : List PuncturedRange) (leaves s : Nat) : Option PuncturedRange :=
  ((List.range leaves).filterMap fun i => ranges[s * leaves + i]?).head?

/-- The two blobs decode to the tree over `ranges`. -/
structure DecodesTo (H : Hasher) (ranges : List PuncturedRange) (l : PirLayout)
    (tier0 tier1 : Bytes) : Prop where
  tier0_size : l.tier0Bytes = .ok tier0.length
  tier1_size : ∃ rows rowBytes, l.tier1Rows = .ok rows ∧ l.tier1RowBytes = .ok rowBytes ∧
    tier1.length = rows * rowBytes
  tier0 : ∃ data, Tier0Data.fromLayout tier0 l = .ok data ∧
    data.root = .ok (rangeNode H ranges PIR_DEPTH 0) ∧
    (∀ d < l.tier0Layers, ∀ i < 2 ^ d,
      data.nodeAt d i = .ok (rangeNode H ranges (PIR_DEPTH - d) i)) ∧
    ∃ minKey : Nat → Fp,
      (∀ s < 2 ^ l.tier0Layers, data.subtreeRecord s =
        .ok (rangeNode H ranges (PIR_DEPTH - l.tier0Layers) s, minKey s)) ∧
      (∀ s < 2 ^ l.tier0Layers, minKey s =
        ((firstPopulated ranges (2 ^ l.tier1Layers) s).map PuncturedRange.lo).getD Fp.negOne) ∧
      ∀ s s', s ≤ s' → s' < 2 ^ l.tier0Layers → minKey s ≤ minKey s'
  tier1 : ∀ s < 2 ^ l.tier0Layers, ∃ rowBytes row, l.tier1RowBytes = .ok rowBytes ∧
    Tier1Row.fromLayout (slice tier1 (s * rowBytes) rowBytes) l = .ok row ∧
    ∀ i < 2 ^ l.tier1Layers,
      row.leafRecord i = .ok (ranges.getD (s * 2 ^ l.tier1Layers + i) ⟨0, 0, 0⟩)

section Keys

variable {ranges : List PuncturedRange}

/-- The populated leaves of a subtree are its first ones. -/
lemma firstPopulated_eq {leaves s : Nat} (hpos : 0 < leaves) :
    firstPopulated ranges leaves s = ranges[s * leaves]? := by
  obtain ⟨n, rfl⟩ : ∃ n, leaves = n + 1 := ⟨leaves - 1, by omega⟩
  rw [firstPopulated, List.range_succ_eq_map, List.filterMap_cons, Nat.add_zero]
  cases hget : ranges[s * (n + 1)]? with
  | some r => rfl
  | none =>
    have hlen : ranges.length ≤ s * (n + 1) := List.getElem?_eq_none_iff.mp hget
    have hrest : ((List.range n).map Nat.succ).filterMap
        (fun i => ranges[s * (n + 1) + i]?) = [] := by
      rw [List.filterMap_eq_nil_iff]
      intro i _
      exact List.getElem?_eq_none (hlen.trans (Nat.le_add_right _ _))
    simp only [hrest]
    rfl

/-- The least key of a subtree is that of its first range, if there is one. -/
lemma subtreeMinKey_eq {start : Nat} :
    subtreeMinKey ranges start = (ranges[start]?.map PuncturedRange.lo).getD Fp.negOne := by
  rw [subtreeMinKey]
  cases ranges[start]? with
  | none => rfl
  | some r => rfl

end Keys

section Decoded

variable {H : Hasher} {ranges : List PuncturedRange} {l : PirLayout}

/-- Subtree `s` below the nodes. -/
lemma depthRecords_get {depth layers s : Nat} (h : s < (depthRecords H ranges depth layers).length) :
    (depthRecords H ranges depth layers)[s] = (rangeNode H ranges (depth - layers) s,
      subtreeMinKey ranges (s * 2 ^ (depth - layers))) := by
  simp [depthRecords]

/-- The readers return the nodes of the tree. -/
lemma nodeAt_tree {d i : Nat} (hd : d < l.tier0Layers) (hi : i < 2 ^ d) :
    (Tier0Data.ofParts l (depthNodes H ranges PIR_DEPTH l.tier0Layers)
      (depthRecords H ranges PIR_DEPTH l.tier0Layers)).nodeAt d i =
      .ok (rangeNode H ranges (PIR_DEPTH - d) i) := by
  obtain ⟨hlt, hget⟩ :=
    List.getElem?_eq_some_iff.mp (@getElem?_depthNodes H ranges PIR_DEPTH l.tier0Layers d i hd hi)
  rw [Tier0Data.nodeAt_ofParts hlt, hget]

/-- The root of Tier 0 is that of the tree. -/
lemma root_tree (h : 0 < l.tier0Layers) :
    (Tier0Data.ofParts l (depthNodes H ranges PIR_DEPTH l.tier0Layers)
      (depthRecords H ranges PIR_DEPTH l.tier0Layers)).root = .ok (rangeNode H ranges PIR_DEPTH 0) :=
  @nodeAt_tree H ranges l 0 0 h (Nat.one_pos)

/-- The record of a subtree in the exported Tier 0. -/
lemma subtreeRecord_tree {s : Nat} (hs : s < 2 ^ l.tier0Layers) :
    (Tier0Data.ofParts l (depthNodes H ranges PIR_DEPTH l.tier0Layers)
      (depthRecords H ranges PIR_DEPTH l.tier0Layers)).subtreeRecord s =
      .ok (rangeNode H ranges (PIR_DEPTH - l.tier0Layers) s,
        subtreeMinKey ranges (s * 2 ^ (PIR_DEPTH - l.tier0Layers))) := by
  have hlt : s < (depthRecords H ranges PIR_DEPTH l.tier0Layers).length := by
    rw [fills_tree.records]
    exact hs
  rw [Tier0Data.subtreeRecord_ofParts fills_tree hlt, depthRecords_get]

/-- A row of the blob is accepted and holds its ranges. -/
lemma row_tree (sup : l.Supported) {n s : Nat} (hs : s < n) :
    ∃ row, Tier1Row.fromLayout (slice ((List.range n).flatMap fun s =>
        encodeRow (rowRanges ranges (2 ^ l.tier1Layers) s))
        (s * (2 ^ l.tier1Layers * 96)) (2 ^ l.tier1Layers * 96)) l = .ok row ∧
      ∀ i < 2 ^ l.tier1Layers,
        row.leafRecord i = .ok (ranges.getD (s * 2 ^ l.tier1Layers + i) ⟨0, 0, 0⟩) := by
  refine ⟨_, by rw [slice_tier1 hs]; exact Tier1Row.fromLayout_encodeRow sup length_rowRanges, ?_⟩
  intro i hi
  have hlt : i < (rowRanges ranges (2 ^ l.tier1Layers) s).length := by
    rw [length_rowRanges]
    exact hi
  rw [Tier1Row.leafRecord_ofRanges hlt, rowRanges_get]

/-- The tier files of a tree over covering ranges decode to it. -/
lemma decodesTo_encode (cov : Cover ranges) (sup : l.Supported) (hdepth : l.pirDepth = PIR_DEPTH) :
    DecodesTo H ranges l
      (encodeTier0 (depthNodes H ranges PIR_DEPTH l.tier0Layers)
        (depthRecords H ranges PIR_DEPTH l.tier0Layers))
      ((List.range (2 ^ l.tier0Layers)).flatMap fun s =>
        encodeRow (rowRanges ranges (2 ^ l.tier1Layers) s)) := by
  have h0 := sup.tier0.1
  have hwidth : PIR_DEPTH - l.tier0Layers = l.tier1Layers := by
    have := hdepth ▸ sup.split
    omega
  constructor
  · rw [Tier0Data.length_encodeTier0, fills_tree.nodes, fills_tree.records]
    exact sup.tier0Bytes_eq
  · exact ⟨_, _, sup.tier1Rows_eq, sup.tier1RowBytes_eq, length_tier1⟩
  · refine ⟨_, Tier0Data.fromLayout_encodeTier0 sup fills_tree, root_tree (by omega),
      fun d hd i hi => nodeAt_tree hd hi, _, fun s hs => subtreeRecord_tree hs, ?_, ?_⟩
    · intro s _
      rw [hwidth, firstPopulated_eq (Nat.two_pow_pos _)]
      exact subtreeMinKey_eq
    · intro s s' hle _
      exact subtreeMinKey_mono cov (Nat.mul_le_mul_right _ hle)
  · intro s hs
    obtain ⟨row, hrow⟩ := row_tree sup hs
    exact ⟨_, row, sup.tier1RowBytes_eq, hrow⟩

end Decoded

/-- Export succeeds on a tree over prepared nullifiers, and its blobs decode to the tree, for every
supported layout of depth 19. -/
theorem exportForLayout_decodes {H : Hasher} {nfs : List Fp} {ranges : List PuncturedRange}
    {t : PirTree} {l : PirLayout} (prepared : prepareNullifiers nfs = .ok ranges)
    (built : buildPirTree H ranges = .ok t) (valid : l.validateSupported = .ok ())
    (hdepth : l.pirDepth = PIR_DEPTH) :
    ∃ tier0 tier1, exportForLayout t l = .ok (tier0, tier1) ∧
      DecodesTo H ranges l tier0 tier1 := by
  have sup := PirLayout.validateSupported_ok valid
  have cov : Cover ranges := (prepareNullifiers_ok prepared).1
  exact ⟨_, _, exportForLayout_eq (buildPirTree_ok built) sup hdepth,
    decodesTo_encode cov sup hdepth⟩

/-- The tiers of the tree over the sentinels alone, with an uneven split. -/
theorem exportForLayout_decodes_sentinels :
    ∃ t tier0 tier1, buildPirTree Hasher.affine sentinelRanges = .ok t ∧
      exportForLayout t ⟨19, 11, 8, 2048⟩ = .ok (tier0, tier1) ∧
      DecodesTo Hasher.affine sentinelRanges ⟨19, 11, 8, 2048⟩ tier0 tier1 := by
  obtain ⟨t, built⟩ := @buildPirTree_eq_ok Hasher.affine sentinelRanges
    (by rw [sentinelRanges_checked.1]; decide) sentinelRanges_checked.2
  have valid : (⟨19, 11, 8, 2048⟩ : PirLayout).validateSupported = .ok () := by decide
  obtain ⟨tier0, tier1, hexport, hdecodes⟩ :=
    exportForLayout_decodes prepareNullifiers_nil built valid rfl
  exact ⟨t, tier0, tier1, built, hexport, hdecodes⟩

end NullifierPir.Export
