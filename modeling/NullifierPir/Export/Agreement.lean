import NullifierPir.Export.Decode
import NullifierPir.Export.Files

/-!
# Exported tiers and their root

When the tiers of an export agree with the root they store. `Agrees` reads it off the blobs: every
stored internal node is the hash of its stored children, the subtree hashes included, every subtree
hash is the root over its own row, and every range of the tree stands at its leaf.

The exporters validate the layout on its own, while the levels come from the tree, which has depth
19. A deeper layout indexes a level the tree does not have, and the export panics
(`exportTier0Layout_of_gt`). A shallower one stores the depth-19 root over the nodes of its own
depth and drops the leaves past that depth (`exportTier0Layout_of_le`). `export_sound_iff` is the
exact condition.
-/

namespace NullifierPir.Export
open Rust ByteString Crash Imt NullifierPir.Types

/-- Row `s` of a Tier 1 blob, decoded. -/
def tier1RowAt (tier1 : Bytes) (l : PirLayout) (s : Nat) : Rust Tier1Row := do
  let rowBytes ← l.tier1RowBytes
  Tier1Row.fromLayout (slice tier1 (s * rowBytes) rowBytes) l

/-- A tier set that agrees with its own root and holds every range of the tree. -/
structure Agrees (H : Hasher) (t : PirTree) (l : PirLayout) (tier0 tier1 : Bytes) : Prop where
  tier0 : ∃ data, Tier0Data.fromLayout tier0 l = .ok data ∧ data.root = data.nodeAt 0 0 ∧
    (∀ d, d + 1 < l.tier0Layers → ∀ i < 2 ^ d, ∃ node left right,
      data.nodeAt d i = .ok node ∧ data.nodeAt (d + 1) (2 * i) = .ok left ∧
      data.nodeAt (d + 1) (2 * i + 1) = .ok right ∧ node = H.hash left right) ∧
    (∀ i < 2 ^ (l.tier0Layers - 1), ∃ node left right,
      data.nodeAt (l.tier0Layers - 1) i = .ok node ∧ data.subtreeRecord (2 * i) = .ok left ∧
      data.subtreeRecord (2 * i + 1) = .ok right ∧ node = H.hash left.1 right.1) ∧
    ∀ s < 2 ^ l.tier0Layers, ∃ record row, ∃ leaf : Nat → PuncturedRange,
      data.subtreeRecord s = .ok record ∧ tier1RowAt tier1 l s = .ok row ∧
      (∀ i < 2 ^ l.tier1Layers, row.leafRecord i = .ok (leaf i)) ∧
      record.1 = Merkle.node H.hash (fun i => H.leaf (leaf i)) l.tier1Layers 0
  ranges : ∀ j (h : j < t.ranges.length), ∃ s < 2 ^ l.tier0Layers, ∃ i < 2 ^ l.tier1Layers,
    s * 2 ^ l.tier1Layers + i = j ∧
    ∃ row, tier1RowAt tier1 l s = .ok row ∧ row.leafRecord i = .ok t.ranges[j]

/-- An in-memory export that fails with an error or agrees with its root. -/
def SoundExport (H : Hasher) (t : PirTree) (l : PirLayout) : Prop :=
  (∃ msg, exportForLayout t l = .error (.err msg)) ∨
    ∃ tier0 tier1, exportForLayout t l = .ok (tier0, tier1) ∧ Agrees H t l tier0 tier1

/-- An export to files that fails with an error or leaves files that agree with their root. -/
def SoundFiles (H : Hasher) (json : Json PirMetadata) (t : PirTree) (network : ZcashNetwork)
    (height : Option Nat) (l : PirLayout) (dir : Dir) : Prop :=
  (∃ msg, (exportAllWithLayout json t network height l dir).2 = .error (.err msg)) ∨
    (exportAllWithLayout json t network height l dir).2 = .ok () ∧
    ∃ tier0 tier1, (exportAllWithLayout json t network height l).after dir .tier0 = some tier0 ∧
      (exportAllWithLayout json t network height l).after dir .tier1 = some tier1 ∧
      Agrees H t l tier0 tier1

/-- The layout fits the tree: it has the tree's depth, or the ranges fit its smaller depth and the
tree's root happens to be the node at that depth. -/
def DepthFits (H : Hasher) (t : PirTree) (l : PirLayout) : Prop :=
  l.pirDepth = PIR_DEPTH ∨
    l.pirDepth < PIR_DEPTH ∧ t.ranges.length ≤ 2 ^ l.pirDepth ∧
      t.pirRoot = rangeNode H t.ranges l.pirDepth 0

section Depth

variable {H : Hasher} {ranges : List PuncturedRange} {l : PirLayout} {root : Fp}

/-- Below the root, the stored nodes are those of the tree at the layout's depth. -/
lemma nodeAt_depth {d i : Nat} (hd : d < l.tier0Layers) (hi : i < 2 ^ d) :
    (Tier0Data.ofParts l (root :: (depthNodes H ranges l.pirDepth l.tier0Layers).tail)
      (depthRecords H ranges l.pirDepth l.tier0Layers)).nodeAt d i =
      .ok (if d = 0 then root else rangeNode H ranges (l.pirDepth - d) i) := by
  have hget : (depthNodes H ranges l.pirDepth l.tier0Layers)[2 ^ d - 1 + i]? =
      some (rangeNode H ranges (l.pirDepth - d) i) := getElem?_bfsNodes hd hi
  rw [depthNodes_eq_cons (by omega)] at hget
  cases d with
  | zero =>
    obtain rfl : i = 0 := by simpa using hi
    exact Tier0Data.nodeAt_ofParts (Nat.succ_pos _)
  | succ d =>
    have hpos : 2 ^ (d + 1) - 1 + i = (2 ^ (d + 1) - 2 + i) + 1 := by
      have : 2 ^ 1 ≤ 2 ^ (d + 1) := Nat.pow_le_pow_right (by decide) (by omega)
      omega
    have hstored : (root :: (depthNodes H ranges l.pirDepth l.tier0Layers).tail)[
        2 ^ (d + 1) - 1 + i]? = some (rangeNode H ranges (l.pirDepth - (d + 1)) i) := by
      rw [hpos, List.getElem?_cons_succ] at hget ⊢
      exact hget
    obtain ⟨hlt, hnode⟩ := List.getElem?_eq_some_iff.mp hstored
    rw [Tier0Data.nodeAt_ofParts hlt, hnode, if_neg (Nat.succ_ne_zero d)]

/-- The record of a subtree holds its node and its least key. -/
lemma subtreeRecord_depth (h : 1 ≤ l.tier0Layers) {s : Nat} (hs : s < 2 ^ l.tier0Layers) :
    (Tier0Data.ofParts l (root :: (depthNodes H ranges l.pirDepth l.tier0Layers).tail)
      (depthRecords H ranges l.pirDepth l.tier0Layers)).subtreeRecord s =
      .ok (rangeNode H ranges (l.pirDepth - l.tier0Layers) s,
        subtreeMinKey ranges (s * 2 ^ (l.pirDepth - l.tier0Layers))) := by
  have hlt : s < (depthRecords H ranges l.pirDepth l.tier0Layers).length := by
    rw [length_depthRecords]
    exact hs
  rw [Tier0Data.subtreeRecord_ofParts (fills_depth h) hlt]
  simp [depthRecords]

/-- A padding record commits to the empty leaf. -/
lemma leaf_getD {i : Nat} :
    H.leaf (ranges.getD i ⟨0, 0, 0⟩) = leafAt H (commitPuncturedRanges H ranges) i := by
  rcases Nat.lt_or_ge i ranges.length with hi | hi
  · rw [leafAt_of_lt (by rwa [length_commitPuncturedRanges]), List.getD_eq_getElem _ _ hi]
    simp [commitPuncturedRanges, Hasher.leaf]
  · rw [leafAt_of_ge (by rwa [length_commitPuncturedRanges]), List.getD_eq_default _ _ hi]
    rfl

/-- The root over a row is the tree's node above it. -/
lemma rowRoot_eq {t s : Nat} :
    Merkle.node H.hash (fun i => H.leaf (ranges.getD (s * 2 ^ t + i) ⟨0, 0, 0⟩)) t 0 =
      rangeNode H ranges t s := by
  simp only [leaf_getD]
  rw [Merkle.node_shift le_rfl, Nat.sub_self, Nat.pow_zero, Nat.mul_one, Nat.add_zero]

/-- Row `s` holds the ranges of subtree `s`. -/
lemma tier1RowAt_eq (sup : l.Supported) {s : Nat} (hs : s < 2 ^ l.tier0Layers) :
    ∃ row, tier1RowAt ((List.range (2 ^ l.tier0Layers)).flatMap fun s =>
        encodeRow (rowRanges ranges (2 ^ l.tier1Layers) s)) l s = .ok row ∧
      ∀ i < 2 ^ l.tier1Layers,
        row.leafRecord i = .ok (ranges.getD (s * 2 ^ l.tier1Layers + i) ⟨0, 0, 0⟩) := by
  obtain ⟨row, hrow, hleaf⟩ := @row_tree ranges l sup _ s hs
  refine ⟨row, ?_, hleaf⟩
  rw [tier1RowAt, sup.tier1RowBytes_eq]
  exact hrow

/-- Leaf `j` stands in a row exactly when it is below the layout's depth. -/
lemma leaf_position (sup : l.Supported) {j : Nat} :
    (∃ s < 2 ^ l.tier0Layers, ∃ i < 2 ^ l.tier1Layers, s * 2 ^ l.tier1Layers + i = j) ↔
      j < 2 ^ l.pirDepth := by
  have hpow : 2 ^ l.pirDepth = 2 ^ l.tier0Layers * 2 ^ l.tier1Layers := by
    rw [sup.split, Nat.pow_add]
  have hpos : 0 < 2 ^ l.tier1Layers := Nat.two_pow_pos _
  constructor
  · rintro ⟨s, hs, i, hi, rfl⟩
    have hrow : (s + 1) * 2 ^ l.tier1Layers ≤ 2 ^ l.tier0Layers * 2 ^ l.tier1Layers :=
      Nat.mul_le_mul_right _ hs
    rw [Nat.succ_mul] at hrow
    omega
  · intro hj
    refine ⟨j / 2 ^ l.tier1Layers, ?_, j % 2 ^ l.tier1Layers, Nat.mod_lt _ hpos,
      Nat.div_add_mod' _ _⟩
    rw [Nat.div_lt_iff_lt_mul hpos, ← hpow]
    exact hj

end Depth

section Shallow

variable {H : Hasher} {ranges : List PuncturedRange} {t : PirTree} {l : PirLayout}

/-- With the root of the layout's depth and every range below it, the blobs agree. -/
lemma agrees_of_fits (sup : l.Supported) (hroot : t.pirRoot = rangeNode H t.ranges l.pirDepth 0)
    (hlen : t.ranges.length ≤ 2 ^ l.pirDepth) :
    Agrees H t l
      (encodeTier0 (t.pirRoot :: (depthNodes H t.ranges l.pirDepth l.tier0Layers).tail)
        (depthRecords H t.ranges l.pirDepth l.tier0Layers))
      ((List.range (2 ^ l.tier0Layers)).flatMap fun s =>
        encodeRow (rowRanges t.ranges (2 ^ l.tier1Layers) s)) := by
  have h0 : 11 ≤ l.tier0Layers := sup.tier0.1
  have hsplit := sup.split
  have hnode : ∀ d i, i < 2 ^ d →
      (if d = 0 then t.pirRoot else rangeNode H t.ranges (l.pirDepth - d) i) =
        rangeNode H t.ranges (l.pirDepth - d) i := by
    intro d i hi
    split
    · rename_i hd
      subst hd
      obtain rfl : i = 0 := by simpa using hi
      exact hroot
    · rfl
  have hchild : ∀ d i, d < l.pirDepth → rangeNode H t.ranges (l.pirDepth - d) i =
      H.hash (rangeNode H t.ranges (l.pirDepth - (d + 1)) (2 * i))
        (rangeNode H t.ranges (l.pirDepth - (d + 1)) (2 * i + 1)) := by
    intro d i hd
    rw [show l.pirDepth - d = l.pirDepth - (d + 1) + 1 by omega]
    rfl
  constructor
  · refine ⟨_, Tier0Data.fromLayout_encodeTier0 sup (fills_depth (by omega)), rfl, ?_, ?_, ?_⟩
    · intro d hd i hi
      have hpow : 2 ^ (d + 1) = 2 * 2 ^ d := Nat.pow_succ'
      refine ⟨_, _, _, nodeAt_depth (by omega) hi, nodeAt_depth hd (by omega),
        nodeAt_depth hd (by omega), ?_⟩
      rw [hnode d i hi, hnode _ _ (by omega), hnode _ _ (by omega)]
      exact hchild d i (by omega)
    · intro i hi
      have hpow : 2 ^ l.tier0Layers = 2 * 2 ^ (l.tier0Layers - 1) := by
        rw [← Nat.pow_succ']
        congr 1
        omega
      refine ⟨_, _, _, nodeAt_depth (by omega) hi, subtreeRecord_depth (by omega) (by omega),
        subtreeRecord_depth (by omega) (by omega), ?_⟩
      rw [hnode _ i hi, hchild (l.tier0Layers - 1) i (by omega),
        show l.tier0Layers - 1 + 1 = l.tier0Layers by omega]
    · intro s hs
      obtain ⟨row, hrow, hleaf⟩ := @tier1RowAt_eq t.ranges l sup s hs
      refine ⟨_, row, _, subtreeRecord_depth (by omega) hs, hrow, hleaf, ?_⟩
      rw [rowRoot_eq, show l.pirDepth - l.tier0Layers = l.tier1Layers by omega]
  · intro j hj
    obtain ⟨s, hs, i, hi, hpos⟩ := (leaf_position sup).mpr (Nat.lt_of_lt_of_le hj hlen)
    obtain ⟨row, hrow, hleaf⟩ := @tier1RowAt_eq t.ranges l sup s hs
    refine ⟨s, hs, i, hi, hpos, row, hrow, ?_⟩
    rw [hleaf i hi, hpos, List.getD_eq_getElem _ _ hj]

/-- Blobs that agree store the root of their own depth, and no range lies past it. -/
lemma Agrees.fits {tier1 : Bytes} (sup : l.Supported) (agrees : Agrees H t l
      (encodeTier0 (t.pirRoot :: (depthNodes H t.ranges l.pirDepth l.tier0Layers).tail)
        (depthRecords H t.ranges l.pirDepth l.tier0Layers)) tier1) :
    t.ranges.length ≤ 2 ^ l.pirDepth ∧ t.pirRoot = rangeNode H t.ranges l.pirDepth 0 := by
  have h0 : 11 ≤ l.tier0Layers := sup.tier0.1
  have hsplit := sup.split
  constructor
  · by_contra hlt
    obtain ⟨s, hs, i, hi, hpos, _⟩ := agrees.ranges (2 ^ l.pirDepth) (Nat.lt_of_not_le hlt)
    exact Nat.lt_irrefl _ ((leaf_position sup).mp ⟨s, hs, i, hi, hpos⟩)
  · obtain ⟨data, hdata, _, hnodes, _⟩ := agrees.tier0
    rw [Tier0Data.fromLayout_encodeTier0 sup (fills_depth (by omega))] at hdata
    obtain rfl := Except.ok.inj hdata
    obtain ⟨node, left, right, hnode, hleft, hright, hhash⟩ := hnodes 0 (by omega) 0 Nat.one_pos
    rw [nodeAt_depth (by omega) Nat.one_pos] at hnode
    rw [nodeAt_depth (by omega) (by decide)] at hleft hright
    rw [← Except.ok.inj hnode, ← Except.ok.inj hleft, ← Except.ok.inj hright] at hhash
    rw [show l.pirDepth = l.pirDepth - 1 + 1 by omega]
    exact hhash

/-- The two blobs of a built tree, for a layout no deeper than the tree. -/
lemma exportForLayout_of_le (built : t.Built H ranges) (sup : l.Supported)
    (hle : l.pirDepth ≤ PIR_DEPTH) :
    exportForLayout t l =
      .ok (encodeTier0 (t.pirRoot :: (depthNodes H t.ranges l.pirDepth l.tier0Layers).tail)
          (depthRecords H t.ranges l.pirDepth l.tier0Layers),
        (List.range (2 ^ l.tier0Layers)).flatMap fun s =>
          encodeRow (rowRanges t.ranges (2 ^ l.tier1Layers) s)) := by
  rw [exportForLayout, exportTier0Layout_of_le built sup hle, exportTier1Layout_eq sup,
    built.ranges_eq]
  rfl

end Shallow

variable {H : Hasher} {ranges : List PuncturedRange} {t : PirTree} {l : PirLayout}

/-- Whichever way the layout fits, its own depth has the tree's root and all of its ranges. -/
lemma DepthFits.depth_le (built : t.Built H ranges) (fits : DepthFits H t l) :
    l.pirDepth ≤ PIR_DEPTH ∧ t.ranges.length ≤ 2 ^ l.pirDepth ∧
      t.pirRoot = rangeNode H t.ranges l.pirDepth 0 := by
  rcases fits with hdepth | ⟨hlt, hlen, hroot⟩
  · rw [hdepth, built.ranges_eq]
    exact ⟨le_rfl, built.bound, built.pirRoot⟩
  · exact ⟨hlt.le, hlen, hroot⟩

/-- Blobs of a layout no deeper than the tree agree exactly when the layout fits. -/
lemma agrees_iff (built : t.Built H ranges) (sup : l.Supported) (hle : l.pirDepth ≤ PIR_DEPTH) :
    Agrees H t l
      (encodeTier0 (t.pirRoot :: (depthNodes H t.ranges l.pirDepth l.tier0Layers).tail)
        (depthRecords H t.ranges l.pirDepth l.tier0Layers))
      ((List.range (2 ^ l.tier0Layers)).flatMap fun s =>
        encodeRow (rowRanges t.ranges (2 ^ l.tier1Layers) s)) ↔ DepthFits H t l := by
  constructor
  · intro agrees
    rcases Nat.eq_or_lt_of_le hle with heq | hlt
    · exact .inl heq
    · exact .inr ⟨hlt, agrees.fits sup⟩
  · intro fits
    obtain ⟨_, hlen, hroot⟩ := fits.depth_le built
    exact agrees_of_fits sup hroot hlen

/-- A blob export is sound exactly when the depth fits. -/
lemma soundExport_iff (built : t.Built H ranges) (sup : l.Supported) :
    SoundExport H t l ↔ DepthFits H t l := by
  rcases Nat.lt_or_ge PIR_DEPTH l.pirDepth with hgt | hle
  · -- the first missing level panics before anything is returned
    obtain ⟨msg, hpanic⟩ := exportTier0Layout_of_gt built sup hgt
    have hexport : exportForLayout t l = .error (.panic msg) := by
      rw [exportForLayout, hpanic]
      rfl
    constructor
    · rintro (⟨_, h⟩ | ⟨_, _, h, _⟩)
      · rw [hexport] at h
        cases h
      · rw [hexport] at h
        cases h
    · intro fits
      exact absurd (fits.depth_le built).1 (Nat.not_le_of_lt hgt)
  · rw [← agrees_iff built sup hle, SoundExport, exportForLayout_of_le built sup hle]
    constructor
    · rintro (⟨_, h⟩ | ⟨_, _, h, agrees⟩)
      · cases h
      · obtain ⟨rfl, rfl⟩ := Prod.mk.inj (Except.ok.inj h)
        exact agrees
    · intro agrees
      exact .inr ⟨_, _, rfl, agrees⟩

/-- An export to files is sound under the same condition. -/
lemma soundFiles_iff (built : t.Built H ranges) (sup : l.Supported) {json network height dir} :
    SoundFiles H json t network height l dir ↔ DepthFits H t l := by
  rcases Nat.lt_or_ge PIR_DEPTH l.pirDepth with hgt | hle
  · obtain ⟨msg, hpanic⟩ := exportTier0Layout_of_gt built sup hgt
    have hresult := @exportAllWithLayout_error json t network height l dir _ sup hpanic
    constructor
    · rintro (⟨_, h⟩ | ⟨h, _⟩)
      · rw [hresult] at h
        cases h
      · rw [hresult] at h
        cases h
    · intro fits
      exact absurd (fits.depth_le built).1 (Nat.not_le_of_lt hgt)
  · have h0 := exportTier0Layout_of_le built sup hle
    have h1 := @exportTier1Layout_eq t.ranges l sup
    rw [← built.ranges_eq] at h0
    obtain ⟨_, hok⟩ := @exportAllWithLayout_returns json t network height l _ _ sup h0 h1 dir
    have hfiles := (exportAllWithLayout_files h0 h1 dir trivial).2 () hok
    rw [← agrees_iff built sup hle]
    constructor
    · rintro (⟨_, h⟩ | ⟨_, tier0, tier1, htier0, htier1, agrees⟩)
      · rw [hok] at h
        cases h
      · obtain rfl := Option.some.inj (htier0.symm.trans hfiles.1)
        obtain rfl := Option.some.inj (htier1.symm.trans hfiles.2)
        exact agrees
    · intro agrees
      exact .inr ⟨hok, _, _, hfiles.1, hfiles.2, agrees⟩

/-- Each export is sound exactly when the layout fits the tree. -/
theorem export_sound_iff (build : buildPirTree H ranges = .ok t)
    (valid : l.validateSupported = .ok ()) :
    (SoundExport H t l ↔ DepthFits H t l) ∧
      ∀ json network height dir,
        SoundFiles H json t network height l dir ↔ DepthFits H t l := by
  have built := buildPirTree_ok build
  have sup := PirLayout.validateSupported_ok valid
  exact ⟨soundExport_iff built sup, fun _ _ _ _ => soundFiles_iff built sup⟩

/-- The layout of the tree's own depth. -/
theorem export_sound_compiled :
    ∃ t, buildPirTree Hasher.affine sentinelRanges = .ok t ∧
      SoundExport Hasher.affine t COMPILED_PIR_LAYOUT := by
  obtain ⟨t, build⟩ := @buildPirTree_eq_ok Hasher.affine sentinelRanges
    (by rw [sentinelRanges_checked.1]; decide) sentinelRanges_checked.2
  have valid : COMPILED_PIR_LAYOUT.validateSupported = .ok () := by decide
  exact ⟨t, build, (export_sound_iff build valid).1.mpr (.inl rfl)⟩

/-- A supported layout of depth 20: the export of the tree over the sentinels panics. -/
theorem export_panics_depth_twenty :
    ∃ t l, buildPirTree Hasher.affine sentinelRanges = .ok t ∧
      PirLayout.validateSupported l = .ok () ∧ l.pirDepth = 20 ∧
      (∃ msg, exportForLayout t l = .error (.panic msg)) ∧ ¬ SoundExport Hasher.affine t l := by
  obtain ⟨t, build⟩ := @buildPirTree_eq_ok Hasher.affine sentinelRanges
    (by rw [sentinelRanges_checked.1]; decide) sentinelRanges_checked.2
  have valid : (⟨20, 12, 8, 4096⟩ : PirLayout).validateSupported = .ok () := by decide
  obtain ⟨msg, hpanic⟩ := exportTier0Layout_of_gt (buildPirTree_ok build)
    (PirLayout.validateSupported_ok valid) (by decide)
  have hexport : exportForLayout t ⟨20, 12, 8, 4096⟩ = .error (.panic msg) := by
    rw [exportForLayout, hpanic]
    rfl
  refine ⟨t, ⟨20, 12, 8, 4096⟩, build, valid, rfl, ⟨msg, hexport⟩, ?_⟩
  rintro (⟨_, h⟩ | ⟨_, _, h, _⟩)
  · rw [hexport] at h
    cases h
  · rw [hexport] at h
    cases h

end NullifierPir.Export
