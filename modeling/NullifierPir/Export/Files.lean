import NullifierPir.Lib.Hex
import NullifierPir.Store
import NullifierPir.Types.Metadata
import NullifierPir.Export.Tiers

/-!
# Tier files

Port of the file half of `pir/export/src/lib.rs`: `exportAllWithLayout` writes the two tiers and the
metadata into a tier directory. The files are replaced one after the other and in place: Tier 0 as a
whole, Tier 1 by truncating the file and writing its rows, the metadata last.
-/

namespace NullifierPir.Export
open Rust ByteString Crash Hex Imt NullifierPir.Types

/-- Artifacts of the second PIR database of dataset version 1. -/
def LEGACY_ARTIFACTS : List DataFile := [.tier2, .tier2Precompute, .tier2PrecomputeTmp]

/-- Remove the precompute cache of a tier that was rewritten (Rust `evict_stale_precompute`). -/
def evictStalePrecompute (cache tmp : DataFile) : Fs Unit := do
  Fs.removeIfExists cache
  Fs.removeIfExists tmp

/-- The metadata of an export. -/
def exportMetadata (tree : PirTree) (network : ZcashNetwork) (height : Option Nat)
    (layout : PirLayout) (tier0Bytes tier1Rows tier1RowBytes : Nat) : PirMetadata where
  zcashNetwork := network
  nullifierPool := NULLIFIER_POOL
  datasetVersion := DATASET_VERSION
  pirRoot := hexEncode tree.pirRoot.toRepr
  circuitRoot := hexEncode tree.circuitRoot.toRepr
  numRanges := tree.ranges.length
  pirDepth := layout.pirDepth
  pirLayout := layout
  tier0Bytes := tier0Bytes
  tier1Rows := tier1Rows
  tier1RowBytes := tier1RowBytes
  height := height

/-- Export tier blobs and metadata (Rust `export_all_with_layout`). -/
def exportAllWithLayout (json : Json PirMetadata) (tree : PirTree) (network : ZcashNetwork)
    (height : Option Nat) (layout : PirLayout) : Fs Unit := do
  Prog.lift (context "invalid export layout" layout.validateSupported)
  Prog.forEach LEGACY_ARTIFACTS Fs.removeIfExists
  let tier0Data ← Prog.lift
    (exportTier0Layout tree.pirRoot tree.levels tree.ranges tree.emptyHashes layout)
  Prog.perform (.create .tier0 tier0Data)
  evictStalePrecompute .tier0Precompute .tier0PrecomputeTmp
  -- `File::create` truncates before the first row is computed
  Prog.perform (.create .tier1 [])
  let tier1Data ← Prog.lift (exportTier1Layout tree.ranges layout)
  Prog.perform (.append .tier1 tier1Data)
  evictStalePrecompute .tier1Precompute .tier1PrecomputeTmp
  let tier1Rows ← Prog.lift layout.tier1Rows
  let tier1RowBytes ← Prog.lift layout.tier1RowBytes
  let metadata := exportMetadata tree network height layout tier0Data.length tier1Rows tier1RowBytes
  Prog.perform (.create .pirRoot (json.encode metadata))

/-- Export under the compiled production layout (Rust `export_all`). -/
def exportAll (json : Json PirMetadata) (tree : PirTree) (network : ZcashNetwork)
    (height : Option Nat) : Fs Unit :=
  exportAllWithLayout json tree network height COMPILED_PIR_LAYOUT

section Run

variable {J : Dir → FsOp → Prop} {pre : Dir → Prop}

/-- Removing a file keeps what does not depend on it. -/
lemma removeIfExists_triple {n : DataFile} (allowed : ∀ s, pre s → J s (.remove n))
    (keeps : ∀ s, pre s → pre ((Op.remove n : FsOp).apply s)) :
    Triple J pre (Fs.removeIfExists n) fun _ => pre := by
  refine Triple.seq (fun _ s => pre s) (.inspect fun _ hs => hs) ?_
  intro b
  cases b with
  | false => exact .pure fun _ hs => hs
  | true => exact .perform fun s hs => ⟨allowed s hs, keeps s hs⟩

/-- Removing a file returns. -/
lemma removeIfExists_returns {n : DataFile} : (Fs.removeIfExists n).Returns := by
  refine .bind .inspect ?_
  intro b
  cases b with
  | false => exact .pure
  | true => exact .perform

/-- Evicting a cache only removes its two files. -/
lemma evictStalePrecompute_triple {cache tmp : DataFile}
    (allowed : ∀ s, pre s → J s (.remove cache) ∧ J s (.remove tmp))
    (keeps : ∀ s, pre s → pre ((Op.remove cache : FsOp).apply s) ∧
      pre ((Op.remove tmp : FsOp).apply s)) :
    Triple J pre (evictStalePrecompute cache tmp) fun _ => pre := by
  refine .bind (removeIfExists_triple (fun s hs => (allowed s hs).1) fun s hs => (keeps s hs).1) ?_
  intro _
  exact removeIfExists_triple (fun s hs => (allowed s hs).2) fun s hs => (keeps s hs).2

/-- And it returns. -/
lemma evictStalePrecompute_returns {cache tmp : DataFile} :
    (evictStalePrecompute cache tmp).Returns :=
  .bind removeIfExists_returns fun _ => removeIfExists_returns

/-- Removing the legacy files returns. -/
lemma removeLegacy_returns : (Prog.forEach LEGACY_ARTIFACTS Fs.removeIfExists : Fs Unit).Returns :=
  .bind removeIfExists_returns fun _ => .bind removeIfExists_returns fun _ =>
    .bind removeIfExists_returns fun _ => .pure

variable {json : Json PirMetadata} {t : PirTree} {network : ZcashNetwork} {height : Option Nat}
  {l : PirLayout} {tier0 tier1 : Bytes}

/-- A tier that cannot be computed fails the export with its own fault. -/
lemma exportAllWithLayout_error {dir : Dir} {e : Fault} (sup : l.Supported)
    (h0 : exportTier0Layout t.pirRoot t.levels t.ranges t.emptyHashes l = .error e) :
    (exportAllWithLayout json t network height l dir).2 = .error e := by
  obtain ⟨_, hlegacy⟩ := removeLegacy_returns dir
  rw [exportAllWithLayout, sup.validateSupported_eq, context_ok, Prog.lift_bind rfl,
    Prog.bind_of_ok hlegacy, h0]
  rfl

/-- An export whose tiers can be computed succeeds. -/
lemma exportAllWithLayout_returns (sup : l.Supported)
    (h0 : exportTier0Layout t.pirRoot t.levels t.ranges t.emptyHashes l = .ok tier0)
    (h1 : exportTier1Layout t.ranges l = .ok tier1) :
    (exportAllWithLayout json t network height l).Returns := by
  refine .bind (.lift (by rw [sup.validateSupported_eq]; rfl)) fun _ => ?_
  refine .bind removeLegacy_returns fun _ => ?_
  refine .bind (.lift h0) fun _ => ?_
  refine .bind .perform fun _ => ?_
  refine .bind evictStalePrecompute_returns fun _ => ?_
  refine .bind .perform fun _ => ?_
  refine .bind (.lift h1) fun _ => ?_
  refine .bind .perform fun _ => ?_
  refine .bind evictStalePrecompute_returns fun _ => ?_
  refine .bind (.lift sup.tier1Rows_eq) fun _ => ?_
  exact .bind (.lift sup.tier1RowBytes_eq) fun _ => .perform

/-- A finished export leaves the two tiers in their files. -/
lemma exportAllWithLayout_files
    (h0 : exportTier0Layout t.pirRoot t.levels t.ranges t.emptyHashes l = .ok tier0)
    (h1 : exportTier1Layout t.ranges l = .ok tier1) :
    Triple (fun _ _ => True) (fun _ => True) (exportAllWithLayout json t network height l)
      fun _ s => s .tier0 = some tier0 ∧ s .tier1 = some tier1 := by
  refine Triple.seq (fun _ _ => True) (.lift fun _ _ _ _ => trivial) fun _ => ?_
  refine Triple.seq (fun _ _ => True) (.forEach fun _ _ => removeIfExists_triple
    (fun _ _ => trivial) fun _ _ => trivial) fun _ => ?_
  refine Triple.seq (fun data _ => data = tier0) (.lift fun _ _ h _ => ?_) fun data => ?_
  · rw [h0] at h
    exact (Except.ok.inj h).symm
  refine Triple.seq (fun _ s => s .tier0 = some tier0) (.perform fun s hs => ⟨trivial, ?_⟩)
    fun _ => ?_
  · rw [apply_create, if_pos rfl, hs]
  refine .bind (evictStalePrecompute_triple (fun _ _ => ⟨trivial, trivial⟩) fun s hs =>
    ⟨by simpa using hs, by simpa using hs⟩) fun _ => ?_
  refine Triple.seq (fun _ s => s .tier0 = some tier0 ∧ s .tier1 = some [])
    (.perform fun s hs => ⟨trivial, by simpa using hs⟩) fun _ => ?_
  refine Triple.seq (fun data s => (s .tier0 = some tier0 ∧ s .tier1 = some []) ∧ data = tier1)
    (.lift fun _ s h hs => ⟨hs, ?_⟩) fun data => ?_
  · rw [h1] at h
    exact (Except.ok.inj h).symm
  refine Triple.seq (fun _ s => s .tier0 = some tier0 ∧ s .tier1 = some tier1)
    (.perform fun s hs => ⟨trivial, ?_⟩) fun _ => ?_
  · obtain ⟨⟨ht0, ht1⟩, hdata⟩ := hs
    simp [ht0, ht1, hdata]
  refine .bind (evictStalePrecompute_triple (fun _ _ => ⟨trivial, trivial⟩) fun s hs =>
    ⟨by simpa using hs, by simpa using hs⟩) fun _ => ?_
  refine Triple.seq (fun _ s => s .tier0 = some tier0 ∧ s .tier1 = some tier1)
    (.lift fun _ _ _ hs => hs) fun _ => ?_
  refine Triple.seq (fun _ s => s .tier0 = some tier0 ∧ s .tier1 = some tier1)
    (.lift fun _ _ _ hs => hs) fun _ => ?_
  exact .perform fun s hs => ⟨trivial, by simpa using hs⟩

end Run

end NullifierPir.Export
