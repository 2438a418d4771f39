import NullifierPir.Server.PrecomputeCache
import NullifierPir.Types.Tier0
import NullifierPir.NfServer.Installed

/-!
# Loading the serving state

Port of `load_serving_state_with_poly_len` of `pir/server/src/lib.rs`. The loader checks `tier0.bin`
against the root in `pir_root.json` and the sizes of all files against its layout; nothing ties
`tier1.bin` to the other two. That a directory which bootstrap runs left is never served mixed rests on
the order of the renames: `Unmixed` says that metadata and Tier 0 of one snapshot are only together in
place with its Tier 1, and every run keeps it wherever it is cut (`run_unmixed`).
-/

namespace NullifierPir.Server
open Rust ByteString Crash Hex NullifierPir.Types NullifierPir.NfServer

/-- Everything a server answers from (Rust `ServingState`). -/
structure ServingState (y : Ypir) where
  tier0Data : Bytes
  tier1 : y.ServerState × y.OfflineState
  tier1Scenario : YpirScenario
  metadata : PirMetadata

def OS_NOT_FOUND : String := "No such file or directory (os error 2)"

/-- The checks on decoded metadata; returns it with the degree of the process, and the sizes its layout
implies. -/
def bindMetadata (expectedNetwork : ZcashNetwork) (polyLen : Nat) (metadata : PirMetadata) :
    Rust (PirMetadata × Nat × Nat × Nat) := do
  ensure (decide (metadata.zcashNetwork = expectedNetwork))
    (s!"PIR dataset Zcash network is {metadata.zcashNetwork.asStr}; " ++
      s!"expected {expectedNetwork.asStr}")
  ensure (isCurrentDataset metadata.nullifierPool metadata.datasetVersion)
    (s!"unsupported nullifier dataset {metadata.nullifierPool.quote} version " ++
      s!"{metadata.datasetVersion}; expected {NULLIFIER_POOL.quote} version {DATASET_VERSION}")
  let metadata := { metadata with pirLayout := { metadata.pirLayout with polyLen := polyLen } }
  context "invalid metadata pir_layout" metadata.pirLayout.validateSupported
  let layoutRows ← metadata.pirLayout.tier1Rows
  let layoutRowBytes ← metadata.pirLayout.tier1RowBytes
  let expectedTier0Bytes ← metadata.pirLayout.tier0Bytes
  ensure (metadata.pirDepth == metadata.pirLayout.pirDepth && metadata.tier1Rows == layoutRows &&
      metadata.tier1RowBytes == layoutRowBytes && metadata.tier0Bytes == expectedTier0Bytes)
    (s!"PIR dataset layout mismatch: metadata depth {metadata.pirDepth} / layout " ++
      s!"{metadata.pirLayout.debug} / tier1 {metadata.tier1Rows}x{metadata.tier1RowBytes} bytes / " ++
      s!"tier0 {metadata.tier0Bytes} bytes; derived tier1 {layoutRows}x{layoutRowBytes} bytes and " ++
      s!"tier0 {expectedTier0Bytes} bytes")
  return (metadata, layoutRows, layoutRowBytes, expectedTier0Bytes)

/-- The root in the metadata. -/
def metadataRoot (pirRoot : String) : Rust Fp := do
  let pirRootBytes ← context "decode metadata pir_root"
    (ofOption "Invalid hex string" (hexDecode pirRoot.toList))
  ensure (pirRootBytes.length == 32)
    s!"metadata pir_root decoded to {pirRootBytes.length} bytes; expected 32"
  ofOption "metadata pir_root is not a canonical field element" (Fp.fromRepr pirRootBytes)

/-- Tier 0 is of the size of the layout and has the root of the metadata. -/
def checkTier0 (metadata : PirMetadata) (expectedTier0Bytes : Nat) (tier0Data : Bytes) : Rust Unit := do
  ensure (tier0Data.length == expectedTier0Bytes)
    (s!"tier0.bin size mismatch: file has {tier0Data.length}; expected {expectedTier0Bytes} " ++
      "from metadata pir_layout")
  let tier0 ← context "parse tier0.bin" (Tier0Data.fromLayout tier0Data metadata.pirLayout)
  let metadataPirRoot ← metadataRoot metadata.pirRoot
  let root ← tier0.root
  ensure (root == metadataPirRoot) "tier0.bin root does not match metadata pir_root"

section Load

variable (y : Ypir) (blake3 : Bytes → Digest) (target : Bytes)
  (decode : Bytes → Except String PirMetadata)

/-- Load the files of a directory (Rust `load_serving_state_with_poly_len`). -/
def loadServingStateWithPolyLen (dir : DataFile → Option Bytes) (expectedNetwork : ZcashNetwork)
    (polyLen : Nat) : Rust (ServingState y) := do
  let text ← ofOption OS_NOT_FOUND (dir .pirRoot)
  let decoded ← ofResult (decode text)
  let (metadata, layoutRows, layoutRowBytes, expectedTier0Bytes) ←
    bindMetadata expectedNetwork polyLen decoded
  let tier0Data ← ofOption OS_NOT_FOUND (dir .tier0)
  checkTier0 metadata expectedTier0Bytes tier0Data
  let tier1Data ← ofOption OS_NOT_FOUND (dir .tier1)
  let expectedTier1Bytes := layoutRows * layoutRowBytes
  ensure (tier1Data.length == expectedTier1Bytes)
    (s!"tier1.bin size mismatch: got {tier1Data.length} bytes, expected {expectedTier1Bytes} " ++
      "from metadata pir_layout")
  let tier1Scenario ← tier1ScenarioForLayoutWithPolyLen metadata.pirLayout polyLen
  let (tier1, _) ← newOrLoad y blake3 target tier1Scenario (dir .tier1Precompute) (dir .tier1) (dir .tier1)
  return ⟨tier0Data, tier1, tier1Scenario, metadata⟩

end Load

section Accepted

variable {y : Ypir} {blake3 : Bytes → Digest} {target : Bytes}
  {decode : Bytes → Except String PirMetadata} {dir : DataFile → Option Bytes}
  {net : ZcashNetwork} {polyLen : Nat} {st : ServingState y}

/-- The root that the metadata of a snapshot names. -/
def HasRoot (decode : Bytes → Except String PirMetadata) (text : Bytes) (r : Fp) : Prop :=
  ∃ root, decode text = .ok root ∧ metadataRoot root.pirRoot = .ok r

/-- Binding leaves the root alone. -/
lemma bindMetadata_ok {decoded metadata rows rowBytes tier0Bytes}
    (ok : bindMetadata net polyLen decoded = .ok (metadata, rows, rowBytes, tier0Bytes)) :
    metadata.pirRoot = decoded.pirRoot := by
  obtain ⟨_, _, ok⟩ := bind_eq_ok.mp ok
  obtain ⟨_, _, ok⟩ := bind_eq_ok.mp ok
  obtain ⟨_, _, ok⟩ := bind_eq_ok.mp ok
  obtain ⟨_, _, ok⟩ := bind_eq_ok.mp ok
  obtain ⟨_, _, ok⟩ := bind_eq_ok.mp ok
  obtain ⟨_, _, ok⟩ := bind_eq_ok.mp ok
  obtain ⟨_, _, ok⟩ := bind_eq_ok.mp ok
  cases ok
  rfl

/-- Parsing Tier 0 keeps its data. -/
lemma fromLayout_data {data layout tier0} (ok : Tier0Data.fromLayout data layout = .ok tier0) :
    tier0.data = data := by
  obtain ⟨_, _, ok⟩ := bind_eq_ok.mp ok
  obtain ⟨_, _, ok⟩ := bind_eq_ok.mp ok
  obtain ⟨_, _, ok⟩ := bind_eq_ok.mp ok
  obtain ⟨_, _, ok⟩ := bind_eq_ok.mp ok
  obtain ⟨_, _, ok⟩ := bind_eq_ok.mp ok
  obtain ⟨_, _, ok⟩ := bind_eq_ok.mp ok
  cases ok
  rfl

/-- An accepted Tier 0 starts with the root of the metadata. -/
lemma checkTier0_ok {metadata tier0Bytes data u} (ok : checkTier0 metadata tier0Bytes data = .ok u) :
    ∃ r, metadataRoot metadata.pirRoot = .ok r ∧ readFp data 0 = .ok r := by
  obtain ⟨_, _, ok⟩ := bind_eq_ok.mp ok
  obtain ⟨tier0, htier0, ok⟩ := bind_eq_ok.mp ok
  obtain ⟨r, hr, ok⟩ := bind_eq_ok.mp ok
  obtain ⟨r', hr', ok⟩ := bind_eq_ok.mp ok
  obtain rfl : r' = r := beq_iff_eq.mp (ensure_eq_ok.mp ok)
  refine ⟨r', hr, ?_⟩
  rw [← fromLayout_data (context_eq_ok.mp htier0)]
  exact hr'

/-- What a load accepts: all files are there, and Tier 0 has the root of the metadata. -/
lemma loadServingState_ok
    (ok : loadServingStateWithPolyLen y blake3 target decode dir net polyLen = .ok st) :
    ∃ text tier1 r, dir .pirRoot = some text ∧ dir .tier0 = some st.tier0Data ∧
      dir .tier1 = some tier1 ∧ HasRoot decode text r ∧ readFp st.tier0Data 0 = .ok r := by
  obtain ⟨text, htext, ok⟩ := bind_eq_ok.mp ok
  obtain ⟨decoded, hdecoded, ok⟩ := bind_eq_ok.mp ok
  obtain ⟨⟨metadata, rows, rowBytes, tier0Bytes⟩, hmetadata, ok⟩ := bind_eq_ok.mp ok
  obtain ⟨tier0Data, htier0, ok⟩ := bind_eq_ok.mp ok
  obtain ⟨_, hcheck, ok⟩ := bind_eq_ok.mp ok
  obtain ⟨tier1Data, htier1, ok⟩ := bind_eq_ok.mp ok
  obtain ⟨_, _, ok⟩ := bind_eq_ok.mp ok
  obtain ⟨_, _, ok⟩ := bind_eq_ok.mp ok
  obtain ⟨_, _, ok⟩ := bind_eq_ok.mp ok
  cases ok
  obtain ⟨r, hr, hread⟩ := checkTier0_ok hcheck
  rw [bindMetadata_ok hmetadata] at hr
  exact ⟨text, tier1Data, r, ofOption_ok htext, ofOption_ok htier0, ofOption_ok htier1,
    ⟨decoded, ofResult_eq_ok.mp hdecoded, hr⟩, hread⟩

/-- With the tier file there, a state is loaded or built. -/
lemma newOrLoad_returns {sc cache tier} {data : Bytes} :
    ∃ loaded, newOrLoad y blake3 target sc cache tier (some data) = .ok loaded := by
  rw [newOrLoad]
  cases tryLoadCache y blake3 target sc cache tier with
  | ok loaded => exact ⟨_, rfl⟩
  | error e => exact ⟨_, rfl⟩

/-- The encoded root reads back. -/
lemma metadataRoot_hexEncode {r : Fp} : metadataRoot (hexEncode r.toRepr) = .ok r := by
  rw [metadataRoot, hexDecode_hexEncode, ofOption_some, context_ok, ok_bind,
    ensure_pos (by rw [Fp.length_toRepr, beq_self_eq_true]), ok_bind, Fp.fromRepr_toRepr]
  rfl

/-- The metadata describes files of its layout, up to the degree, which the process sets. -/
structure Describes (root : PirMetadata) (net : ZcashNetwork) (polyLen : Nat) : Prop where
  network : root.zcashNetwork = net
  dataset : isCurrentDataset root.nullifierPool root.datasetVersion = true
  layout : ({ root.pirLayout with polyLen := polyLen } : PirLayout).Supported
  depth : root.pirDepth = root.pirLayout.pirDepth
  rows : root.tier1Rows = 2 ^ root.pirLayout.tier0Layers
  rowBytes : root.tier1RowBytes = 2 ^ root.pirLayout.tier1Layers * 96
  tier0Bytes : root.tier0Bytes =
    (2 ^ root.pirLayout.tier0Layers - 1) * 32 + 2 ^ root.pirLayout.tier0Layers * 64

/-- Files of the sizes that the metadata describes, with its root, are loaded. -/
lemma loadServingState_accepts {text tier1 nodes records root} (htext : dir .pirRoot = some text)
    (hdecode : decode text = .ok root) (describes : Describes root net polyLen)
    (htier0 : dir .tier0 = some (encodeTier0 nodes records))
    (fills : Tier0Data.Fills root.pirLayout nodes records) (hpos : 0 < nodes.length)
    (hroot : root.pirRoot = hexEncode nodes[0].toRepr) (htier1 : dir .tier1 = some tier1)
    (hlen : tier1.length =
      2 ^ root.pirLayout.tier0Layers * (2 ^ root.pirLayout.tier1Layers * 96)) :
    ∃ st, loadServingStateWithPolyLen y blake3 target decode dir net polyLen = .ok st ∧
      st.tier0Data = encodeTier0 nodes records := by
  have sup := describes.layout
  have hbind : bindMetadata net polyLen root = .ok ({ root with pirLayout := { root.pirLayout with
      polyLen := polyLen } }, 2 ^ root.pirLayout.tier0Layers, 2 ^ root.pirLayout.tier1Layers * 96,
      (2 ^ root.pirLayout.tier0Layers - 1) * 32 + 2 ^ root.pirLayout.tier0Layers * 64) := by
    rw [bindMetadata, ensure_pos (decide_eq_true describes.network), ok_bind,
      ensure_pos describes.dataset, ok_bind]
    dsimp only
    rw [sup.validateSupported_eq, context_ok, ok_bind, sup.tier1Rows_eq, ok_bind, sup.tier1RowBytes_eq,
      ok_bind, sup.tier0Bytes_eq, ok_bind, ensure_pos (by
        simp [describes.depth, describes.rows, describes.rowBytes, describes.tier0Bytes])]
    rfl
  have fills' : Tier0Data.Fills { root.pirLayout with polyLen := polyLen } nodes records :=
    ⟨fills.nodes, fills.records⟩
  have hsize : (encodeTier0 nodes records).length =
      (2 ^ root.pirLayout.tier0Layers - 1) * 32 + 2 ^ root.pirLayout.tier0Layers * 64 := by
    rw [Tier0Data.length_encodeTier0, fills.nodes, fills.records]
  have hcheck : checkTier0 { root with pirLayout := { root.pirLayout with polyLen := polyLen } }
      ((2 ^ root.pirLayout.tier0Layers - 1) * 32 + 2 ^ root.pirLayout.tier0Layers * 64)
      (encodeTier0 nodes records) = .ok () := by
    rw [checkTier0, ensure_pos (beq_iff_eq.mpr hsize), ok_bind,
      Tier0Data.fromLayout_encodeTier0 sup fills', context_ok, ok_bind, hroot, metadataRoot_hexEncode,
      ok_bind, Tier0Data.root_ofParts hpos, ok_bind]
    exact ensure_pos (beq_self_eq_true _)
  have hpoly : (polyLen == 2048 || polyLen == 4096) = true := by
    cases sup.poly with
    | inl h => simp [show polyLen = 2048 from h]
    | inr h => simp [show polyLen = 4096 from h]
  have hscenario : tier1ScenarioForLayoutWithPolyLen { root.pirLayout with polyLen := polyLen } polyLen =
      .ok ⟨2 ^ root.pirLayout.tier0Layers, 2 ^ root.pirLayout.tier1Layers * 96 * 8, polyLen⟩ := by
    rw [tier1ScenarioForLayoutWithPolyLen, sup.validateSupported_eq, ok_bind, ensure_pos hpoly, ok_bind,
      sup.tier1Rows_eq, ok_bind, sup.tier1ItemBits_eq]
    rfl
  obtain ⟨⟨loaded, hit⟩, hload⟩ := @newOrLoad_returns y blake3 target
    ⟨2 ^ root.pirLayout.tier0Layers, 2 ^ root.pirLayout.tier1Layers * 96 * 8, polyLen⟩
    (dir .tier1Precompute) (some tier1) tier1
  rw [loadServingStateWithPolyLen, htext, ofOption_some, ok_bind, hdecode, ofResult, ok_bind, hbind,
    ok_bind]
  dsimp only
  rw [htier0, ofOption_some, ok_bind, hcheck, ok_bind, htier1, ofOption_some, ok_bind,
    ensure_pos (beq_iff_eq.mpr hlen), ok_bind, hscenario, ok_bind, hload, ok_bind]
  exact ⟨_, rfl, rfl⟩

end Accepted

/-! ### Directories that bootstrap runs leave -/

section Unmixed

variable {cat : Catalog} {decode : Bytes → Except String PirMetadata} {s s' : BootDir}

/-- Each published Tier 0 has the root of its own metadata, and no two snapshots have the same root. -/
structure RootsIdentify (cat : Catalog) (decode : Bytes → Except String PirMetadata) : Prop where
  own : ∀ net h files, cat.snapshot net h = some files →
    ∃ r, HasRoot decode (files .pirRoot) r ∧ readFp (files .tier0) 0 = .ok r
  apart : ∀ net h files net' h' files' r, cat.snapshot net h = some files →
    cat.snapshot net' h' = some files' → HasRoot decode (files .pirRoot) r →
    HasRoot decode (files' .pirRoot) r → net = net' ∧ h = h'

/-- No snapshot file is in place, or those of one published snapshot. -/
def FreshOrComplete (cat : Catalog) (s : BootDir) : Prop :=
  (∀ n ∈ SNAPSHOT_FILES, s (.live n) = none) ∨
    ∃ net h files, cat.snapshot net h = some files ∧ InPlace files s

/-- The files in place are published ones, and metadata and Tier 0 of one snapshot are only in place
with its Tier 1. -/
structure Unmixed (cat : Catalog) (s : BootDir) : Prop where
  published : ∀ n ∈ SNAPSHOT_FILES, ∀ content, s (.live n) = some content →
    ∃ net h files, cat.snapshot net h = some files ∧ content = files n
  tier1 : ∀ net h files, cat.snapshot net h = some files →
    s (.live .pirRoot) = some (files .pirRoot) → s (.live .tier0) = some (files .tier0) →
    s (.live .tier1) = some (files .tier1)

/-- A text names one root. -/
lemma HasRoot.unique {text r r'} (h : HasRoot decode text r) (h' : HasRoot decode text r') : r = r' := by
  obtain ⟨root, hroot, hr⟩ := h
  obtain ⟨root', hroot', hr'⟩ := h'
  rw [hroot] at hroot'
  cases hroot'
  rw [hr] at hr'
  cases hr'
  rfl

/-- A root names one snapshot. -/
lemma RootsIdentify.files_eq {net h files net' h' files' r} (roots : RootsIdentify cat decode)
    (hfiles : cat.snapshot net h = some files) (hfiles' : cat.snapshot net' h' = some files')
    (hr : HasRoot decode (files .pirRoot) r) (hr' : HasRoot decode (files' .pirRoot) r) :
    files = files' := by
  obtain ⟨rfl, rfl⟩ := roots.apart _ _ _ _ _ _ r hfiles hfiles' hr hr'
  rw [hfiles] at hfiles'
  cases hfiles'
  rfl

/-- The metadata names one snapshot. -/
lemma RootsIdentify.of_root {net h files net' h' files'} (roots : RootsIdentify cat decode)
    (hfiles : cat.snapshot net h = some files) (hfiles' : cat.snapshot net' h' = some files')
    (heq : files .pirRoot = files' .pirRoot) : files = files' := by
  obtain ⟨r, hr, _⟩ := roots.own _ _ _ hfiles
  exact roots.files_eq hfiles hfiles' hr (heq ▸ hr)

/-- Tier 0 names one snapshot. -/
lemma RootsIdentify.of_tier0 {net h files net' h' files'} (roots : RootsIdentify cat decode)
    (hfiles : cat.snapshot net h = some files) (hfiles' : cat.snapshot net' h' = some files')
    (heq : files .tier0 = files' .tier0) : files = files' := by
  obtain ⟨r, hr, hread⟩ := roots.own _ _ _ hfiles
  obtain ⟨r', hr', hread'⟩ := roots.own _ _ _ hfiles'
  rw [heq, hread'] at hread
  cases hread
  exact roots.files_eq hfiles hfiles' hr hr'

/-- Unmixed directories stay so while their snapshot files do. -/
lemma Unmixed.of_same (h : Unmixed cat s) (hsame : ∀ n ∈ SNAPSHOT_FILES, s' (.live n) = s (.live n)) :
    Unmixed cat s' := by
  constructor
  · intro n hn
    rw [hsame n hn]
    exact h.published n hn
  · rw [hsame _ (by decide), hsame _ (by decide), hsame _ (by decide)]
    exact h.tier1

/-- A complete directory is unmixed. -/
lemma Unmixed.of_inPlace {net h files} (roots : RootsIdentify cat decode)
    (hfiles : cat.snapshot net h = some files) (inPlace : InPlace files s) : Unmixed cat s := by
  constructor
  · intro n hn content hcontent
    rw [inPlace n hn] at hcontent
    cases hcontent
    exact ⟨net, h, files, hfiles, rfl⟩
  · intro net' h' files' hfiles' hroot _
    rw [inPlace _ (by decide)] at hroot
    obtain rfl := roots.of_root hfiles hfiles' (Option.some.inj hroot)
    exact inPlace _ (by decide)

/-- Runs start from unmixed directories. -/
lemma FreshOrComplete.unmixed (roots : RootsIdentify cat decode) (h : FreshOrComplete cat s) :
    Unmixed cat s := by
  cases h with
  | inl fresh =>
    constructor
    · intro n hn content hcontent
      rw [fresh n hn] at hcontent
      cases hcontent
    · intro net h files _ hroot
      rw [fresh _ (by decide)] at hroot
      cases hroot
  | inr complete =>
    obtain ⟨net, h, files, hfiles, inPlace⟩ := complete
    exact .of_inPlace roots hfiles inPlace

/-- A run keeps the directory unmixed, wherever it is cut. -/
lemma run_unmixed {env : RunEnv} {cfg : RunConfig} {counters : Counters} {done : List BootOp}
    (roots : RootsIdentify cat decode) (unmixed : Unmixed cat s)
    (serves : Serves cat env.toOutside cfg.toConfig)
    (cut : CutAfter s (NfServer.run env cfg counters s).1 done s') : Unmixed cat s' := by
  cases run_progress serves cut with
  | inl nothing =>
    exact unmixed.of_same fun n hn => (nothing fun _ => none).old n hn List.not_mem_nil
  | inr moves =>
    obtain ⟨h, files, moved, ⟨hfiles, root, hroot, valid⟩, hlocal, progress⟩ := moves
    have hpublished : ∀ n ∈ SNAPSHOT_FILES, ∀ content, s' (.live n) = some content →
        ∃ net h files, cat.snapshot net h = some files ∧ content = files n := by
      intro n hn content hcontent
      by_cases hmoved : n ∈ moved
      · rw [progress.new n hmoved] at hcontent
        cases hcontent
        exact ⟨_, h, files, hfiles, rfl⟩
      · rw [progress.old n hn hmoved] at hcontent
        exact unmixed.published n hn content hcontent
    -- with the old metadata in place, the new Tier 0 is not that of the metadata
    have hpartial : .tier0 ∈ moved → .pirRoot ∉ moved → Unmixed cat s' := by
      intro htier0 hout
      refine ⟨hpublished, fun net' h' files' hfiles' hroot' htier0' => ?_⟩
      rw [progress.new _ htier0] at htier0'
      obtain rfl := roots.of_tier0 hfiles hfiles' (Option.some.inj htier0')
      rw [progress.old _ (by decide) hout] at hroot'
      exact absurd ⟨_, root, hroot', hroot, valid⟩ hlocal
    obtain rfl | rfl | rfl | rfl := progress.cases_moved
    · exact unmixed.of_same fun n hn => progress.old n hn List.not_mem_nil
    · exact hpartial (by decide) (by decide)
    · exact hpartial (by decide) (by decide)
    · exact .of_inPlace roots hfiles progress.new

/-- And they reach only unmixed ones. -/
lemma bootRuns_unmixed {bootDecode : Bytes → Except String PirMetadata}
    (roots : RootsIdentify cat decode)
    (reach : BootRuns cat bootDecode (fun _ _ => True) (FreshOrComplete cat) s) : Unmixed cat s := by
  induction reach with
  | start hstart => exact hstart.unmixed roots
  | run _ _ serves _ cut ih => exact run_unmixed roots ih serves cut

/-- Whatever bootstrap runs happened, each complete or cut anywhere, a directory that is loaded holds
the files of one published snapshot. -/
theorem load_never_mixed {bootDecode : Bytes → Except String PirMetadata} {y : Ypir}
    {blake3 : Bytes → Digest} {target : Bytes} {net : ZcashNetwork} {polyLen : Nat}
    {st : ServingState y} (roots : RootsIdentify cat decode)
    (reach : BootRuns cat bootDecode (fun _ _ => True) (FreshOrComplete cat) s)
    (ok : loadServingStateWithPolyLen y blake3 target decode (fun n => s (.live n)) net polyLen =
      .ok st) :
    ∃ net h files, cat.snapshot net h = some files ∧ InPlace files s ∧
      st.tier0Data = files .tier0 := by
  have unmixed := bootRuns_unmixed roots reach
  obtain ⟨text, tier1, r, htext, htier0, htier1, hr, hread⟩ := loadServingState_ok ok
  obtain ⟨net, h, files, hfiles, rfl⟩ := unmixed.published .pirRoot (by decide) _ htext
  obtain ⟨net', h', files', hfiles', htier0'⟩ := unmixed.published .tier0 (by decide) _ htier0
  -- Tier 0 and the metadata have one root, so they are of one snapshot
  obtain ⟨r', hr', hread'⟩ := roots.own _ _ _ hfiles'
  rw [htier0', hread'] at hread
  cases hread
  obtain rfl := roots.files_eq hfiles hfiles' hr hr'
  rw [htier0'] at htier0
  refine ⟨net, h, files, hfiles, fun n hn => ?_, htier0'⟩
  simp only [SNAPSHOT_FILES, List.mem_cons, List.not_mem_nil, or_false] at hn
  obtain rfl | rfl | rfl := hn
  · exact htier0
  · exact unmixed.tier1 net h files hfiles htext htier0
  · exact htext

/-- `pir_root.json` of a tree of depth 17. -/
def bareRootText (pirRoot height : String) : Bytes := ascii
  ("\x7b\"zcash_network\":\"test\",\"nullifier_pool\":\"ironwood\",\"dataset_version\":2," ++
    "\"pir_root\":\"" ++ pirRoot ++ "\",\"circuit_root\":\"" ++
    "0000000000000000000000000000000000000000000000000000000000000000" ++
    "\",\"num_ranges\":1,\"pir_depth\":17,\"pir_layout\":\x7b\"pir_depth\":17,\"tier0_layers\":11," ++
    "\"tier1_layers\":6,\"poly_len\":2048\x7d,\"tier0_bytes\":196576,\"tier1_rows\":2048," ++
    "\"tier1_row_bytes\":6144,\"height\":" ++ height ++ "\x7d")

/-- The files of a snapshot whose other nodes are zero. -/
def bareFiles (root : Fp) (row : UInt8) (text : Bytes) : DataFile → Bytes
  | .tier0 => encodeTier0 (root :: List.replicate 2046 0) (List.replicate 2048 (0, 5))
  | .tier1 => List.replicate (2048 * 6144) row
  | .pirRoot => text
  | _ => []

def bareRoot (root : Fp) (height : Nat) : PirMetadata where
  zcashNetwork := .test
  nullifierPool := NULLIFIER_POOL
  datasetVersion := DATASET_VERSION
  pirRoot := hexEncode root.toRepr
  circuitRoot := hexEncode (Fp.toRepr 0)
  numRanges := 1
  pirDepth := 17
  pirLayout := ⟨17, 11, 6, 2048⟩
  tier0Bytes := 196576
  tier1Rows := 2048
  tier1RowBytes := 6144
  height := some height

@[irreducible] def olderText : Bytes :=
  bareRootText "0000000000000000000000000000000000000000000000000000000000000000" "4134000"

@[irreducible] def newerText : Bytes :=
  bareRootText "0100000000000000000000000000000000000000000000000000000000000000" "4134010"

def bareDigests (tier0 tier1 pirRoot : Bytes) : DataFile → Bytes
  | .tier0 => tier0
  | .tier1 => tier1
  | .pirRoot => pirRoot
  | _ => []

/-- The sizes of the files. -/
def bareLength : DataFile → Nat
  | .tier0 => 196576
  | .tier1 => 12582912
  | .pirRoot => 422
  | _ => 0

/-- The files are of these sizes. -/
lemma length_bareFiles {root row text n} (htext : text.length = 422) :
    (bareFiles root row text n).length = bareLength n := by
  cases n with
  | tier0 =>
    rw [show bareFiles root row text .tier0 = encodeTier0 _ _ from rfl, Tier0Data.length_encodeTier0,
      List.length_cons, List.length_replicate, List.length_replicate]
    rfl
  | tier1 => exact List.length_replicate
  | pirRoot => exact htext
  | _ => rfl

/-- None of them is large. -/
lemma bareLength_le {n} : bareLength n ≤ 2 ^ 30 := by
  cases n <;> decide

/-- Both texts have the length of `pir_root.json`. -/
lemma length_bareText : olderText.length = 422 ∧ newerText.length = 422 := by
  delta olderText newerText bareRootText
  simp only [ascii_append]
  iterate 11 rewrite [ascii_ofList]
  decide +kernel

/-- And they differ. -/
lemma newerText_ne : newerText ≠ olderText := by
  delta olderText newerText bareRootText
  simp only [ascii_append, List.append_assoc]
  intro h
  have hroots := List.append_inj_left (List.append_cancel_left (List.append_cancel_left h))
  rw [ascii_ofList, ascii_ofList] at hroots
  exact absurd (hroots (by decide)) (by decide)

def bareOlder : Publication where
  height := 4134000
  files := bareFiles 0 0 olderText
  small := fun n => by
    rw [length_bareFiles length_bareText.1]
    exact bareLength_le.trans_lt (by decide)
  root := bareRoot 0 4134000
  digest := bareDigests
    [106, 252, 182, 41, 67, 107, 238, 180, 204, 44, 188, 5, 110, 85, 109, 16, 219, 162, 221, 115, 252, 30,
      230, 87, 198, 35, 221, 59, 38, 216, 103, 95]
    [207, 173, 212, 74, 16, 60, 189, 109, 87, 38, 250, 7, 178, 125, 122, 173, 47, 103, 237, 57, 48, 255,
      150, 144, 28, 72, 106, 91, 234, 247, 231, 35]
    [160, 49, 174, 203, 229, 226, 5, 206, 9, 92, 57, 126, 85, 224, 118, 198, 80, 194, 203, 233, 22, 222,
      172, 48, 115, 251, 155, 119, 32, 134, 233, 197]
  manifestText := manifestText "4134000"
    "\"size\":422,\"sha256\":\"a031aecbe5e205ce095c397e55e076c650c2cbe916deac3073fb9b772086e9c5\""
    "\"size\":196576,\"sha256\":\"6afcb629436beeb4cc2cbc056e556d10dba2dd73fc1ee657c623dd3b26d8675f\""
    "\"size\":12582912,\"sha256\":\"cfadd44a103cbd6d5726fa07b27d7aad2f67ed3930ff96901c486a5beaf7e723\""
  short := by
    rewrite [manifestText]
    simp only [ascii_append]
    iterate 10 rewrite [ascii_ofList]
    decide +kernel

def bareNewer : Publication where
  height := 4134010
  files := bareFiles 1 1 newerText
  small := fun n => by
    rw [length_bareFiles length_bareText.2]
    exact bareLength_le.trans_lt (by decide)
  root := bareRoot 1 4134010
  digest := bareDigests
    [132, 204, 51, 249, 179, 197, 174, 125, 65, 13, 1, 209, 80, 71, 234, 24, 252, 69, 58, 248, 222, 170,
      117, 192, 44, 250, 143, 174, 65, 239, 220, 207]
    [166, 27, 236, 16, 104, 222, 128, 172, 73, 186, 118, 58, 77, 122, 29, 79, 139, 248, 244, 126, 252, 31,
      234, 135, 112, 230, 179, 227, 51, 19, 168, 76]
    [38, 147, 151, 75, 98, 204, 106, 233, 251, 118, 207, 235, 251, 214, 215, 119, 182, 215, 134, 0, 207,
      240, 180, 252, 176, 86, 176, 166, 132, 8, 31, 106]
  manifestText := manifestText "4134010"
    "\"size\":422,\"sha256\":\"2693974b62cc6ae9fb76cfebfbd6d777b6d78600cff0b4fcb056b0a684081f6a\""
    "\"size\":196576,\"sha256\":\"84cc33f9b3c5ae7d410d01d15047ea18fc453af8deaa75c02cfa8fae41efdccf\""
    "\"size\":12582912,\"sha256\":\"a61bec1068de80ac49ba763a4d7a1d4f8bf8f47efc1fea8770e6b3e33313a84c\""
  short := by
    rewrite [manifestText]
    simp only [ascii_append]
    iterate 10 rewrite [ascii_ofList]
    decide +kernel

/-- Two published snapshots with different roots. -/
def bareSnapshots : List Publication := [bareOlder, bareNewer]

/-- The older snapshot is one of them. -/
lemma bareOlder_mem : bareOlder ∈ bareSnapshots := List.mem_cons_self

/-- The newer snapshot is the other. -/
lemma bareNewer_mem : bareNewer ∈ bareSnapshots := List.mem_cons_of_mem _ List.mem_cons_self

/-- Their files are of the sizes of their kind. -/
lemma length_of_mem {p : Publication} {n} (hp : p ∈ bareSnapshots) :
    (p.files n).length = bareLength n := by
  obtain rfl | rfl := List.mem_pair.mp hp
  · exact length_bareFiles length_bareText.1
  · exact length_bareFiles length_bareText.2

/-- Tier 0 starts with the root. -/
lemma readFp_encodeTier0 {root nodes records} :
    readFp (encodeTier0 (root :: nodes) records) 0 = .ok root := by
  have hread := @readFp_encodeWords (tier0Words (root :: nodes) records) 0 (Nat.succ_pos _)
  rw [Nat.zero_mul] at hread
  exact hread

/-- The root of the older snapshot. -/
lemma readFp_bareOlder : readFp (bareOlder.files .tier0) 0 = .ok 0 :=
  @readFp_encodeTier0 0 (List.replicate 2046 0) (List.replicate 2048 (0, 5))

/-- The root of the newer one. -/
lemma readFp_bareNewer : readFp (bareNewer.files .tier0) 0 = .ok 1 :=
  @readFp_encodeTier0 1 (List.replicate 2046 0) (List.replicate 2048 (0, 5))

/-- The two snapshots can be published together. -/
lemma publishable_bare : Publishable bareSnapshots where
  files := by
    have hlen : ∀ p ∈ bareSnapshots, ∀ p' ∈ bareSnapshots, ∀ n n', bareLength n ≠ bareLength n' →
        p.files n ≠ p'.files n' := by
      intro p hp p' hp' n n' hne heq
      exact hne ((length_of_mem hp).symm.trans ((congrArg List.length heq).trans (length_of_mem hp')))
    have htier0 : bareOlder.files .tier0 ≠ bareNewer.files .tier0 := by
      intro h
      have hroots := congrArg (readFp · 0) h
      rw [readFp_bareOlder, readFp_bareNewer] at hroots
      exact absurd (Except.ok.inj hroots) (by decide)
    have htier1 : bareOlder.files .tier1 ≠ bareNewer.files .tier1 := by
      intro h
      have hrow := (List.replicate_inj.mp h).2
      exact absurd hrow (by decide)
    have hroot : bareOlder.files .pirRoot ≠ bareNewer.files .pirRoot := newerText_ne.symm
    have ho := bareOlder_mem
    have hn := bareNewer_mem
    simp only [bareSnapshots, digestTable, SNAPSHOT_FILES, List.flatMap_cons, List.flatMap_nil,
      List.map_cons, List.map_nil, List.cons_append, List.nil_append, List.nodup_cons, List.mem_cons,
      List.not_mem_nil, or_false, not_or, not_false_eq_true, List.nodup_nil, and_true]
    exact ⟨⟨hlen _ ho _ ho _ _ (by decide), hlen _ ho _ ho _ _ (by decide), htier0,
        hlen _ ho _ hn _ _ (by decide), hlen _ ho _ hn _ _ (by decide)⟩,
      ⟨hlen _ ho _ ho _ _ (by decide), hlen _ ho _ hn _ _ (by decide), htier1,
        hlen _ ho _ hn _ _ (by decide)⟩,
      ⟨hlen _ ho _ hn _ _ (by decide), hlen _ ho _ hn _ _ (by decide), hroot⟩,
      ⟨hlen _ hn _ hn _ _ (by decide), hlen _ hn _ hn _ _ (by decide)⟩, hlen _ hn _ hn _ _ (by decide)⟩
  digests := by decide +kernel
  heights := by decide
  digest := by decide
  root := by
    have sup : (⟨17, 11, 6, 2048⟩ : PirLayout).Supported := by
      constructor <;> decide
    intro p hp
    obtain rfl | rfl := List.mem_pair.mp hp
    all_goals exact ⟨rfl, isCurrentDataset_current, sup, rfl, sup.tier1Rows_eq, sup.tier1RowBytes_eq,
      sup.tier0Bytes_eq, rfl⟩
  fits := by
    intro p hp n _
    rw [length_of_mem hp]
    exact bareLength_le
  height := by
    intro p hp
    obtain rfl | rfl := List.mem_pair.mp hp
    · exact validateExportHeight_eq_ok.mpr (by decide)
    · exact validateExportHeight_eq_ok.mpr (by decide)

/-- The root that the metadata of each of them names. -/
lemma hasRoot_bare {p : Publication} {root height} (hp : p ∈ bareSnapshots)
    (hroot : p.root = bareRoot root height) :
    HasRoot (decodeRootText bareSnapshots) (p.files .pirRoot) root := by
  refine ⟨p.root, publishable_bare.decodeRootText_eq hp, ?_⟩
  rw [hroot]
  exact metadataRoot_hexEncode

/-- Their roots identify them. -/
lemma bareSnapshots_roots :
    RootsIdentify (catalogOf bareSnapshots) (decodeRootText bareSnapshots) := by
  have holder := @hasRoot_bare bareOlder 0 4134000 bareOlder_mem rfl
  have hnewer := @hasRoot_bare bareNewer 1 4134010 bareNewer_mem rfl
  constructor
  · intro net h files hfiles
    obtain ⟨p, hp, _, _, rfl⟩ := exists_of_catalogOf hfiles
    obtain rfl | rfl := List.mem_pair.mp hp
    · exact ⟨0, holder, readFp_bareOlder⟩
    · exact ⟨1, hnewer, readFp_bareNewer⟩
  · intro net h files net' h' files' r hfiles hfiles' hr hr'
    obtain ⟨p, hp, rfl, rfl, rfl⟩ := exists_of_catalogOf hfiles
    obtain ⟨p', hp', rfl, rfl, rfl⟩ := exists_of_catalogOf hfiles'
    obtain rfl | rfl := List.mem_pair.mp hp
    all_goals obtain rfl | rfl := List.mem_pair.mp hp'
    · exact ⟨rfl, rfl⟩
    · exact absurd ((hr.unique holder).symm.trans (hr'.unique hnewer)) (by decide)
    · exact absurd ((hr'.unique holder).symm.trans (hr.unique hnewer)) (by decide)
    · exact ⟨rfl, rfl⟩

/-- The newer snapshot loads where it is in place. -/
lemma load_bareNewer {s : BootDir} (inPlace : InPlace bareNewer.files s) :
    ∃ st, loadServingStateWithPolyLen sampleYpir sampleDigest [120] (decodeRootText bareSnapshots)
        (fun n => s (.live n)) .test 4096 = .ok st ∧ st.tier0Data = bareNewer.files .tier0 := by
  have describes : Describes (bareRoot 1 4134010) .test 4096 := by
    refine ⟨rfl, isCurrentDataset_current, ?_, rfl, rfl, rfl, rfl⟩
    constructor <;> decide
  have hnodes : (1 :: List.replicate 2046 0 : List Fp).length = 2047 := by
    rw [List.length_cons, List.length_replicate]
  exact @loadServingState_accepts sampleYpir sampleDigest [120] (decodeRootText bareSnapshots)
    (fun n => s (.live n)) .test 4096 _ _ (1 :: List.replicate 2046 0) (List.replicate 2048 (0, 5))
    (bareRoot 1 4134010) (inPlace .pirRoot (by decide))
    (publishable_bare.decodeRootText_eq bareNewer_mem) describes (inPlace .tier0 (by decide))
    ⟨hnodes, List.length_replicate⟩ (by rw [hnodes]; decide)
    (by rw [List.getElem_cons_zero]; rfl) (inPlace .tier1 (by decide)) (length_of_mem bareNewer_mem)

/-- A run from the older to the newer snapshot is cut behind the rename of Tier 0, and the directory is
refused; the next run completes, and the newer snapshot is served. -/
theorem load_never_mixed_bare :
    ∃ done s, CutAfter (installedDir bareSnapshots bareOlder)
        (NfServer.run (bareNewer.env bareSnapshots) bareNewer.cfg {}
          (installedDir bareSnapshots bareOlder)).1 done s ∧
      s (.live .tier0) = some (bareNewer.files .tier0) ∧
      (∀ st, loadServingStateWithPolyLen sampleYpir sampleDigest [120] (decodeRootText bareSnapshots)
        (fun n => s (.live n)) .test 4096 ≠ .ok st) ∧
      ∃ st, loadServingStateWithPolyLen sampleYpir sampleDigest [120] (decodeRootText bareSnapshots)
          (fun n => (NfServer.run (bareNewer.env bareSnapshots) bareNewer.cfg {}).after s (.live n))
          .test 4096 = .ok st ∧
        st.tier0Data = bareNewer.files .tier0 ∧
        ∃ net h files, (catalogOf bareSnapshots).snapshot net h = some files ∧
          InPlace files ((NfServer.run (bareNewer.env bareSnapshots) bareNewer.cfg {}).after s) ∧
          st.tier0Data = files .tier0 := by
  have hmetadata := installedDir_inPlace publishable_bare bareOlder_mem .pirRoot (by decide)
  have hreach : BootRuns (catalogOf bareSnapshots) (decodeRootText bareSnapshots) (fun _ _ => True)
      (FreshOrComplete (catalogOf bareSnapshots)) (installedDir bareSnapshots bareOlder) :=
    installedDir_reach publishable_bare bareOlder_mem (.inl fun _ _ => rfl) fun _ => trivial
  obtain ⟨done, s, cut, htier0, hroot⟩ := @exists_cut _ _ _ {} _ publishable_bare bareNewer_mem
    (readLocalHeight_of_files publishable_bare bareOlder_mem hmetadata) (by decide)
  have hcut := publishable_bare.run bareNewer_mem hreach trivial cut
  refine ⟨done, s, cut, htier0, fun st ok => ?_, ?_⟩
  · obtain ⟨_, _, _, hfiles, inPlace, _⟩ := load_never_mixed bareSnapshots_roots hcut ok
    obtain ⟨p, hp, _, _, rfl⟩ := exists_of_catalogOf hfiles
    -- the metadata is that of the older snapshot, Tier 0 that of the newer one
    have heq : p.files .tier0 = bareNewer.files .tier0 :=
      Option.some.inj ((inPlace _ (by decide)).symm.trans htier0)
    have heq' : p.files .pirRoot = bareOlder.files .pirRoot :=
      Option.some.inj ((inPlace _ (by decide)).symm.trans (hroot.trans hmetadata))
    have hnewer : p = bareNewer :=
      List.inj_on_of_nodup_map (publishable_bare.nodup_files (by decide)) hp bareNewer_mem heq
    have hsame : p = bareOlder :=
      List.inj_on_of_nodup_map (publishable_bare.nodup_files (by decide)) hp bareOlder_mem heq'
    exact absurd (congrArg Publication.height (hnewer.symm.trans hsame)) (by decide)
  · have hread := @readLocalHeight_of_files _ _ s bareNewer publishable_bare bareOlder_mem
      (hroot.trans hmetadata)
    have hinstalled := @run_installs _ _ s {} _ publishable_bare bareNewer_mem hread (by decide)
    obtain ⟨st, ok, hdata⟩ := load_bareNewer hinstalled
    exact ⟨st, ok, hdata, load_never_mixed bareSnapshots_roots
      (publishable_bare.run bareNewer_mem hcut trivial .all) ok⟩

end Unmixed

end NullifierPir.Server
