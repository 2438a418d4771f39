import NullifierPir.Export.Checkpoint
import NullifierPir.Export.Complete
import NullifierPir.Ingest.Sync
import NullifierPir.NfServer.Bootstrap
import NullifierPir.NfServer.VerifyRoot

/-!
# The sync command

Port of `nf-server/src/cmd_sync.rs` and `nf-server/src/sync_pipeline.rs`: the reset, the export height,
the nullifier sync, the choice of the nullifiers of that height, the tree checkpoint and the tiers.
`Args` holds the options together with what the run hears from outside. The call of the tree builder is
recorded as an event, with the nullifiers it is given and the height that labels them.
-/

namespace NullifierPir.NfServer.CmdSync
open Rust ByteString Crash Imt NullifierPir.Types NullifierPir.Ingest NullifierPir.Export

/-- Files of the nullifier root that a reset removes, in this order. -/
def ROOT_ARTIFACTS : List DataFile :=
  [.nullifiersBin, .nullifiersCheckpoint, .nullifiersCheckpointTmp, .nullifiersIndex, .datasetMarker,
    .datasetMarkerTmp, .nullifiersTree, .nullifiersTreeTmp]

/-- Files of the tier directory that it removes after them. -/
def TIER_ARTIFACTS : List DataFile :=
  [.tier0, .tier1, .tier2, .pirRoot, .tier1Precompute, .tier1PrecomputeTmp, .tier2Precompute,
    .tier2PrecomputeTmp]

def INVALIDATE_AFTER_BLOCKS_TREE_FILES : List DataFile := [.nullifiersTree, .nullifiersTreeTmp]

def INVALIDATE_AFTER_BLOCKS_TIER_FILES : List DataFile := [.tier0, .tier1, .pirRoot]

/-- Remove the files one by one (Rust `delete_sync_artifacts`). -/
def deleteSyncArtifacts : Fs Unit := do
  Prog.forEach ROOT_ARTIFACTS Fs.removeIfExists
  Prog.forEach TIER_ARTIFACTS Fs.removeIfExists

/-- What answers the prompt: the acknowledgement variable, or the line typed on a terminal. -/
structure Console where
  ack : String
  isTerminal : Bool
  line : String

/-- Rust `prompt_resync_ahead_of_voting`. -/
def promptResyncAheadOfVoting (console : Console) (nonInteractive : Bool) : Rust Unit :=
  if nonInteractive then
    ensure (eqIgnoreAsciiCase console.ack "RESYNC")
      ("non-interactive mode: set SVOTE_PIR_SYNC_ACK_HEIGHT_MISMATCH=RESYNC to confirm wipe, " ++
        "or run on a TTY")
  else do
    ensure console.isTerminal
      ("stdin is not a terminal; use --non-interactive with " ++
        "SVOTE_PIR_SYNC_ACK_HEIGHT_MISMATCH=RESYNC")
    ensure (eqIgnoreAsciiCase console.line "RESYNC") "aborted (expected RESYNC)"

/-- The options of a run (Rust `Args`), and below them what it reads from the environment and hears
from outside. -/
structure Args where
  zcashNetwork : ZcashNetwork
  maxHeight : Option Nat
  nonInteractive : Bool
  invalidateAfterBlocks : Bool
  syncReset : Bool
  console : Console
  snapshotHeight : Rust (Option Nat)
  chainTip : Rust Nat
  lwds : List Lightwalletd

/-- The chain tip under the `--max-height` cap. -/
def cappedTip (args : Args) (chainTip : Nat) : Rust Nat :=
  match args.maxHeight with
  | none => .ok chainTip
  | some m => do
    validateExportHeight m args.zcashNetwork
    return min chainTip m

/-- The height cap of the voting round, and the export height below every cap. -/
def exportTarget (args : Args) : Rust (Option Nat × Nat) := do
  let snapshotHeight ← args.snapshotHeight
  ensure (!args.lwds.isEmpty) "no lightwalletd URLs resolved"
  let chainTip ← context "fetch chain tip" args.chainTip
  let target ← cappedTip args chainTip
  let target := snapshotHeight.elim target (min target)
  let height := target / 10 * 10
  context s!"aligned export height {height} (from cap {target}, chain_tip={chainTip})"
    (validateExportHeight height args.zcashNetwork)
  return (snapshotHeight, height)

/-- The third-party serializers and the tree hasher of a run. -/
structure Codecs where
  hasher : Hasher
  marker : Json DatasetMarker
  metadata : Json PirMetadata
  bincode : Bincode

/-- `Result::context` around a program. -/
def withContext {α : Type} (ctx : String) (x : Fs α) : Fs α := do
  Prog.lift (context ctx (← Prog.attempt x))

variable (codecs : Codecs)

/-- Drop a tree checkpoint of another height. -/
def removeStaleTree (height : Nat) : Fs Unit := do
  match ← Prog.attempt readTreeCheckpointHeader with
  | .ok (some (_, hh)) => if hh ≠ height then Prog.perform (.remove .nullifiersTree)
  | _ => return

/-- Rust `materialize_tree_checkpoint_with_progress`. -/
def materializeTreeCheckpoint (nfs : List Fp) (height : Nat) : Fs PirTree := do
  Prog.perform (.call (.buildTree nfs height))
  let tree ← Prog.lift (buildPirTreeFromNullifiers codecs.hasher nfs)
  saveTreeCheckpoint codecs.bincode tree height
  return tree

/-- The tree of a height, from its checkpoint if there is one. -/
def loadOrBuildTree (nfs : List Fp) (height : Nat) : Fs PirTree := do
  match ← loadTreeCheckpoint codecs.bincode height with
  | some tree => return tree
  | none => materializeTreeCheckpoint codecs nfs height

/-- Rust `export_tree_and_tiers_from_nullifiers`. -/
def exportTreeAndTiersFromNullifiers (nfs : List Fp) (network : ZcashNetwork) (chainHeight : Nat) :
    Fs Unit := do
  removeStaleTree chainHeight
  let tree ← loadOrBuildTree codecs nfs chainHeight
  exportAll codecs.metadata tree network (some chainHeight)

/-- The nullifiers that are exported at a height, from a data directory at checkpoint height `ch`. -/
def exportNullifiers (ch height : Nat) : Fs (List Fp) :=
  if height < ch then do
    match ← offsetForHeight height with
    | some (_, byteOff) =>
      withContext s!"load nullifiers up to byte offset {byteOff}" (loadNullifiersUpTo byteOff)
    | none => Prog.lift (bail (s!"nullifiers.index has no entry for export height {height} " ++
        s!"(checkpoint is {ch}); run a full sync so the index covers this height"))
  else loadAllNullifiers

/-- The blocking task of the export. -/
def exportStage (network : ZcashNetwork) (ch height : Nat) : Fs Unit := do
  if ← tiersCompleteForHeight codecs.metadata network height then return
  let nfs ← exportNullifiers ch height
  exportTreeAndTiersFromNullifiers codecs nfs network height

/-- Await the export task. -/
def joinExport (x : Fs Unit) : Fs Unit := do
  Prog.lift (joinBlocking "join export task" (← Prog.attempt x))

/-- After new blocks, drop the tree and the tiers built from the older ones. -/
def invalidate (args : Args) (blocksSynced : Nat) : Fs Unit := do
  if args.invalidateAfterBlocks && decide (0 < blocksSynced) then
    Prog.forEach INVALIDATE_AFTER_BLOCKS_TREE_FILES Fs.removeIfExists
    Prog.forEach INVALIDATE_AFTER_BLOCKS_TIER_FILES Fs.removeIfExists

/-- Stage 1: sync nullifiers up to the export height. -/
def syncStage (args : Args) (height : Nat) (localCp : Option Nat) : Fs Unit :=
  if localCp.elim true fun h => decide (h < height) then do
    let r ← sync codecs.marker args.lwds args.zcashNetwork (some height)
    invalidate args r.blocksSynced
  else return

/-- Stages 2 and 3: the tree and the tiers at the export height. -/
def buildStage (args : Args) (height : Nat) : Fs Unit := do
  match ← loadCheckpoint with
  | none => Prog.lift (bail ("missing nullifiers.checkpoint under the data directory — " ++
      "cannot build tree or tiers"))
  | some (ch, _) =>
    Prog.lift (ensure (decide (height ≤ ch))
      (s!"checkpoint height {ch} is still below export target {height}; " ++
        "check SYNC_HEIGHT / voting snapshot"))
    removeStaleTree height
    joinExport (exportStage codecs args.zcashNetwork ch height)

/-- Whether the checkpoint is above the snapshot of the voting round. -/
def aheadOfVoting (snapshotHeight localCp : Option Nat) : Bool :=
  match snapshotHeight, localCp with
  | some snap, some loc => decide (snap < loc)
  | _, _ => false

/-- The retry loop: a reset starts it over. -/
def runLoop (args : Args) (snapshotHeight : Option Nat) (height : Nat) : Nat → Fs Unit
  | 0 => Prog.lift (.error .diverge)
  | fuel + 1 => do
    rebuildIndex
    let localCp := (← loadCheckpoint).map Prod.fst
    if aheadOfVoting snapshotHeight localCp then
      Prog.lift (promptResyncAheadOfVoting args.console args.nonInteractive)
      deleteSyncArtifacts
      runLoop args snapshotHeight height fuel
    else
      syncStage codecs args height localCp
      buildStage codecs args height

/-- The reset that the environment asks for. -/
def resetFirst (args : Args) : Fs Unit := do
  if args.syncReset then deleteSyncArtifacts

/-- `nf-server sync` (Rust `run`). The loop resets at most once. -/
def run (args : Args) : Fs Unit := do
  resetFirst args
  ensureIronwoodDataset codecs.marker args.zcashNetwork
  let (snapshotHeight, height) ← Prog.lift (exportTarget args)
  runLoop codecs args snapshotHeight height 2

end NullifierPir.NfServer.CmdSync
