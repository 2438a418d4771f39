import NullifierPir.Ingest.FileStore

/-!
# Block sync

Port of `nf-ingest/src/sync_nullifiers.rs` and of the activation heights of `nf-ingest/src/config.rs`.
`Lightwalletd` is what one server answers during a call; nothing is assumed of the answers here. The
requests of a cycle are all issued before the first one is awaited.
-/

namespace NullifierPir.Ingest
open Rust ByteString Crash NullifierPir.Types

def BATCH_SIZE : Nat := 10000
def BLOCK_ALIGNMENT : Nat := 10
def NU6_3_MAINNET_ACTIVATION_HEIGHT : Nat := 3428143
def NU6_3_TESTNET_ACTIVATION_HEIGHT : Nat := 4134000

/-- Rust `nu6_3_activation_height`. -/
def nu63ActivationHeight : ZcashNetwork → Nat
  | .main => NU6_3_MAINNET_ACTIVATION_HEIGHT
  | .test => NU6_3_TESTNET_ACTIVATION_HEIGHT

/-- The Ironwood actions of a transaction, each by its nullifier bytes. -/
structure CompactTx where
  ironwoodActions : List Bytes

/-- A streamed block (Rust `CompactBlock`). -/
structure CompactBlock where
  height : Nat
  vtx : List CompactTx

/-- A server's view of the note commitment trees (Rust `TreeState`). -/
structure TreeState where
  network : String
  height : Nat
  ironwoodTree : String

/-- The answers of one lightwalletd endpoint during a sync call. -/
structure Lightwalletd where
  url : String
  connect : Except String Unit
  getLatestBlock : Except String Nat
  getTreeState : Nat → Except String TreeState
  getBlockRange : Nat → Nat → Except String (List CompactBlock)

/-- Result of a sync (Rust `SyncResult`). -/
structure SyncResult where
  chainTip : Nat
  blocksSynced : Nat
  nullifiersSynced : Nat
  deriving DecidableEq

/-- The height to resume from, with uncommitted bytes cut off (Rust `resume_height`). -/
def resumeHeight (json : Json DatasetMarker) (net : ZcashNetwork) : Fs Nat := do
  let activationHeight := nu63ActivationHeight net
  ensureIronwoodDataset json net
  match ← loadCheckpoint with
  | some (h, offset) =>
    if activationHeight ≤ h then
      truncateToCheckpoint offset
      return h
    else
      Prog.lift (bail (s!"checkpoint height {h} predates NU6.3 activation; " ++
        "set SVOTE_PIR_SYNC_RESET=1 to rebuild"))
  | none =>
    truncateToCheckpoint 0
    return activationHeight - 1

/-- The nullifiers of a block with its height (Rust `extract_ironwood_nullifiers`). -/
def extractIronwoodNullifiers (block : CompactBlock) : Rust (List (Nat × Bytes)) := do
  let txs ← block.vtx.mapM fun tx => tx.ironwoodActions.mapM fun nullifier => do
    ensure (nullifier.length == 32)
      (s!"Ironwood nullifier at height {block.height} has {nullifier.length} bytes; " ++
        "expected 32")
    return (block.height, nullifier)
  return txs.flatten

/-- Rust `validate_ironwood_tree_state`. -/
def validateIronwoodTreeState (url : String) (expectedNetwork : ZcashNetwork)
    (expectedHeight : Nat) (state : TreeState) : Rust Unit := do
  ensure (state.network == expectedNetwork.asStr)
    (s!"lightwalletd {url} returned network {repr state.network}; " ++
      s!"expected {expectedNetwork.asStr}")
  ensure (state.height == expectedHeight)
    (s!"lightwalletd {url} returned tree state height {state.height}; " ++
      s!"expected {expectedHeight}")
  ensure (!state.ironwoodTree.isEmpty)
    (s!"lightwalletd {url} omitted the Ironwood tree at height {expectedHeight}; " ++
      "use a post-NU6.3 endpoint")

/-- Rust `require_ironwood_tree_state`. -/
def requireIronwoodTreeState (client : Lightwalletd) (net : ZcashNetwork) (height : Nat) :
    Rust Unit := do
  let state ← context s!"get Ironwood tree state from {client.url} at height {height}"
    (ofResult (client.getTreeState height))
  validateIronwoodTreeState client.url net height state

/-- Collect the nullifiers of the blocks `[start, stop]` (Rust `fetch_block_range`). -/
def fetchBlockRange (client : Lightwalletd) (start stop : Nat) : Rust (List (Nat × Bytes)) := do
  let blocks ← ofResult (client.getBlockRange start stop)
  let nfs ← blocks.mapM extractIronwoodNullifiers
  return nfs.flatten

/-- Effective target, accounting for rewinds and the tip (Rust `resolve_target`). -/
def resolveTarget (start : Nat) (maxHeight : Option Nat) (chainTip : Nat) : Nat :=
  match maxHeight with
  | some h =>
    if h < start then min ((start / BLOCK_ALIGNMENT + 1) * BLOCK_ALIGNMENT % U64) chainTip
    else min h chainTip
  | none => chainTip

/-- Up to `n` consecutive batches from `current` (Rust `build_batch_ranges`). -/
def buildBatchRanges (current target : Nat) : Nat → List (Nat × Nat)
  | 0 => []
  | n + 1 =>
    if target < current then []
    else
      let batchEnd := min (wrappingAdd current (BATCH_SIZE - 1)) target
      (current, batchEnd) :: buildBatchRanges (wrappingAdd batchEnd 1) target n

/-- Await the batches of a cycle in order, append their nullifiers and commit. -/
def awaitBatches (clients : List Lightwalletd) (batchRanges : List (Nat × Nat)) :
    Fs (Nat × Nat) := do
  let nfs ← Prog.lift <| (clients.zip batchRanges).mapM fun x =>
    fetchBlockRange x.1 x.2.1 x.2.2
  let allNfs := nfs.flatten
  let cycleEnd ← Prog.lift <| match batchRanges.getLast? with
    | some r => .ok r.2
    | none => panicked "batch_ranges is non-empty"
  let offset ← appendNullifiers allNfs
  saveCheckpoint cycleEnd offset
  return (cycleEnd, allNfs.length)

/-- One cycle: request a batch from each client, then await them. -/
def syncCycle (clients : List Lightwalletd) (current target : Nat) : Fs (Nat × Nat) := do
  let batchRanges := buildBatchRanges current target clients.length
  Prog.forEach batchRanges.zipIdx fun x =>
    Prog.perform (.call (.getBlockRange x.2 x.1.1 x.1.2))
  awaitBatches clients batchRanges

/-- The cycle loop; returns the blocks and nullifiers synced. -/
def syncLoop (clients : List Lightwalletd) (target : Nat) :
    Nat → Nat → Nat → Nat → Fs (Nat × Nat)
  | 0, _, _, _ => Prog.lift (.error .diverge)
  | fuel + 1, current, blocksSynced, totalNfs =>
    if target < current then return (blocksSynced, totalNfs)
    else do
      let (cycleEnd, cycleNfs) ← syncCycle clients current target
      syncLoop clients target fuel (wrappingAdd cycleEnd 1) (blocksSynced + (cycleEnd - current + 1))
        (totalNfs + cycleNfs)

/-- Connect to every endpoint, skipping the unavailable ones. -/
def connectClients (lwds : List Lightwalletd) : Rust (List Lightwalletd) := do
  let clients := lwds.filter fun lwd => lwd.connect.isOk
  let connectionErrors := lwds.filterMap fun lwd =>
    match lwd.connect with
    | .ok _ => none
    | .error e => some s!"{lwd.url}: {e}"
  ensure (!clients.isEmpty)
    ("failed to connect to any lightwalletd endpoint: " ++ "; ".intercalate connectionErrors)
  return clients

/-- Sync nullifiers from lightwalletd servers into flat files (Rust `sync`). -/
def sync (json : Json DatasetMarker) (lwds : List Lightwalletd) (net : ZcashNetwork)
    (maxHeight : Option Nat) : Fs SyncResult := do
  Prog.lift (ensure (!lwds.isEmpty) "at least one lightwalletd URL is required")
  ensureIronwoodDataset json net
  let clients ← Prog.lift (connectClients lwds)
  let first ← Prog.lift (index clients 0)
  let chainTip ← Prog.lift (ofResult first.getLatestBlock)
  let start ← resumeHeight json net
  let _existing ← nullifierCount
  let target := resolveTarget start maxHeight chainTip
  Prog.lift <| forEach clients fun client => requireIronwoodTreeState client net target
  if target ≤ start then return ⟨chainTip, 0, 0⟩
  let (blocksSynced, totalNfs) ← syncLoop clients target U64 (wrappingAdd start 1) 0 0
  return ⟨chainTip, blocksSynced, totalNfs⟩

end NullifierPir.Ingest
