import NullifierPir.Lib.Search
import NullifierPir.Store
import NullifierPir.Types.Metadata

/-!
# Flat-file nullifier storage

Port of `nf-ingest/src/file_store.rs`: the append-only `nullifiers.bin`, its 16-byte checkpoint, the
height-to-offset index and the dataset marker. Paths in messages are relative to the data directory.
Appends to `nullifiers.bin` are forced to disk before they are committed; appends to
`nullifiers.index` are not (`Unsynced`).
-/

namespace NullifierPir.Ingest
open Rust ByteString Crash NullifierPir.Types

def NULLIFIER_SIZE : Nat := 32
def CHECKPOINT_SIZE : Nat := 16
def INDEX_ENTRY_SIZE : Nat := 16

/-- Raw and tree files that must not exist without a marker (Rust `RAW_DATASET_ARTIFACTS`). -/
def RAW_DATASET_ARTIFACTS : List DataFile :=
  [.nullifiersBin, .nullifiersCheckpoint, .nullifiersCheckpointTmp, .nullifiersIndex,
    .nullifiersTree, .nullifiersTreeTmp]

/-- The file whose appends a crash may lose in part. -/
def Unsynced (n : DataFile) : Prop := n = .nullifiersIndex

/-- Identity of the raw dataset (Rust `DatasetMarker`). -/
structure DatasetMarker where
  zcashNetwork : ZcashNetwork
  nullifierPool : String
  datasetVersion : Nat
  deriving DecidableEq

/-- The marker this release writes. -/
def currentMarker (net : ZcashNetwork) : DatasetMarker := ⟨net, NULLIFIER_POOL, DATASET_VERSION⟩

deriving instance Encodable for ZcashNetwork, DatasetMarker

/-- The pretty-printed text of a current marker. -/
def markerText (net : ZcashNetwork) : Bytes :=
  ascii ("\x7b\n  \"zcash_network\": \"" ++ net.asStr ++
    "\",\n  \"nullifier_pool\": \"ironwood\",\n  \"dataset_version\": 2\n\x7d")

/-- The marker codec at the texts of the two current markers. -/
def markerJson : Json DatasetMarker :=
  .ofTexts [(currentMarker .main, markerText .main), (currentMarker .test, markerText .test)]
    (by decide)

/-- Initialize or validate the dataset identity (Rust `ensure_ironwood_dataset`). -/
def ensureIronwoodDataset (json : Json DatasetMarker) (expectedNetwork : ZcashNetwork) :
    Fs Unit := do
  if ← Fs.exists_ .datasetMarker then
    let bytes ← Fs.readFile .datasetMarker
    let marker ← Prog.lift (context
      s!"decode {DataFile.datasetMarker.name}; set SVOTE_PIR_SYNC_RESET=1 to rebuild"
      (ofResult (json.decode bytes)))
    Prog.lift (ensure (isCurrentDataset marker.nullifierPool marker.datasetVersion)
      (s!"{DataFile.datasetMarker.name} identifies pool {repr marker.nullifierPool} dataset " ++
        s!"version {marker.datasetVersion}; expected {repr NULLIFIER_POOL} version " ++
        s!"{DATASET_VERSION}. Set SVOTE_PIR_SYNC_RESET=1 to rebuild"))
    Prog.lift (ensure (decide (marker.zcashNetwork = expectedNetwork))
      (s!"{DataFile.datasetMarker.name} identifies Zcash network {marker.zcashNetwork.asStr}; " ++
        s!"expected {expectedNetwork.asStr}. Set SVOTE_PIR_SYNC_RESET=1 to rebuild"))
  else
    match ← Prog.inspect fun s => RAW_DATASET_ARTIFACTS.find? fun n => (s n).isSome with
    | some n => Prog.lift (bail (s!"{n.name} exists without {DataFile.datasetMarker.name}. " ++
        "Set SVOTE_PIR_SYNC_RESET=1 to rebuild the Ironwood dataset"))
    | none =>
      Prog.perform (.create .datasetMarkerTmp (json.encode (currentMarker expectedNetwork) ++ [10]))
      Prog.perform (.rename .datasetMarkerTmp .datasetMarker)

/-- A `(height, offset)` record: checkpoint contents and index entries. -/
def encodeEntry (height offset : Nat) : Bytes := toLe 8 height ++ toLe 8 offset

/-- Read a record at a byte offset. -/
def decodeEntry (data : Bytes) (off : Nat) : Nat × Nat :=
  (ofLe (slice data off 8), ofLe (slice data (off + 8) 8))

/-- Append an index record (Rust `append_index`). -/
def appendIndex (height offset : Nat) : Fs Unit :=
  Prog.perform (.append .nullifiersIndex (encodeEntry height offset))

/-- Commit `(height, offset)` by temp file and rename (Rust `save_checkpoint`). -/
def saveCheckpoint (height offset : Nat) : Fs Unit := do
  Prog.perform (.create .nullifiersCheckpointTmp (encodeEntry height offset))
  Prog.perform (.rename .nullifiersCheckpointTmp .nullifiersCheckpoint)
  appendIndex height offset

/-- Position after the last record at or below a height, by binary search. -/
def floorPosition (data : Bytes) (targetHeight : Nat) : Nat :=
  Search.upperBound (fun i => decide ((decodeEntry data (i * INDEX_ENTRY_SIZE)).1 ≤ targetHeight)) 0
    (data.length / INDEX_ENTRY_SIZE)

/-- Record of the largest height at or below a target (Rust `offset_for_height`). -/
def offsetForHeight (targetHeight : Nat) : Fs (Option (Nat × Nat)) := do
  if !(← Fs.exists_ .nullifiersIndex) then return none
  let data ← Fs.readFile .nullifiersIndex
  Prog.lift (ensure (data.length % INDEX_ENTRY_SIZE == 0)
    s!"corrupt index file: size {data.length} is not a multiple of {INDEX_ENTRY_SIZE}")
  let lo := floorPosition data targetHeight
  return if lo = 0 then none else some (decodeEntry data ((lo - 1) * INDEX_ENTRY_SIZE))

/-- Load the checkpoint (Rust `load_checkpoint`). -/
def loadCheckpoint : Fs (Option (Nat × Nat)) := do
  if !(← Fs.exists_ .nullifiersCheckpoint) then return none
  let data ← Fs.readFile .nullifiersCheckpoint
  Prog.lift (ensure (data.length == CHECKPOINT_SIZE)
    s!"corrupt checkpoint: expected {CHECKPOINT_SIZE} bytes, got {data.length}")
  return some (decodeEntry data 0)

/-- Create the index from the checkpoint when it is missing (Rust `rebuild_index`). -/
def rebuildIndex : Fs Unit := do
  if ← Fs.exists_ .nullifiersIndex then return
  match ← loadCheckpoint with
  | some (height, offset) => appendIndex height offset
  | none => return

/-- Parse raw 32-byte chunks (Rust `parse_nullifier_bytes`). -/
def parseNullifierBytes (data : Bytes) : Rust (List Fp) := do
  ensure (data.length % NULLIFIER_SIZE == 0)
    s!"data length {data.length} is not a multiple of {NULLIFIER_SIZE}"
  (List.range (data.length / NULLIFIER_SIZE)).mapM fun i =>
    ofOption s!"non-canonical nullifier encoding at index {i}"
      (Fp.fromRepr (slice data (i * NULLIFIER_SIZE) NULLIFIER_SIZE))

/-- Load nullifiers up to a byte offset (Rust `load_nullifiers_up_to`). -/
def loadNullifiersUpTo (byteOffset : Nat) : Fs (List Fp) := do
  if !(← Fs.exists_ .nullifiersBin) then return []
  Prog.lift (ensure (byteOffset % NULLIFIER_SIZE == 0)
    s!"byte_offset {byteOffset} is not a multiple of {NULLIFIER_SIZE}")
  let fullData ← Fs.readFile .nullifiersBin
  let data := if byteOffset < fullData.length then fullData.take byteOffset else fullData
  Prog.lift (parseNullifierBytes data)

/-- Read every nullifier of the data file (Rust `load_all_nullifiers`). -/
def loadAllNullifiers : Fs (List Fp) := do
  if !(← Fs.exists_ .nullifiersBin) then return []
  let data ← Fs.readFile .nullifiersBin
  Prog.lift (ensure (data.length % NULLIFIER_SIZE == 0)
    s!"corrupt nullifiers file: size {data.length} is not a multiple of {NULLIFIER_SIZE}")
  Prog.lift (parseNullifierBytes data)

/-- Append nullifier blobs, force them to disk and return the new length (Rust
`append_nullifiers`). -/
def appendNullifiers (nfs : List (Nat × Bytes)) : Fs Nat := do
  Prog.lift <| forEach nfs.zipIdx fun ((_, nf), index) =>
    ensure (nf.length == NULLIFIER_SIZE)
      s!"nullifier at index {index} has {nf.length} bytes; expected {NULLIFIER_SIZE}"
  Prog.perform (.append .nullifiersBin (nfs.flatMap fun x => x.2))
  Prog.inspect fun s => ((s .nullifiersBin).getD []).length

/-- Cut the data file to a length (Rust `truncate_to_checkpoint`); `set_len` extends a shorter
file. -/
def truncateToCheckpoint (offset : Nat) : Fs Unit := do
  if !(← Fs.exists_ .nullifiersBin) then return
  Prog.perform (.setLen .nullifiersBin offset)

/-- Number of nullifiers in the file (Rust `nullifier_count`). -/
def nullifierCount : Fs Nat :=
  Prog.inspect fun s => ((s .nullifiersBin).getD []).length / NULLIFIER_SIZE

end NullifierPir.Ingest
