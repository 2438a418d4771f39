import NullifierPir.Lib.Hex
import NullifierPir.Store
import NullifierPir.Types.Metadata

/-!
# Snapshot bootstrap

Port of the fetch half of `nf-server/src/bootstrap.rs`: a published snapshot is downloaded into
`.bootstrap-staging/` under the data directory, checked against its manifest and moved into place.
`Outside` is what a call meets: the answers of the snapshot server, the failures of single file
operations, the free disk space and the third-party hash and JSON functions. A body arrives in chunks
and may break off after any of them. Paths in messages are relative to the data directory.
-/

namespace NullifierPir.NfServer
open Rust ByteString Crash Hex NullifierPir.Types

/-- A file of the data directory, or of its staging directory. -/
inductive BootFile where
  | live (n : DataFile)
  | staged (n : DataFile)
  deriving DecidableEq

def BootFile.path : BootFile → String
  | .live n => n.name
  | .staged n => ".bootstrap-staging/" ++ n.name

/-- Every file name. -/
def DataFile.all : List DataFile :=
  [.nullifiersBin, .nullifiersCheckpoint, .nullifiersCheckpointTmp, .nullifiersIndex,
    .datasetMarker, .datasetMarkerTmp, .nullifiersTree, .nullifiersTreeTmp, .tier0, .tier1, .tier2,
    .pirRoot, .tier0Precompute, .tier0PrecomputeTmp, .tier1Precompute, .tier1PrecomputeTmp,
    .tier2Precompute, .tier2PrecomputeTmp]

/-- A data directory with its staging directory. -/
abbrev BootDir := Store BootFile

/-- A file operation, or an HTTP request by its URL. -/
abbrev BootOp := Op BootFile String

/-- Programs over a data directory and its staging directory. -/
abbrev Boot := Prog BootFile String Fault

def PIR_SNAPSHOTS_PATH : String := "/snapshots"
def MAX_MANIFEST_BYTES : Nat := 1048576

/-- The files of a snapshot, in the order they are moved (Rust `SNAPSHOT_FILES`). -/
def SNAPSHOT_FILES : List DataFile := [.tier0, .tier1, .pirRoot]

/-- Tier 2 of dataset version 1. -/
def LEGACY_TIER2 : List DataFile := [.tier2, .tier2Precompute, .tier2PrecomputeTmp]

/-- Integrity entry of a file (Rust `ManifestFile`). -/
structure ManifestFile where
  size : Nat
  size_lt : size < U64
  sha256 : String

/-- Published manifest (Rust `PublishedManifest`). -/
structure PublishedManifest where
  schemaVersion : Nat
  nullifierPool : String
  datasetVersion : Nat
  height : Nat
  files : String → Option ManifestFile

/-- What the fetch reads of the configuration (Rust `Config`). -/
structure Config where
  zcashNetwork : ZcashNetwork
  precomputedBaseUrl : String

/-- An answer of the server; `broken` is the error that ends an incomplete body. -/
structure Response where
  status : Nat
  contentLength : Option Nat
  chunks : List Bytes
  broken : Option String

/-- File operations that can fail. -/
inductive IoStep where
  | buildClient
  | cleanStaging
  | createStaging
  | create (n : DataFile)
  | flush (n : DataFile)
  | sync (n : DataFile)
  | rename (n : DataFile)
  | syncDataDir

/-- What a call meets outside the program. -/
structure Outside where
  send : String → Except String Response
  io : IoStep → Except String Unit
  /-- Free bytes on the disk once the staging directory is clean. -/
  free : Nat
  free_lt : free < U64
  sha256 : Bytes → Bytes
  decodeManifest : Bytes → Except String PublishedManifest
  decodeMetadata : Bytes → Except String PirMetadata

/-- `Response::error_for_status`. -/
def errorForStatus (url : String) (response : Response) : Rust Unit := do
  ensure (!(decide (400 ≤ response.status) && decide (response.status < 500)))
    s!"HTTP status client error ({response.status}) for url ({url})"
  ensure (!(decide (500 ≤ response.status) && decide (response.status < 600)))
    s!"HTTP status server error ({response.status}) for url ({url})"

/-- `str::eq_ignore_ascii_case`. -/
def eqIgnoreAsciiCase (a b : String) : Bool :=
  a.toList.map Char.toLower == b.toList.map Char.toLower

namespace Boot

def exists_ (f : BootFile) : Boot Bool := Prog.inspect fun s => (s f).isSome

def readFile (f : BootFile) : Boot Bytes := do
  match ← Prog.read f with
  | some bs => return bs
  | none => Prog.lift (bail s!"read {f.path}: No such file or directory (os error 2)")

/-- `fs::remove_file`, whatever it returns. -/
def removeFile (f : BootFile) : Boot Unit := do
  if ← exists_ f then Prog.perform (.remove f)

end Boot

variable (env : Outside)

/-- Read a body of bounded size. -/
def readManifest (broken : Option String) : List Bytes → Bytes → Rust Bytes
  | [], bytes => broken.elim (.ok bytes) bail
  | chunk :: chunks, bytes => do
    ensure (decide (bytes.length + chunk.length ≤ MAX_MANIFEST_BYTES)) "manifest too large"
    readManifest broken chunks (bytes ++ chunk)

/-- Where a snapshot is published. -/
def snapshotDir (cfg : Config) (height : Nat) : String :=
  s!"{cfg.precomputedBaseUrl}{PIR_SNAPSHOTS_PATH}/{cfg.zcashNetwork.asStr}/{height}"

def manifestUrl (cfg : Config) (height : Nat) : String := snapshotDir cfg height ++ "/manifest.json"

/-- Refuse a manifest of another format, dataset or height, or without the snapshot's files. -/
def checkManifest (height : Nat) (manifest : PublishedManifest) : Rust Unit := do
  ensure (manifest.schemaVersion == 2)
    (s!"manifest schema_version = {manifest.schemaVersion} (only 2 is supported); " ++
      "publish an Ironwood snapshot")
  ensure (isCurrentDataset manifest.nullifierPool manifest.datasetVersion)
    (s!"manifest identifies pool {repr manifest.nullifierPool} dataset version " ++
      s!"{manifest.datasetVersion}; expected {repr NULLIFIER_POOL} version {DATASET_VERSION}")
  ensure (manifest.height == height)
    (s!"manifest height = {manifest.height} but URL says {height}; " ++
      "refusing to install mismatched snapshot")
  forEach SNAPSHOT_FILES fun n =>
    ensure (manifest.files n.name).isSome s!"manifest is missing required file {n.name}"

/-- Fetch, authenticate and check the manifest. -/
def fetchManifest (cfg : Config) (height : Nat) (manifestSha256 : Option String) :
    Boot PublishedManifest := do
  Prog.lift (context "build reqwest client" (ofResult (env.io .buildClient)))
  Prog.perform (.call (manifestUrl cfg height))
  let response ← Prog.lift (ofResult (env.send (manifestUrl cfg height)))
  Prog.lift (errorForStatus (manifestUrl cfg height) response)
  Prog.lift (ensure (decide (response.contentLength.getD 0 ≤ MAX_MANIFEST_BYTES))
    "manifest too large")
  let bytes ← Prog.lift (readManifest response.broken response.chunks [])
  Prog.lift (manifestSha256.elim (.ok ()) fun expected =>
    ensure (hexEncode (env.sha256 bytes) == expected) "snapshot manifest hash mismatch")
  let manifest ← Prog.lift (context "decode snapshot manifest" (ofResult (env.decodeManifest bytes)))
  Prog.lift (checkManifest height manifest)
  return manifest

/-- Remove what an earlier run left and create the staging directory. -/
def cleanStaging : Boot Unit := do
  Prog.lift (context "clean staging dir .bootstrap-staging" (ofResult (env.io .cleanStaging)))
  Prog.forEach DataFile.all fun n => Boot.removeFile (.staged n)
  Prog.lift (context "create staging dir .bootstrap-staging" (ofResult (env.io .createStaging)))

/-- Write a body chunk by chunk, hashing it, within the authenticated size; `used` bytes of the disk
are taken by the files before it. Returns the bytes written and hashed. -/
def writeChunks (url : String) (n : DataFile) (expectedSize used : Nat) (broken : Option String) :
    List Bytes → Nat → Bytes → Boot (Nat × Bytes)
  | [], written, hasher =>
    Prog.lift (broken.elim (.ok (written, hasher)) fun e => bail s!"read body chunk from {url}: {e}")
  | chunk :: chunks, written, hasher =>
    if expectedSize - written < chunk.length then do
      Boot.removeFile (.staged n)
      Prog.lift (bail "snapshot response exceeds authenticated size")
    else if env.free < used + written + chunk.length then do
      -- a full disk takes the part that fits
      Prog.perform (.append (.staged n) (chunk.take (env.free - (used + written))))
      Prog.lift (bail
        s!"write to {(BootFile.staged n).path}: No space left on device (os error 28)")
    else do
      Prog.perform (.append (.staged n) chunk)
      writeChunks url n expectedSize used broken chunks (saturatingAdd written chunk.length)
        (hasher ++ chunk)

/-- Stream a URL to its staged file and check size and digest (Rust `download_and_verify`). -/
def downloadAndVerify (url : String) (n : DataFile) (expectedSha256 : String)
    (expectedSize used : Nat) : Boot Nat := do
  Prog.perform (.call url)
  let response ← Prog.lift (context s!"GET {url}" (ofResult (env.send url)))
  Prog.lift (context s!"GET {url} (non-2xx)" (errorForStatus url response))
  Prog.lift (context s!"create {(BootFile.staged n).path}" (ofResult (env.io (.create n))))
  Prog.perform (.create (.staged n) [])
  let (written, hasher) ←
    writeChunks env url n expectedSize used response.broken response.chunks 0 []
  Prog.lift (context s!"flush {(BootFile.staged n).path}" (ofResult (env.io (.flush n))))
  Prog.lift (context "sync snapshot file" (ofResult (env.io (.sync n))))
  if written ≠ expectedSize then
    Boot.removeFile (.staged n)
    Prog.lift (bail s!"{url}: downloaded {written} bytes but manifest expected {expectedSize}")
  else
    let actualSha := hexEncode (env.sha256 hasher)
    if eqIgnoreAsciiCase actualSha expectedSha256 then return written
    else
      Boot.removeFile (.staged n)
      Prog.lift (bail s!"{url}: sha256 mismatch (expected {expectedSha256}, got {actualSha})")

/-- Download the files one after the other; returns the total of their sizes. -/
def downloadAll (dir : String) (manifest : PublishedManifest) : List DataFile → Nat → Boot Nat
  | [], totalBytes => return totalBytes
  | n :: names, totalBytes => do
    let entry ← Prog.lift ((manifest.files n.name).elim (panicked "no entry found for key") .ok)
    let written ← downloadAndVerify env s!"{dir}/{n.name}" n entry.sha256 entry.size totalBytes
    downloadAll dir manifest names (saturatingAdd totalBytes written)

/-- The checks on a decoded `pir_root.json`. -/
def checkPirMetadata (path : String) (expectedNetwork : ZcashNetwork) (root : PirMetadata) :
    Rust Unit := do
  ensure (decide (root.zcashNetwork = expectedNetwork))
    (s!"{path} identifies Zcash network {root.zcashNetwork.asStr}; " ++
      s!"expected {expectedNetwork.asStr}")
  ensure (isCurrentDataset root.nullifierPool root.datasetVersion)
    (s!"{path} identifies pool {repr root.nullifierPool} dataset version {root.datasetVersion}; " ++
      s!"expected {repr NULLIFIER_POOL} version {DATASET_VERSION}")
  context "invalid metadata pir_layout" root.pirLayout.validateSupported
  let layoutRows ← root.pirLayout.tier1Rows
  let layoutRowBytes ← root.pirLayout.tier1RowBytes
  let layoutTier0Bytes ← root.pirLayout.tier0Bytes
  ensure (root.pirDepth == root.pirLayout.pirDepth && root.tier1Rows == layoutRows &&
      root.tier1RowBytes == layoutRowBytes && root.tier0Bytes == layoutTier0Bytes)
    s!"{path} has inconsistent PIR layout metadata"

/-- Read and check a `pir_root.json` (Rust `validate_pir_metadata`). -/
def validatePirMetadata (f : BootFile) (expectedNetwork : ZcashNetwork) : Boot PirMetadata := do
  let raw ← Boot.readFile f
  let root ← Prog.lift (context s!"decode {f.path}" (ofResult (env.decodeMetadata raw)))
  Prog.lift (checkPirMetadata f.path expectedNetwork root)
  return root

/-- It is also of the requested height (Rust `validate_pir_root`). -/
def validatePirRoot (f : BootFile) (expectedNetwork : ZcashNetwork) (expectedHeight : Nat) :
    Boot Unit := do
  let root ← validatePirMetadata env f expectedNetwork
  Prog.lift (ensure (decide (root.height = some expectedHeight))
    (s!"{f.path} height {repr root.height} does not match requested snapshot height " ++
      s!"{expectedHeight}"))

/-- The precompute cache of a tier and its temp file. -/
def precomputeFiles : DataFile → List DataFile
  | .tier0 => [.tier0Precompute, .tier0PrecomputeTmp]
  | .tier1 => [.tier1Precompute, .tier1PrecomputeTmp]
  | _ => []

/-- Move one staged file into place and evict the cache it invalidates. -/
def installFile (n : DataFile) : Boot Unit := do
  let failed := fun e => s!"rename {(BootFile.staged n).path} -> {n.name} failed: {e}. " ++
    "Bootstrap left partial state behind; re-run the daemon to retry."
  Prog.lift (ofResult ((env.io (.rename n)).mapError failed))
  if ← Boot.exists_ (.staged n) then
    Prog.perform (.rename (.staged n) (.live n))
    Prog.forEach (precomputeFiles n) fun cache => Boot.removeFile (.live cache)
  else Prog.lift (bail (failed "No such file or directory (os error 2)"))

/-- Move the staged files into place, the metadata last (Rust `install_from_staging`). -/
def installFromStaging : Boot Unit := do
  Prog.forEach SNAPSHOT_FILES (installFile env)
  Prog.forEach LEGACY_TIER2 fun n => Boot.removeFile (.live n)

/-- The part of `fetch_authenticated` in front of the install. -/
def stageSnapshot (cfg : Config) (height : Nat) (manifestSha256 : Option String) : Boot Nat := do
  let manifest ← fetchManifest env cfg height manifestSha256
  cleanStaging env
  let totalBytes ← downloadAll env (snapshotDir cfg height) manifest SNAPSHOT_FILES 0
  validatePirRoot env (.staged .pirRoot) cfg.zcashNetwork height
  return totalBytes

/-- Download, verify and install a snapshot (Rust `fetch_authenticated`). -/
def fetchAuthenticated (cfg : Config) (height : Nat) (manifestSha256 : Option String) :
    Boot Nat := do
  let totalBytes ← stageSnapshot env cfg height manifestSha256
  installFromStaging env
  Prog.lift (ofResult (env.io .syncDataDir))
  Prog.forEach DataFile.all fun n => Boot.removeFile (.staged n)
  return totalBytes

end NullifierPir.NfServer
