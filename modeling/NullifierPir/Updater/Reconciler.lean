import NullifierPir.Updater.Host

/-!
# The reconciler

`deploy/pir-updater/pir_updater.py`: `switch`, `set_release`, `restore_dropin`, `download` and the methods
of `Reconciler` (`rollback`, `recover`, `stage`, `activate`, `once`), with the run of `main` around
`once`. Every file operation and every outside call is one step, which may fail before or after its
effect and before which the process may be killed.
-/

namespace NullifierPir.Updater
open ByteString Killable
open Killable.Proc (act step look ask raise handle forEach poll)

/-- Force a directory to disk (Python `sync_directory`). -/
def syncDirectory : HostProc Unit := step id

/-- `run('systemctl', ..)`. -/
def systemctl (args : List String) : HostProc Unit := step fun s => s.emit (.systemctl args)

/-- A value that must be there. -/
def expect {α : Type} (e : Exn) : Option α → HostProc α
  | some a => pure a
  | none => raise e

def fileNotFound (path : String) : Exn := ⟨"FileNotFoundError", path⟩

def typeError : Exn := ⟨"TypeError", "argument of type 'NoneType' is not iterable"⟩

def attributeError : Exn := ⟨"AttributeError", "'NoneType' object has no attribute 'get'"⟩

def keyError (key : String) : Exn := ⟨"KeyError", key⟩

section Program

variable (m : Machine)

/-- Point `current` at a directory (Python `switch`). -/
def switch (path : Path) : HostProc Unit := do
  step fun s => { s with currentNew := none }
  step fun s => { s with currentNew := some path }
  step fun s => { s with current := s.currentNew, currentNew := none }.emit (.switched path (s.dir m path))
  syncDirectory

/-- Point `SENTRY_RELEASE` at `tag` (Python `set_release`). -/
def setRelease (tag : String) : HostProc Unit := do
  match ← look Host.env with
  | none => pure ()
  | some env =>
    let text ← expect ⟨"UnicodeDecodeError", "invalid start byte"⟩ (releaseText tag env)
    step fun s => { s with env := some text }.emit (.released tag)

/-- Run an executable. -/
def runProgram {α : Type} (program : Path) (file : Host → Option Bytes) (args : List String)
    (answer : Reply → α) : HostProc α :=
  act fun s r => (answer r, s.emit (.run program (file s) args))

/-- The executable of a generation. -/
def Host.nfServer (path : Path) (s : Host) : Option Bytes := (s.dir m path).bind Generation.nfServer

/-- The drop-in that pins an executable to its local data (Python `legacy_dropin`). -/
def legacyDropin (program : Path) (file : Host → Option Bytes) (data : String) : HostProc Bytes := do
  let help ← runProgram program file ["serve", "--help"] Reply.help
  match legacyDropinText help data with
  | .ok text => pure text
  | .error e => raise e

/-- Python `restore_dropin`. -/
def restoreDropin (encoded : Option Bytes) : HostProc Unit := do
  match encoded with
  | some bytes => step fun s => { s with dropin := some bytes }
  | none => do
    if ← look fun s => s.dropin.isSome then do
      step fun s => { s with dropin := none }
      syncDirectory
    else pure ()

/-- Update the status and save it (Python `Reconciler.report`). -/
def report (fields : Status → Status) : HostProc Unit := do
  step fun s => { s with selfStatus := fields s.selfStatus }
  step fun s => { s with status := s.selfStatus }

/-- The metadata of a server that is ready (Python `Reconciler.metadata`). -/
def metadata : HostProc Metadata := do
  if ← ask Reply.ready then ask Reply.metadata
  else raise (runtimeError "server not ready")

/-- Is the server the one the target describes? Any exception is a no (Python `Reconciler.matches`). -/
def matchesTarget (target : Target) : HostProc Bool :=
  handle
    (match target with
    | .legacy l => do
      if ← ask Reply.ready then do
        let pid ← ask Reply.pid
        let binary ← expect (fileNotFound "/opt/nf-ingest/nf-server") (← look (Host.readBinary m))
        let exe ← ask Reply.exe
        let root ← ask Reply.pirRoot
        pure (decide (0 < pid) && decide (m.sha256 binary = l.legacyBinarySha256) &&
          decide (m.sha256 exe = l.runningExeSha256) && decide (m.sha256 root = l.rootSha256))
      else pure false
    | .config c => do
      let md ← metadata
      let settings ← expect typeError (← look Host.selfSettings)
      let network ← expect (keyError "network") settings.network
      pure (decide (md.releaseTag = c.binaryTag) && decide (md.snapshotHeight = c.snapshotHeight) &&
        decide (md.zcashNetwork = network)))
    fun _ => pure false

/-- One look at the server before the deadline. -/
def waitOnce (target : Target) (deadline : Nat) : HostProc (Option Unit) := do
  let now ← ask Reply.time
  if now < deadline then do
    if ← matchesTarget m target then do
      step fun s => s.emit (.ready target)
      pure (some ())
    else pure none
  else raise (runtimeError "server failed readiness or target identity check")

/-- Wait for readiness (Python `Reconciler.wait`). -/
def wait (target : Target) : HostProc Unit := do
  let start ← ask Reply.time
  let settings ← expect attributeError (← look Host.selfSettings)
  poll (waitOnce m target (start + settings.timeoutSecs.getD 600))

/-- The drop-in part of a rollback. -/
def rollbackDropin (tx : Transaction) : HostProc Unit := do
  match tx.previousTarget with
  | none => raise typeError
  | some (.legacy l) => do
    let text ← legacyDropin (tx.previous ++ ["nf-server"]) (Host.nfServer m tx.previous) l.dataDir
    step fun s => { s with dropin := some text }
  | some (.config _) =>
    match tx.previousDropin with
    | some encoded => restoreDropin encoded
    | none => pure ()

/-- The environment part of a rollback. -/
def rollbackEnv (tx : Transaction) : HostProc Unit := do
  match tx.previousEnv with
  | some env => step fun s => { s with env := some env }.emit .envRestored
  | none => pure ()

/-- The file changes of a rollback. -/
def restorePrevious (tx : Transaction) : HostProc Unit := do
  switch m tx.previous
  step fun s => { s with service := some tx.previousUnit }
  rollbackDropin m tx
  rollbackEnv tx

/-- Have systemd read the unit and start it. -/
def startService : HostProc Unit := do
  systemctl ["daemon-reload"]
  systemctl ["reset-failed", NAME]
  systemctl ["start", NAME]

/-- Restore what the journal holds (Python `Reconciler.rollback`). -/
def rollback (tx : Transaction) : HostProc Unit := do
  systemctl ["stop", NAME]
  restorePrevious m tx
  startService
  wait m (← expect typeError tx.previousTarget)
  step fun s => { s with transaction := none }
  syncDirectory
  report fun st => { st with phase := "rolled_back", converged := false, rollbacks := st.rollbacks + 1 }

/-- Finish an interrupted transaction (Python `Reconciler.recover`). -/
def recover : HostProc Unit := do
  match ← look Host.transaction with
  | some tx => rollback m tx
  | none => pure ()

/-- Remove a directory entry by entry (Python `shutil.rmtree`). -/
def rmtree (path : Path) : HostProc Unit := do
  act fun s r => ((), s.setDir m path ((s.dir m path).map fun g => g.keep r.kept))
  step fun s => s.setDir m path none

/-- `read(path / 'target.json')`. -/
def readTarget (path : Path) : HostProc (Option Target) :=
  look fun s => (s.dir m path).bind Generation.target

/-- `set_release(read(path / 'target.json')['binary_tag'])`. -/
def releaseTarget (path : Path) : HostProc Unit := do
  match ← readTarget m path with
  | some (.config c) => setRelease c.binaryTag
  | some (.legacy _) => raise (keyError "binary_tag")
  | none => raise typeError

/-- The serving path points at the new generation, which has to become ready. -/
def activateBody (path : Path) : HostProc Unit := do
  systemctl ["stop", NAME]
  switch m path
  let service ← expect (fileNotFound "service")
    (← look fun s => (s.dir m path).bind Generation.service)
  step fun s => { s with service := some service }
  step fun s => { s with dropin := some managedDropin }
  releaseTarget m path
  startService
  wait m (← expect typeError (← readTarget m path))

/-- The journal `activate` writes: what it is about to change, and the target. -/
def journal (s : Host) (path : Path) (unit : Bytes) : Transaction where
  previous := s.resolveCurrent m
  target := path
  previousUnit := unit
  previousTarget := s.currentTarget m
  previousDropin := some s.dropin
  previousEnv := s.env

/-- Remove the generations other than the two. -/
def cleanup (previous path : Path) : HostProc Unit := do
  let names ← act fun s r => (r.names.filter fun name => (s.dir m (generation name)).isSome, s)
  forEach names fun name =>
    if generation name = previous ∨ generation name = path then pure () else rmtree m (generation name)

/-- Activate a staged generation (Python `Reconciler.activate`). -/
def activate (path : Path) : HostProc Unit := do
  let previous ← act fun s _ => (s.resolveCurrent m, s.emit (.activating path s.transaction))
  let unit ← expect (fileNotFound "nullifier-query-server.service") (← look Host.service)
  -- a missing link resolves to its own path, where there is no `target.json`
  let previousTarget ← look fun s => s.current.bind fun _ => (s.dir m previous).bind Generation.target
  let dropin ← look Host.dropin
  let env ← look Host.env
  let tx : Transaction := ⟨previous, path, unit, previousTarget, some dropin, env⟩
  step fun s => { s with transaction := some tx }.emit (.journaled tx (s.dir m tx.previous))
  report fun st => { st with phase := "activating", converged := false }
  handle (activateBody m path) fun e => do
    rollback m tx
    raise e
  step fun s => { s with previousJson := some previous }
  step fun s => { s with transaction := none }.emit (.committed path)
  syncDirectory
  cleanup m previous path

/-- GET a small document (Python `fetch`). -/
def fetch (url : String) (limit : Nat) : HostProc Bytes := do
  if "https://".toList.isPrefixOf url.toList then do
    let response ← ask Reply.response
    if "https://".toList.isPrefixOf response.url.toList then do
      let data := response.chunks.flatten
      if data.length ≤ limit then pure data else raise (valueError "response exceeds size limit")
    else raise (valueError "HTTPS required after redirect")
  else raise (valueError "HTTPS required")

/-- Identity of an accepted update: the hash of what the verifier printed. -/
def identity (v : Verified) : String := m.sha256 (encode (m.dumps v))

/-- `url.rsplit('/', 1)[0]`. -/
def parentUrl (url : String) : String :=
  String.ofList (((url.toList.reverse.dropWhile (· ≠ '/')).drop 1).reverse)

/-- Fetch the signed target and have it verified (Python `Reconciler.target`). -/
def target : HostProc (String × Verified) := do
  let settings ← expect typeError (← look Host.selfSettings)
  let url ← expect (keyError "config_url") settings.configUrl
  let _ ← fetch url 65536
  let _ ← fetch (parentUrl url ++ "/pir_attestations.json") 65536
  -- the verifier exits nonzero unless it accepts
  let verified ← act fun s r => (r.verified, s.emit (.accepted r.verified))
  pure (identity m verified, verified)

/-- An artifact of a generation. -/
inductive Artifact where
  | nfServer
  | service
  deriving DecidableEq

def Generation.artifact (g : Generation) : Artifact → Option Bytes
  | .nfServer => g.nfServer
  | .service => g.service

def Generation.setArtifact (g : Generation) : Artifact → Option Bytes → Generation
  | .nfServer, bytes => { g with nfServer := bytes }
  | .service, bytes => { g with service := bytes }

/-- Change a directory. -/
def Host.modifyDir (s : Host) (path : Path) (f : Generation → Generation) : Host :=
  s.setDir m path ((s.dir m path).map f)

/-- Write the chunks of a response as they come; `total` bytes are written. -/
def writeChunks (path : Path) (artifact : Artifact) (maxBytes total : Nat) : List Bytes → HostProc Unit
  | [] => pure ()
  | chunk :: chunks =>
    -- an empty read is the end of the response
    if chunk = [] then pure ()
    else if total + chunk.length > maxBytes then raise (valueError "artifact too large")
    else do
      step fun s => s.modifyDir m path fun g =>
        g.setArtifact artifact (some ((g.artifact artifact).getD [] ++ chunk))
      writeChunks path artifact maxBytes (total + chunk.length) chunks

/-- Download from one source and check the hash. -/
def downloadFrom (url : String) (path : Path) (artifact : Artifact) (expected : String)
    (maxBytes : Nat) : HostProc Unit := do
  if "https://".toList.isPrefixOf url.toList then do
    let response ← ask Reply.response
    step fun s => s.modifyDir m path fun g => g.setArtifact artifact (some [])
    if "https://".toList.isPrefixOf response.url.toList then do
      writeChunks m path artifact maxBytes 0 response.chunks
      step id
      let bytes ← expect (fileNotFound "artifact")
        (← look fun s => (s.dir m path).bind fun g => g.artifact artifact)
      if m.sha256 bytes = expected then pure () else raise (valueError "artifact hash mismatch")
    else raise (valueError "HTTPS required after redirect")
  else raise (valueError "HTTPS required")

/-- Download an artifact from the first source that has it (Python `download`). -/
def download (path : Path) (artifact : Artifact) (expected : String) (maxBytes : Nat) :
    List String → HostProc Unit
  | [] => raise (runtimeError "artifact unavailable or hash mismatch from all sources")
  | url :: urls => do
    let done ← handle
      (do
        downloadFrom m url path artifact expected maxBytes
        pure true)
      fun _ => do
        step fun s => s.modifyDir m path fun g => g.setArtifact artifact none
        pure false
    if done then pure () else download path artifact expected maxBytes urls

/-- Release architecture of `platform.machine()`. -/
def releaseArch : String → Option String
  | "x86_64" => some "amd64"
  | "aarch64" => some "arm64"
  | "arm64" => some "arm64"
  | _ => none

/-- `p[f'linux_..._sha256']`. -/
def Payload.linuxSha256 (p : Payload) (arch : String) : String :=
  if arch = "amd64" then p.linuxAmd64Sha256 else p.linuxArm64Sha256

/-- The snapshot manifest authenticates and fits on the disk. -/
def checkManifest (settings : Settings) (v : Verified) : HostProc Unit := do
  let base ← expect (keyError "snapshot_base") settings.snapshotBase
  let network ← expect (keyError "network") settings.network
  let manifest ← fetch (base ++ "/snapshots/" ++ network ++ "/" ++
    toString v.config.snapshotHeight ++ "/manifest.json") 1048576
  if m.sha256 manifest = v.payload.snapshotManifestSha256 then do
    let sizes ← expect (keyError "files") (m.manifestSizes manifest)
    if sizes.any (· < 0) then raise (valueError "invalid snapshot sizes")
    else do
      let free ← ask Reply.diskFree
      if (free : Int) < sizes.sum + 1024 * 1024 * 1024 then
        raise (runtimeError "insufficient disk space for staged generation")
      else pure ()
  else raise (runtimeError "snapshot manifest hash mismatch")

/-- Download and run the candidate, then download its unit. -/
def stageArtifacts (base arch : String) (v : Verified) (path : Path) : HostProc Unit := do
  let tag := v.config.binaryTag
  let github := "https://github.com/valargroup/vote-nullifier-pir/releases/download/" ++ tag
  download m path .nfServer (v.payload.linuxSha256 arch) (1024 * 1024 * 1024)
    [base ++ "/nf-server-" ++ tag ++ "-linux-" ++ arch, github ++ "/nf-server-linux-" ++ arch]
  step id
  -- the candidate is authenticated before its first execution
  let info ← runProgram (path ++ ["nf-server"]) (Host.nfServer m path) ["build-info", "--json"] fun r =>
    (r.releaseTag, r.pirUpdateProtocol)
  if info.1 = tag ∧ info.2 = 1 then
    download m path .service v.payload.serviceSha256 65536
      [base ++ "/nullifier-query-server-" ++ tag ++ ".service",
        github ++ "/nullifier-query-server.service"]
  else raise (runtimeError "candidate build identity or updater protocol mismatch")

/-- Remove what an earlier staging has left. -/
def removeStale (path : Path) : HostProc Unit := do
  if ← look fun s => (s.dir m path).isSome then rmtree m path else pure ()

/-- An empty directory for the generation. -/
def freshDirectory (path : Path) : HostProc Unit := do
  removeStale m path
  step fun s => s.setDir m path (some {})
  syncDirectory

/-- Stage a generation (Python `Reconciler.stage`). -/
def stage (id : String) (v : Verified) : HostProc Path := do
  let path := generation id
  freshDirectory m path
  let arch ← expect (runtimeError "unsupported architecture") (releaseArch m.machine)
  let settings ← expect typeError (← look Host.selfSettings)
  checkManifest m settings v
  let base ← expect (keyError "binary_base") settings.binaryBase
  stageArtifacts m base arch v path
  act fun s r => ((), (s.emit (.run (path ++ ["nf-server"]) (Host.nfServer m path s)
    ["snapshot-stage"])).modifyDir m path fun g => { g with data := some r.snapshot })
  step fun s => s.modifyDir m path fun g => { g with target := some (.config v.config) }
  syncDirectory
  syncDirectory
  pure path

/-- Stage the target and activate it unless it has changed meanwhile. -/
def stageAndActivate (id : String) (v : Verified) : HostProc Bool := do
  let path ← stage m id v
  let latest ← target m
  if latest.1 = id then do
    activate m path
    pure true
  else do
    rmtree m path
    report fun st => { st with phase := "target_changed", converged := false }
    pure false

/-- Restart the current generation, without touching its files. -/
def restartCurrent (v : Verified) : HostProc Bool := do
  systemctl ["restart", NAME]
  wait m (.config v.config)
  pure true

/-- Bring the host to the target: restart the current generation or install a new one. -/
def converge (id : String) (v : Verified) (current : Path) : HostProc Unit := do
  report fun st => { st with phase := "staging", converged := false }
  let finished ← (if current.name = id then restartCurrent m v else stageAndActivate m id v)
  if finished then
    report fun st =>
      { st with phase := "current", converged := true, error := none, failures := 0, nextRetry := 0 }
  else pure ()

/-- The target is known: is there anything to do now? -/
def decideTarget (force : Bool) (id : String) (v : Verified) : HostProc Unit := do
  let current ← look (Host.resolveCurrent m)
  let running ← (if current.name = id then matchesTarget m (.config v.config) else pure false)
  if running then
    report fun st => { st with phase := "current", converged := true, error := none }
  else do
    let now ← ask Reply.time
    let nextRetry ← look fun s => s.selfStatus.nextRetry
    if !force && decide (now < nextRetry) then
      report fun st => { st with phase := "backoff", converged := false }
    else converge m id v current

/-- A new target starts without failures. -/
def resetRetries (changed : Bool) : HostProc Unit :=
  if changed then report fun st => { st with failures := 0, nextRetry := 0 } else pure ()

/-- One reconciliation (Python `Reconciler.once`). -/
def once (force : Bool) : HostProc Unit := do
  if ← look fun s => s.enrollment.isSome then
    raise (runtimeError "incomplete enrollment; rerun the updater installer")
  else do
    recover m
    report fun st => { st with phase := "checking" }
    let latest ← target m
    let changed ← look fun s => decide (s.selfStatus.desiredId ≠ some latest.1)
    report fun st => { st with desiredId := some latest.1 }
    resetRetries changed
    decideTarget m force latest.1 latest.2

/-- `Reconciler()`. -/
def init : HostProc Unit :=
  step fun s => { s with selfSettings := s.settings, selfStatus := { s.status with enabled := true } }

/-- Seconds before the next retry after `failures` failures in a row. -/
def backoffSecs (failures : Nat) : Nat := min 3600 (60 * 2 ^ min (failures - 1) 6)

/-- The message of an exception that may be shown. -/
def safeMessage (e : Exn) : String :=
  String.ofList ((if e.type = "RuntimeError" then e.message else e.type).toList.take 200)

/-- Report a failed run and exit. -/
def reportFailure (e : Exn) : HostProc Unit := do
  let now ← ask Reply.time
  report fun st =>
    { st with
      phase := "error"
      converged := false
      error := some (safeMessage e)
      failures := st.failures + 1
      failuresTotal := st.failuresTotal + 1
      nextRetry := now + backoffSecs (st.failures + 1) }
  raise ⟨"SystemExit", "1"⟩

/-- The `once` and `retry-now` commands of an enrolled host (Python `main`). -/
def runOnce (force : Bool) : HostProc Unit := do
  init
  handle (once m force) reportFailure

end Program

end NullifierPir.Updater
