import NullifierPir.Updater.Reconciler

/-!
# The installer

`deploy/pir-updater/install.py`: `defaults`, `recover_enrollment` and `install`. The two environment files are
parsed and checked as there; what systemd, the pinned verifier and the data directory answer is asked
from outside.
-/

namespace NullifierPir.Updater
open ByteString Killable
open Killable.Proc (act step look ask raise handle forEach poll)

def DROPIN : Path :=
  ["etc", "systemd", "system", "nullifier-query-server.service.d", "90-pir-updater.conf"]

def BINARY : Path := ["opt", "nf-ingest", "nf-server"]

/-- The generation that keeps the original server. -/
def initial : Path := generation "initial"

/-- One line of an environment file; `none` for a blank or a comment. -/
def defaultsLine (line : List Char) : Except Exn (Option (String × String)) :=
  if line = [] ∨ line.head? = some '#' then .ok none
  else
    let key := line.takeWhile (· ≠ '=')
    let value := (line.drop key.length).tail
    let quoted := value.head? = some '"' ∨ value.head? = some (Char.ofNat 39)
    if key.length = line.length ∨ quoted ∨ '\\' ∈ value then
      .error (runtimeError "unsupported environment file syntax; use plain KEY=value entries")
    else .ok (some (String.ofList key, String.ofList value))

/-- The entries of an environment file, in order (Python `defaults`). -/
def defaults : Option Bytes → Except Exn (List (String × String))
  | none => .ok []
  | some bytes =>
    match String.fromUTF8? ⟨bytes.toArray⟩ with
    | none => .error ⟨"UnicodeDecodeError", "invalid start byte"⟩
    | some text => do
      let entries ← (splitlines [] false text.toList).mapM defaultsLine
      return entries.filterMap id

/-- The last entry of a key. -/
def lookupKey (entries : List (String × String)) (key : String) : Option String :=
  (entries.reverse.find? fun e => e.1 = key).map Prod.snd

/-- Parts of a URL that `install` looks at. -/
structure ParsedUrl where
  scheme : String
  path : String
  query : String
  fragment : String
  username : String

/-- The text before the first `sep`, and after it. -/
def partitionAt (sep : Char) (cs : List Char) : List Char × List Char :=
  (cs.takeWhile (· ≠ sep), (cs.dropWhile (· ≠ sep)).tail)

/-- Python's `urllib.parse.urlparse`. -/
def urlparse (url : String) : ParsedUrl :=
  -- `urlsplit` strips leading control characters and blanks, and drops tabs and line breaks
  let cs := (url.toList.dropWhile fun c => c.toNat ≤ 32).filter fun c => !"\t\r\n".toList.contains c
  let scheme := (partitionAt ':' cs).1
  let hasScheme := decide (scheme.length < cs.length) &&
    (scheme.head?.any Char.isAlpha) && scheme.all fun c => c.isAlphanum || "+-.".toList.contains c
  let rest := if hasScheme then (partitionAt ':' cs).2 else cs
  let hasHost := "//".toList.isPrefixOf rest
  let afterSlashes := if hasHost then rest.drop 2 else rest
  let netloc := if hasHost then afterSlashes.takeWhile fun c => !"/?#".toList.contains c else []
  let tail := if hasHost then afterSlashes.drop netloc.length else rest
  let beforeFragment := (partitionAt '#' tail).1
  let path := (partitionAt '?' beforeFragment).1
  -- parameters are cut off the last segment
  let segment := (path.reverse.takeWhile (· ≠ '/')).reverse
  let path := path.take (path.length - segment.length) ++ (partitionAt ';' segment).1
  let userinfo := if netloc.contains '@' then
      ((netloc.reverse.dropWhile (· ≠ '@')).tail).reverse else []
  { scheme := String.ofList (if hasScheme then scheme.map Char.toLower else [])
    path := String.ofList path
    query := String.ofList (partitionAt '?' beforeFragment).2
    fragment := String.ofList (partitionAt '#' tail).2
    username := String.ofList (partitionAt ':' userinfo).1 }

/-- The directory before the last segment of a path: `path.split('/')[-2]`. -/
def scopeOf (path : String) : String :=
  if path.toList.contains '/' then
    String.ofList ((((path.toList.reverse.dropWhile (· ≠ '/')).tail).takeWhile (· ≠ '/')).reverse)
  else ""

/-- The configuration URL of an older host, from its voting configuration. -/
def legacyConfigUrl (legacy : String) : Option String :=
  if mentions legacy "/stage/" then some "https://voting.valargroup.dev/stage/pir.json"
  else if mentions legacy "/prod/" ∨
      legacy = "https://voting.valargroup.org/static-voting-config.json" then
    some "https://voting.valargroup.dev/prod/pir.json"
  else none

/-- `s.rstrip('/')`. -/
def stripSlashes (text : String) : String :=
  String.ofList (text.toList.reverse.dropWhile (· = '/')).reverse

/-- The settings that the environment of the host gives, and its data directory. -/
def enrollmentSettings (entries : List (String × String)) (timeout : Nat) :
    Except Exn (Settings × String) := do
  let env := lookupKey entries
  let network ← match env "SVOTE_ZCASH_NETWORK" with
    | some "main" => .ok "main"
    | some "test" => .ok "test"
    | _ => .error (runtimeError "installed Zcash network must be main or test")
  let url := match env "SVOTE_PIR_CONFIG_URL" with
    | some url => some url
    | none => legacyConfigUrl ((env "SVOTE_PIR_VOTING_CONFIG_URL").getD "")
  let parsed := urlparse (url.getD "")
  let scope := scopeOf parsed.path
  if parsed.scheme ≠ "https" ∨ scope ∉ ["prod", "stage"] ∨
      ¬ "/pir.json".toList.isSuffixOf parsed.path.toList ∨ parsed.query ≠ "" ∨ parsed.fragment ≠ "" ∨
      parsed.username ≠ "" then
    .error (runtimeError
      "configure an explicit HTTPS /prod/pir.json or /stage/pir.json URL before enrollment")
  else if ((env "SVOTE_PIR_FORCE_SNAPSHOT_HEIGHT").getD "") ≠ "" then
    .error (runtimeError "remove the forced snapshot override before enrollment")
  else
    .ok ({ scope := some scope
           network := some network
           configUrl := url
           snapshotBase := some (stripSlashes ((env "SVOTE_PIR_PRECOMPUTED_BASE_URL").getD
             "https://shielded-vote.nyc3.digitaloceanspaces.com"))
           binaryBase := some "https://shielded-vote.nyc3.digitaloceanspaces.com/binaries/vote-pir"
           timeoutSecs := some timeout },
      (env "SVOTE_PIR_DATA_DIR").getD ("/opt/nf-ingest/pir-data/" ++ network))

/-- The components of an absolute path, and its text. -/
def splitPath (text : String) : Path := (text.splitOn "/").filter (· ≠ "")

def Path.str (p : Path) : String := "/" ++ String.intercalate "/" p

def updaterServiceText : Bytes :=
  encode ("[Unit]\nDescription=Apply coordinator-authorized PIR updates\nWants=network-online.target\n" ++
    "After=network-online.target\n[Service]\nType=oneshot\n" ++
    "ExecStart=/usr/bin/python3 /opt/pir-updater/pir_updater.py once\nTimeoutStartSec=6h\nUMask=0022\n")

def updaterTimerText : Bytes :=
  encode ("[Unit]\nDescription=Check coordinator-authorized PIR updates\n[Timer]\nOnBootSec=60\n" ++
    "OnUnitInactiveSec=60\nRandomizedDelaySec=30\n[Install]\nWantedBy=timers.target\n")

/-- Continue with a value or raise. -/
def fromExcept {α : Type} : Except Exn α → HostProc α
  | .ok a => pure a
  | .error e => raise e

section Program

variable (m : Machine)

/-- Put the original server back. -/
def restoreServer (tx : Enrollment) : HostProc Unit := do
  systemctl ["stop", NAME]
  let backup ← expect (fileNotFound "nf-server") (← look (Host.nfServer m tx.binaryBackup.dropLast))
  step fun s => { s with binary := some (.file backup) }
  match tx.previousUnit with
  | some unit => step fun s => { s with service := some unit }
  | none => pure ()

/-- Put a drop-in back: the pin of a legacy server, or the one there was. -/
def restoreServerDropin (tx : Enrollment) : HostProc Unit := do
  match tx.previousTarget with
  | some (.legacy l) => do
    let text ← legacyDropin tx.binaryBackup (Host.nfServer m tx.binaryBackup.dropLast) l.dataDir
    step fun s => { s with dropin := some text }
  | _ => restoreDropin tx.previousDropin

/-- Wait for the restored server with the settings of the journal. -/
def waitRestored (tx : Enrollment) : HostProc Unit := do
  match tx.previousTarget with
  | some target => do
    init
    step fun s => { s with selfSettings := some { timeoutSecs := some (tx.timeoutSecs.getD 600) } }
    wait m target
  | none => pure ()

/-- Restore the serving path of a host whose activation had begun. -/
def restoreActivation (tx : Enrollment) : HostProc Unit := do
  restoreServer m tx
  restoreServerDropin m tx
  startService
  waitRestored m tx

/-- Remove the updater's files; the journal goes last but for the link. -/
def removeUpdater : HostProc Unit := do
  systemctl ["disable", "--now", "pir-updater.timer"]
  step fun s => { s with updaterService := none }
  step fun s => { s with updaterTimer := none }
  step fun s => { s with binaryManaged := none }
  step fun s => { s with transaction := none }
  systemctl ["daemon-reload"]
  syncDirectory
  syncDirectory
  step fun s => { s with settings := none }
  syncDirectory
  step fun s => { s with enrollment := none }
  syncDirectory
  step fun s => { s with current := none }
  syncDirectory

/-- Before activation the serving path has not changed. -/
def restoreIfStarted (tx : Enrollment) : HostProc Unit :=
  if tx.activationStarted.getD true then restoreActivation m tx else pure ()

/-- Undo an interrupted enrollment (Python `recover_enrollment`). -/
def recoverEnrollment : HostProc Unit := do
  match ← look Host.enrollment with
  | none => pure ()
  | some tx => do
    restoreIfStarted m tx
    removeUpdater

/-- The captured state of the running server, and the drop-in that pins it. -/
def captureServer (network data : String) : HostProc (Bytes × LegacyTarget × Bytes) := do
  let dropins ← ask Reply.dropInPaths
  let protocol ← ask Reply.pirUpdateProtocol
  if protocol = 1 then do
    match ← look Host.binary with
    | some (.file bytes) => do
      let height ← ask Reply.pirRootHeight
      let rootNetwork ← ask Reply.pirRootNetwork
      if rootNetwork = network ∧ 0 < height then do
        let pid ← ask Reply.pid
        if 0 < pid then do
          let exe ← ask Reply.exe
          if m.sha256 bytes = m.sha256 exe then do
            let pin ← legacyDropin BINARY (Host.readBinary m) data
            let dropin ← look Host.dropin
            -- only the installer's own recovery override is absorbed
            if dropins ≠ [] ∧ ¬ (dropins = [DROPIN] ∧ dropin = some pin) then
              raise (runtimeError "custom systemd overrides require manual migration before enrollment")
            else do
              let root ← ask Reply.pirRoot
              pure (bytes, ⟨m.sha256 bytes, m.sha256 exe, m.sha256 root, data, height⟩, pin)
          else raise (runtimeError
            "running and installed server executable differ; reconcile before enrollment")
        else raise (runtimeError "existing PIR service must be running")
      else raise (runtimeError "configured snapshot has an invalid network or height")
    | _ => raise (runtimeError "expected an unmanaged regular nf-server executable")
  else raise (runtimeError "bootstrap verifier does not support PIR updates")

/-- Keep the original server in the first generation. -/
def saveInitial (previous : LegacyTarget) : HostProc Unit := do
  step fun s => if (s.dir m initial).isSome then s else s.setDir m initial (some {})
  syncDirectory
  syncDirectory
  let bytes ← expect (fileNotFound "nf-server") (← look (Host.readBinary m))
  step fun s => s.modifyDir m initial fun g => { g with nfServer := some bytes }
  step fun s => s.modifyDir m initial fun g => { g with data := none }
  step fun s => s.modifyDir m initial fun g => { g with data := some (.link (splitPath previous.dataDir)) }
  step fun s => s.modifyDir m initial fun g => { g with target := some (.legacy previous) }

/-- The journal, before anything on the serving path changes. -/
def writeEnrollment (previous : LegacyTarget) (timeout : Nat) : HostProc Enrollment := do
  let unit ← expect (fileNotFound "nullifier-query-server.service") (← look Host.service)
  let tx : Enrollment := ⟨initial ++ ["nf-server"], some (.legacy previous), some unit, none, some false,
    some timeout⟩
  step fun s => { s with enrollment := some tx }.emit (.captured previous)
  pure tx

/-- Stage the signed target while the original server keeps serving. -/
def stageFirst (settings : Settings) (previous : LegacyTarget) : HostProc Path := do
  step fun s => { s with settings := some settings }
  init
  if ← matchesTarget m (.legacy previous) then do
    report fun st => { st with phase := "checking", converged := false }
    let first ← target m
    report fun st => { st with phase := "staging", desiredId := some first.1 }
    let candidate ← stage m first.1 first.2
    let latest ← target m
    if latest.1 = first.1 then do
      if ← matchesTarget m (.legacy previous) then pure candidate
      else raise (runtimeError "original server changed during staging")
    else raise (runtimeError "signed target changed during staging; rerun the installer")
  else raise (runtimeError "existing PIR service is not ready")

/-- Schedule recovery and pin the original server, then record that activation begins. -/
def armRecovery (tx : Enrollment) (pin : Bytes) : HostProc Unit := do
  switch m initial
  step fun s => { s with updaterService := some updaterServiceText }
  step fun s => { s with updaterTimer := some updaterTimerText }
  systemctl ["daemon-reload"]
  systemctl ["enable", "--now", "pir-updater.timer"]
  step fun s => { s with dropin := some pin }
  systemctl ["daemon-reload"]
  step fun s => { s with enrollment := some { tx with activationStarted := some true } }

/-- Replace the executable by the managed link. -/
def swapExecutable : HostProc Unit := do
  step fun s => { s with binaryManaged := none }
  step fun s => { s with binaryManaged := some managedLink }
  step fun s => { s with binary := s.binaryManaged.map .link, binaryManaged := none }
  syncDirectory

/-- The line of the release unit that enrollment requires. -/
def execStartLine : Bytes := encode "ExecStart=/opt/nf-ingest/nf-server serve --port 3000\n"

/-- Check the host: the settings, the data directory, and the unit's command. -/
def checkHost (timeout : Nat) : HostProc (Settings × String) := do
  let base ← ask Reply.defaults
  let env ← look Host.env
  let entries ← fromExcept (do return (← defaults base) ++ (← defaults env))
  let settings ← fromExcept (enrollmentSettings entries timeout)
  let unit ← expect (fileNotFound "nullifier-query-server.service") (← look Host.service)
  if execStartLine <:+: unit then
    pure (settings.1, Path.str (m.resolve (splitPath settings.2)))
  else raise (runtimeError "unsupported custom ExecStart; restore the release unit before enrollment")

/-- Enroll a host that is not enrolled. -/
def enroll (timeout : Nat) : HostProc Unit := do
  let settings ← checkHost m timeout
  let captured ← captureServer m (settings.1.network.getD "") settings.2
  saveInitial m captured.2.1
  let tx ← writeEnrollment captured.2.1 timeout
  let candidate ← stageFirst m settings.1 captured.2.1
  armRecovery m tx captured.2.2
  swapExecutable
  activate m candidate
  report fun st =>
    { st with phase := "current", converged := true, error := none, failures := 0, nextRetry := 0 }
  step fun s => { s with enrollment := none }.emit .enrolled
  syncDirectory

/-- Reconcile a host that is enrolled already. -/
def rerun : HostProc Unit := do
  init
  once m true
  if ← look fun s => s.selfStatus.converged then systemctl ["enable", "--now", "pir-updater.timer"]
  else raise (runtimeError "target changed during staging; rerun the installer")

/-- Python `install`. -/
def install (timeout : Nat) : HostProc Unit := do
  syncDirectory
  syncDirectory
  recoverEnrollment m
  if ← look fun s => s.settings.isSome then rerun m else enroll m timeout

end Program

end NullifierPir.Updater
