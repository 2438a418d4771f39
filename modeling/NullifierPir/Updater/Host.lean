import NullifierPir.Lib.Killable
import NullifierPir.Lib.Bytes

/-!
# The managed host

The files of a host that `deploy/pir-updater` changes, as one record: the `current` link, the unit, its
drop-in, the environment file, the two journals, the updater's own units, the installed executable
and the generation directories. `atomic` writes to a temporary file and renames it over the
destination, so a file here changes in one step and its temporary file is left out. JSON files hold
the value they encode.

`Event` records what happens in a run and shows in no file: executed files, accepted targets, passed
readiness checks, started activations, switches and journal writes.
-/

namespace NullifierPir.Updater
open ByteString Killable

/-- An absolute path by its components. -/
abbrev Path := List String

/-- Last component. -/
def Path.name (p : Path) : String := p.getLast?.getD ""

def ROOT : Path := ["opt", "pir-updater"]

/-- Path of a generation directory. -/
def generation (name : String) : Path := ["opt", "pir-updater", "generations", name]

/-- Each name has a directory of its own. -/
lemma generation_injective {a b : String} (h : generation a = generation b) : a = b := by
  simpa [generation] using h

def NAME : String := "nullifier-query-server.service"

/-- The exceptions of the updater: the type's name and the message. -/
structure Exn where
  type : String
  message : String

def runtimeError (message : String) : Exn := ⟨"RuntimeError", message⟩

def valueError (message : String) : Exn := ⟨"ValueError", message⟩

/-- `pir.json`. -/
structure Config where
  schemaVersion : Nat
  snapshotHeight : Nat
  binaryTag : String
  deriving DecidableEq

/-- The signed payload. -/
structure Payload where
  configSha256 : String
  linuxAmd64Sha256 : String
  linuxArm64Sha256 : String
  snapshotManifestSha256 : String
  serviceSha256 : String
  deriving DecidableEq

/-- What the pinned verifier prints for an accepted update. -/
structure Verified where
  config : Config
  payload : Payload
  deriving DecidableEq

/-- The captured state of a server that was not installed by the updater. -/
structure LegacyTarget where
  legacyBinarySha256 : String
  runningExeSha256 : String
  rootSha256 : String
  dataDir : String
  snapshotHeight : Nat
  deriving DecidableEq

/-- `target.json`. A legacy record is told by its `legacy_binary_sha256` key. -/
inductive Target where
  | config (c : Config)
  | legacy (l : LegacyTarget)
  deriving DecidableEq

/-- The `data` entry of a generation. -/
inductive Snapshot where
  | staged (files : List (String × Bytes))
  | link (dir : Path)
  deriving DecidableEq

/-- A generation directory. -/
structure Generation where
  nfServer : Option Bytes := none
  service : Option Bytes := none
  target : Option Target := none
  data : Option Snapshot := none
  deriving DecidableEq

/-- The entries `rmtree` has not reached yet. -/
structure Kept where
  nfServer : Bool := false
  service : Bool := false
  target : Bool := false
  data : Bool := false

def Generation.keep (g : Generation) (k : Kept) : Generation where
  nfServer := if k.nfServer then g.nfServer else none
  service := if k.service then g.service else none
  target := if k.target then g.target else none
  data := if k.data then g.data else none

/-- `transaction.json`. The unit, drop-in and environment are stored in base64; a journal without a
`previous_dropin` key is one of an older updater. -/
structure Transaction where
  previous : Path
  target : Path
  previousUnit : Bytes
  previousTarget : Option Target
  previousDropin : Option (Option Bytes)
  previousEnv : Option Bytes
  deriving DecidableEq

/-- `enrollment.json`. -/
structure Enrollment where
  binaryBackup : Path
  previousTarget : Option Target
  previousUnit : Option Bytes
  previousDropin : Option Bytes
  activationStarted : Option Bool
  timeoutSecs : Option Nat
  deriving DecidableEq

/-- `settings.json`. -/
structure Settings where
  scope : Option String := none
  network : Option String := none
  configUrl : Option String := none
  snapshotBase : Option String := none
  binaryBase : Option String := none
  timeoutSecs : Option Nat := none
  deriving DecidableEq

/-- `status.json`, without the fields that are only reported. -/
structure Status where
  enabled : Bool := false
  phase : String := ""
  converged : Bool := false
  desiredId : Option String := none
  nextRetry : Nat := 0
  failures : Nat := 0
  failuresTotal : Nat := 0
  rollbacks : Nat := 0
  error : Option String := none
  deriving DecidableEq

/-- The installed executable. -/
inductive Executable where
  | file (bytes : Bytes)
  | link (dest : Path)
  deriving DecidableEq

/-- Where `install` points the installed executable. -/
def managedLink : Path := ROOT ++ ["current", "nf-server"]

/-- What a run does besides changing files. -/
inductive Event where
  | systemctl (args : List String)
  | run (program : Path) (file : Option Bytes) (args : List String)
  | accepted (v : Verified)
  | ready (target : Target)
  | activating (path : Path) (pending : Option Transaction)
  | journaled (tx : Transaction) (previous : Option Generation)
  | switched (path : Path) (files : Option Generation)
  | released (tag : String)
  | envRestored
  | committed (path : Path)
  | captured (l : LegacyTarget)
  | enrolled
  deriving DecidableEq

/-- A host. `self` is the running `Reconciler`. -/
structure Host where
  current : Option Path := none
  currentNew : Option Path := none
  service : Option Bytes := none
  dropin : Option Bytes := none
  env : Option Bytes := none
  transaction : Option Transaction := none
  previousJson : Option Path := none
  enrollment : Option Enrollment := none
  settings : Option Settings := none
  status : Status := {}
  updaterService : Option Bytes := none
  updaterTimer : Option Bytes := none
  binary : Option Executable := none
  binaryManaged : Option Path := none
  dirs : Path → Option Generation := fun _ => none
  selfSettings : Option Settings := none
  selfStatus : Status := {}
  log : List Event := []

def hexDigits : List Char :=
  ['0', '1', '2', '3', '4', '5', '6', '7', '8', '9', 'a', 'b', 'c', 'd', 'e', 'f']

/-- What does not change on a host: the other links of the file system, which `Path.resolve` follows and
none of which makes two generations one directory, SHA-256 in hexadecimal, the JSON printer, the parser
of a snapshot manifest and the architecture. -/
structure Machine where
  resolve : Path → Path
  resolve_resolve : ∀ p, resolve (resolve p) = resolve p
  resolve_generation : ∀ a b, resolve (generation a) = resolve (generation b) → a = b
  sha256 : Bytes → String
  sha256_hex : ∀ bs, ∀ c ∈ (sha256 bs).toList, c ∈ hexDigits
  dumps : Verified → String
  manifestSizes : Bytes → Option (List Int)
  machine : String

/-- An HTTP response: the URL after redirects and the chunks read. -/
structure Response where
  url : String := ""
  chunks : List Bytes := []

/-- `/metadata`. -/
structure Metadata where
  releaseTag : String := ""
  snapshotHeight : Nat := 0
  zcashNetwork : String := ""

/-- What the outside world answers; each step reads the part it asks for. -/
structure Reply where
  time : Nat := 0
  ready : Bool := true
  metadata : Metadata := {}
  pid : Nat := 0
  exe : Bytes := []
  pirRoot : Bytes := []
  pirRootHeight : Nat := 0
  pirRootNetwork : String := ""
  help : String := ""
  releaseTag : String := ""
  pirUpdateProtocol : Nat := 0
  verified : Verified := ⟨⟨0, 0, ""⟩, ⟨"", "", "", "", ""⟩⟩
  response : Response := {}
  diskFree : Nat := 0
  snapshot : Snapshot := .staged []
  names : List String := []
  kept : Kept := {}
  dropInPaths : List Path := []
  defaults : Option Bytes := none

/-- Procedures of the updater. -/
abbrev HostProc := Proc Host Reply Exn

/-- Add an event to the log. -/
def Host.emit (s : Host) (e : Event) : Host := { s with log := s.log ++ [e] }

section Paths

variable (m : Machine)

/-- The directory `ROOT/current` resolves to. -/
def Host.resolveCurrent (s : Host) : Path :=
  match s.current with
  | some p => m.resolve p
  | none => ROOT ++ ["current"]

/-- The directory at a path. -/
def Host.dir (s : Host) (p : Path) : Option Generation := s.dirs (m.resolve p)

/-- The target of the current generation; there is none without a link. -/
def Host.currentTarget (s : Host) : Option Target :=
  s.current.bind fun _ => (s.dir m (s.resolveCurrent m)).bind Generation.target

def Host.setDir (s : Host) (p : Path) (g : Option Generation) : Host :=
  { s with dirs := Function.update s.dirs (m.resolve p) g }

/-- The bytes that opening the installed executable reads. -/
def Host.readBinary (s : Host) : Option Bytes :=
  match s.binary with
  | some (.file bytes) => some bytes
  | some (.link dest) =>
    if dest = managedLink then (s.dir m (s.resolveCurrent m)).bind Generation.nfServer else none
  | none => none

end Paths

/-- The UTF-8 bytes of a text. -/
def encode (text : String) : Bytes := text.toUTF8.data.toList

/-- A line boundary of Python's `str.splitlines`. -/
def isLineBreak (c : Char) : Bool :=
  decide (c.toNat ∈ [0x0a, 0x0b, 0x0c, 0x0d, 0x1c, 0x1d, 0x1e, 0x85, 0x2028, 0x2029])

/-- Python's `str.splitlines`; `line` is the line being read, `cr` whether a carriage return has just
ended one. -/
def splitlines (line : List Char) (cr : Bool) : List Char → List (List Char)
  | [] => if line = [] then [] else [line]
  | c :: cs =>
    if cr && c.toNat == 0x0a then splitlines line false cs
    else if isLineBreak c then line :: splitlines [] (c.toNat == 0x0d) cs
    else splitlines (line ++ [c]) false cs

/-- The lines that `set_release` writes. -/
def releaseLines (tag : String) (text : String) : List String :=
  ((splitlines [] false text.toList).filter fun line => !"SENTRY_RELEASE=".toList.isPrefixOf line).map
    String.ofList ++ ["SENTRY_RELEASE=" ++ tag]

/-- The environment file with `SENTRY_RELEASE` pointed at `tag`; `none` if it is not UTF-8. -/
def releaseText (tag : String) (env : Bytes) : Option Bytes :=
  (String.fromUTF8? ⟨env.toArray⟩).map fun text =>
    encode (String.intercalate "\n" (releaseLines tag text) ++ "\n")

/-- The drop-in of a managed host (Python `managed_dropin`). -/
def managedDropin : Bytes :=
  encode ("[Service]\nExecStart=\nExecStart=/opt/nf-ingest/nf-server serve --port 3000 " ++
    "--pir-data-dir /opt/pir-updater/current/data --pir-config-url= --voting-config-url=\n")

/-- One character of a JSON string, as `json.dumps` with `ensure_ascii=False` prints it. -/
def jsonChar (c : Char) : String :=
  if c = '"' then "\\\""
  else if c = '\\' then "\\\\"
  else if c = '\n' then "\\n"
  else if c = '\r' then "\\r"
  else if c = '\t' then "\\t"
  else if c.toNat = 0x0c then "\\f"
  else if c.toNat = 0x08 then "\\b"
  else if c.toNat < 0x20 then
    "\\u00" ++ String.ofList [Nat.digitChar (c.toNat / 16), Nat.digitChar (c.toNat % 16)]
  else c.toString

/-- The data directory as one systemd argument: quoted, with specifiers and variables escaped. -/
def dataArg (data : String) : String :=
  "\"" ++ String.join (data.toList.map fun c =>
    if c = '%' then "%%" else if c = '$' then "$$" else jsonChar c) ++ "\""

/-- Does a help text mention a flag? -/
def mentions (help flag : String) : Bool := decide (flag.toList <:+: help.toList)

/-- The drop-in that pins a legacy server to its local data, from its help text
(Python `legacy_dropin`). -/
def legacyDropinText (help data : String) : Except Exn Bytes :=
  if mentions help "--pir-data-dir" && mentions help "--voting-config-url" then
    let flags := if mentions help "--pir-config-url" then " --pir-config-url=" else ""
    .ok (encode ("# PIR updater legacy recovery: keep remote snapshot discovery disabled.\n" ++
      "[Service]\nExecStart=\nExecStart=/opt/nf-ingest/nf-server serve --port 3000 " ++
      "--pir-data-dir " ++ dataArg data ++ " --voting-config-url=" ++ flags ++ "\n"))
  else .error (runtimeError "legacy server cannot disable snapshot discovery safely")

end NullifierPir.Updater
