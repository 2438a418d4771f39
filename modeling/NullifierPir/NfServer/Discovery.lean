import NullifierPir.Lib.Utf8
import NullifierPir.NfServer.Bootstrap
import NullifierPir.NfServer.VerifyRoot

/-!
# Snapshot height discovery

Port of `nf-server/src/pir_config.rs` and `voting_config.rs`: which document names the snapshot height
of a host, and the height it names. `Servers` is what the config and vote servers answer, request by
request; the JSON decoders are parameters.
-/

namespace NullifierPir.NfServer
open Rust ByteString Utf8 NullifierPir.Types

def DEFAULT_PROD_PIR_CONFIG_URL : String := "https://voting.valargroup.dev/prod/pir.json"
def DEFAULT_STAGE_PIR_CONFIG_URL : String := "https://voting.valargroup.dev/stage/pir.json"

/-! ### Source of the height -/

/-- Where the height comes from (Rust `pir_config::Source`). -/
inductive Source where
  | disabled
  | url (url : String) (strict : Bool)
  | fallbackToVotingConfig (reason : String)
  deriving DecidableEq

def trimUrl (url : String) : String := String.ofList (trimEndMatches '/' (trim url.toList))

/-- Rust `str::to_ascii_lowercase`. -/
def toAsciiLowercase (s : String) : Text := s.toList.map Char.toLower

def isStageUrl (url : String) : Bool :=
  let lower := toAsciiLowercase url
  contains lower "/stage/".toList || contains lower "stage/static-voting-config".toList

def isProdUrl (url : String) : Bool :=
  let lower := toAsciiLowercase url
  contains lower "/prod/".toList ||
    lower == "https://voting.valargroup.org/static-voting-config.json".toList ||
    lower == "https://voting.valargroup.org/prod/static-voting-config.json".toList

/-- The source an old host configuration stands for. -/
def derivedSource (votingConfigUrl : String) : Source :=
  if votingConfigUrl.isEmpty then .disabled
  else if isStageUrl votingConfigUrl then .url DEFAULT_STAGE_PIR_CONFIG_URL false
  else if isProdUrl votingConfigUrl then .url DEFAULT_PROD_PIR_CONFIG_URL false
  else .fallbackToVotingConfig
    ("could not infer PIR config environment from " ++ votingConfigUrl)

/-- Rust `resolve_source`. -/
def resolveSource (explicitPirConfigUrl : Option String) (votingConfigUrl : String) : Rust Source :=
  match explicitPirConfigUrl with
  | some url =>
    if (trimUrl url).isEmpty then .ok .disabled else .ok (.url (trimUrl url) true)
  | none => .ok (derivedSource (trimUrl votingConfigUrl))

/-! ### Heights -/

/-- A number, or its decimal text. -/
inductive JsonU64 where
  | number (n : Nat)
  | string (s : String)

/-- Rust `str::parse::<u64>`. -/
def parseU64 (s : String) : Except String Nat :=
  let digits := if s.toList.head? = some '+' then s.toList.tail else s.toList
  if s.isEmpty then .error "cannot parse integer from empty string"
  else if digits.isEmpty || !digits.all Char.isDigit then .error "invalid digit found in string"
  else
    let n := digits.foldl (fun n c => 10 * n + (c.toNat - '0'.toNat)) 0
    if n < U64 then .ok n else .error "number too large to fit in target type"

/-- Rust `JsonU64::parse`. -/
def JsonU64.parse : JsonU64 → Rust Nat
  | .number n => .ok n
  | .string s => context ("parse snapshot_height " ++ reprStr s) (ofResult (parseU64 s))

structure PirSnapshotConfig where
  schemaVersion : Nat
  snapshotHeight : JsonU64

structure ServiceDiscoveryConfig where
  voteServers : List String
  dynamicConfigUrl : Option String
  staticConfigVersion : Option Nat

/-- The height of the active round, if there is a round and it has one. -/
structure ActiveRoundResponse where
  round : Option (Option JsonU64)

/-- Answers of the config and vote servers to the requests of one call. -/
structure Servers where
  buildClient : Except String Unit
  send : Nat → String → Except String Response
  decodePirConfig : Bytes → Except String PirSnapshotConfig
  decodeServiceDiscovery : Bytes → Except String ServiceDiscoveryConfig
  decodeActiveRound : Bytes → Except String ActiveRoundResponse

/-- Body of a response, decoded. -/
def readJson {α : Type} (decode : Bytes → Except String α) (response : Response) : Rust α :=
  response.broken.elim (ofResult (decode response.chunks.flatten)) bail

variable (servers : Servers)

/-- Rust `pir_config::fetch_required_snapshot_height`. -/
def fetchRequiredSnapshotHeight (url : String) (expectedNetwork : ZcashNetwork) : Rust Nat := do
  context "build reqwest client" (ofResult servers.buildClient)
  let response ← context ("GET " ++ url) (ofResult (servers.send 0 url))
  context ("GET " ++ url ++ " (non-2xx)") (errorForStatus url response)
  let cfg ← context ("decode " ++ url ++ " as PIR snapshot config")
    (readJson servers.decodePirConfig response)
  ensure (cfg.schemaVersion == 1)
    ("pir config schema_version = " ++ toString cfg.schemaVersion ++ " (only 1 is supported)")
  let height ← cfg.snapshotHeight.parse
  validateExportHeight height expectedNetwork
  return height

/-- Rust `fetch_discovery_config`. -/
def fetchDiscoveryConfig (request : Nat) (url : String) : Rust ServiceDiscoveryConfig := do
  let response ← context ("GET " ++ url) (ofResult (servers.send request url))
  context ("GET " ++ url ++ " (non-2xx)") (errorForStatus url response)
  context ("decode " ++ url ++ " as voting service-discovery config")
    (readJson servers.decodeServiceDiscovery response)

/-- Rust `configured_vote_servers`. -/
def configuredVoteServers (cfg : ServiceDiscoveryConfig) (url : String) : Rust (List String) := do
  let voteServers := (cfg.voteServers.map fun entry =>
    String.ofList (trimEndMatches '/' entry.toList)).filter fun server => !server.isEmpty
  ensure (!voteServers.isEmpty) ("dynamic voting-config at " ++ url ++ " has no vote_servers")
  return voteServers

/-- Rust `resolve_vote_servers`. -/
def resolveVoteServers (url : String) : Rust (List String) := do
  let cfg ← fetchDiscoveryConfig servers 1 url
  match cfg.dynamicConfigUrl with
  | some dynamicUrl =>
    let dynamicUrl := String.ofList (trim dynamicUrl.toList)
    ensure (!dynamicUrl.isEmpty)
      ("static voting-config at " ++ url ++ " has an empty dynamic_config_url")
    configuredVoteServers (← fetchDiscoveryConfig servers 2 dynamicUrl) dynamicUrl
  | none =>
    if cfg.staticConfigVersion.isSome then
      context ("static voting-config at " ++ url ++ " has no dynamic_config_url")
        (configuredVoteServers cfg url)
    else
      context ("voting-config at " ++ url ++ " is not usable") (configuredVoteServers cfg url)

/-- Rust `fetch_vote_server_active_snapshot_height`. -/
def fetchVoteServerActiveSnapshotHeight (request : Nat) (voteServer : String) :
    Rust (Option Nat) := do
  let activeUrl := voteServer ++ "/shielded-vote/v1/rounds/active"
  let response ← context ("GET " ++ activeUrl) (ofResult (servers.send request activeUrl))
  if response.status = 404 then return none
  context ("GET " ++ activeUrl ++ " (non-2xx)") (errorForStatus activeUrl response)
  let active ← context ("decode " ++ activeUrl ++ " as active round")
    (readJson servers.decodeActiveRound response)
  match active.round.join with
  | none => return none
  | some height => return some (← height.parse)

/-- Ask the vote servers in turn until one names a height. -/
def askVoteServers : Nat → List String → Bool → Option String → Rust (Option Nat)
  | _, [], sawNoActiveRound, firstError =>
    if sawNoActiveRound then .ok none else firstError.elim (.ok none) bail
  | request, voteServer :: voteServers, sawNoActiveRound, firstError =>
    match fetchVoteServerActiveSnapshotHeight servers request voteServer with
    | .ok (some height) => .ok (some height)
    | .ok none => askVoteServers (request + 1) voteServers true firstError
    | .error (.err e) =>
      askVoteServers (request + 1) voteServers sawNoActiveRound (firstError.or (some e))
    | .error fault => .error fault

/-- Rust `fetch_voting_snapshot_height`. -/
def fetchVotingSnapshotHeight (url : String) : Rust (Option Nat) := do
  context "build reqwest client" (ofResult servers.buildClient)
  askVoteServers servers 3 (← resolveVoteServers servers url) false none

end NullifierPir.NfServer
