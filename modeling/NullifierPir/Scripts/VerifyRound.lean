import Mathlib
import NullifierPir.Lib.PyJson

/-!
# The round verifier

`scripts/verify_round_imt.py` asks `svoted` for a voting round, rebuilds the tree of the round's Zcash
snapshot with `nf-server` and compares the rebuilt circuit root with the one on chain. Everything
the tools and the file system answer is a parameter (`World`): a run asks at most once at each `Step`,
and the answers are arbitrary. A dictionary that leaves `verify` as verified has passed every check
(`verify_reports_only_matches`).
-/

namespace NullifierPir.VerifyRound

open PyJson

/-- Python exceptions; the script catches only `VerificationError` by itself. -/
inductive Exn where
  | verification (message : Str)
  | other

/-- A Python computation. -/
abbrev Py := Except Exn

section

variable {α β : Type}

/-- `raise VerificationError(message)`. -/
def fail (message : Str) : Py α := .error (.verification message)

/-- `if not c: raise VerificationError(message)`. -/
def ensure (c : Bool) (message : Str) : Py Unit := if c then .ok () else fail message

/-- Both parts of a good result are good. -/
lemma bind_eq_ok {x : Py α} {f : α → Py β} {b : β} :
    (x >>= f) = .ok b ↔ ∃ a, x = .ok a ∧ f a = .ok b := by
  cases x with
  | ok a => simp [bind, Except.bind]
  | error e => simp [bind, Except.bind]

/-- A check passes exactly when its condition holds. -/
@[simp] lemma ensure_eq_ok {c : Bool} {message : Str} {u : Unit} :
    ensure c message = .ok u ↔ c = true := by
  cases c <;> simp [ensure, fail]

/-- A loop of checks passes if each of them does. -/
lemma forM_eq_ok {xs : List α} {f : α → Py Unit} (ok : xs.forM f = .ok ()) :
    ∀ x ∈ xs, f x = .ok () := by
  induction xs with
  | nil => simp
  | cons x xs ih =>
    obtain ⟨u, hx, ok⟩ := bind_eq_ok.mp ok
    intro y hy
    cases hy with
    | head => exact hx
    | tail _ hy => exact ih ok y hy

end

/-- Zcash networks of `--zcash-network`. -/
inductive Network where
  | main
  | test
  deriving DecidableEq

/-- Choices of `--mode`. -/
inductive Mode where
  | pirSync
  | rawBlocks
  deriving DecidableEq

/-- The text of a network. -/
def Network.text : Network → Str
  | .main => lit "main"
  | .test => lit "test"

/-- The text of a mode. -/
def Mode.text : Mode → Str
  | .pirSync => lit "pir-sync"
  | .rawBlocks => lit "raw-blocks"

/-- Options of the script that `verify` reads. -/
structure Args where
  voteNode : Str
  voteChainId : Str
  roundId : Option Str
  zcashNetwork : Network
  mode : Mode
  lwdUrl : Option Str
  trustedBlockHash : Option Str
  blockRpcUrl : Option Str
  blockRpcCookieFile : Option Str
  svoted : Str
  nfServer : Str
  inspect : Bool

/-- Decoding of a text by `json.loads`: a value, a `ValueError` (or the text could not be read), or
another exception such as `RecursionError`. -/
inductive Decoded where
  | json (value : Json)
  | invalid
  | raised

/-- How `subprocess.run` ends; `stderr` has the lines of a captured standard error. -/
inductive Proc where
  | osError
  | raised
  | exited (returncode : Int) (stdout : Decoded) (stderr : List Str)

/-- The points where `verify` runs a tool through `invoke`. -/
inductive Step where
  | select
  | buildInfo
  | rebuild
  | recheck
  | refresh
  deriving DecidableEq

/-- What the tools and the file system answer to a run. -/
structure World where
  /-- A tool run through `invoke`. -/
  run : Step → List Str → Proc
  /-- The environment of the script. -/
  environ : List (Str × Str)
  /-- `nf-server sync` with its environment, whose output is not captured. -/
  sync : List Str → List (Str × Str) → Proc
  /-- Creation of the temporary directory. -/
  tempdir : Py Str
  /-- Removal of the temporary directory. -/
  cleanup : Py Unit
  /-- `pir_root.json` of a directory. -/
  pirRoot : Str → Decoded
  /-- The resolved path of a command (`shutil.which`). -/
  which : Str → Option Str
  /-- SHA-256 of the file at a path, in hex. -/
  sha256 : Str → Py Str
  /-- Printing of the progress line of a round. -/
  announce : Dict → Mode → Py Unit

/-- Python's truth value of an optional string. -/
def truthy : Option Str → Bool
  | some s => s != []
  | none => false

/-- An optional string that is there. -/
def text (s : Option Str) : Str := s.getD []

/-- A string that has been checked to be one. -/
def asStr : Json → Str
  | .str s => s
  | _ => []

/-- Digits of an integer that has been checked to be one. -/
def digits : Json → Str
  | .int n => lit (toString n)
  | _ => []

/-- Last component of a path (Python `Path(path).name`). -/
def pathName (path : Str) : Str :=
  ((path.splitOn 47).filter fun part => part != [] && part != lit ".").getLastD []

/-- The fields by which two queries of a round are compared (Python `IDENTITY_FIELDS`). -/
def IDENTITY_FIELDS : List Str :=
  [lit "chain_id", lit "round_id", lit "created_at_height", lit "snapshot_height",
    lit "snapshot_blockhash", lit "proposals_hash", lit "vote_end_time", lit "nullifier_imt_root",
    lit "nc_root"]

/-- The fields of a round that are 32 bytes in hex (Python `HEX_FIELDS`). -/
def HEX_FIELDS : List Str :=
  [lit "round_id", lit "snapshot_blockhash", lit "proposals_hash", lit "nullifier_imt_root",
    lit "nc_root"]

/-- The fields of a round that are positive `u64` values. -/
def HEIGHT_FIELDS : List Str := [lit "created_at_height", lit "snapshot_height", lit "vote_end_time"]

/-- The character class `[0-9a-f]`. -/
def isLowerHex (c : Nat) : Bool := (48 ≤ c && c ≤ 57) || (97 ≤ c && c ≤ 102)

/-- A string that `[0-9a-f]{64}` matches whole. -/
def hex64 : Json → Bool
  | .str s => s.length == 64 && s.all isLowerHex
  | _ => false

/-- An integer, not a boolean, from 1 to the largest `u64`. -/
def isHeight : Json → Bool
  | .int n => decide (0 < n) && decide (n ≤ 2 ^ 64 - 1)
  | _ => false

/-- The error of a tool whose output is no JSON: the round selector's own, or a general one. -/
def outputError (command : List Str) (stderr : List Str) : Str :=
  match stderr.find? fun line => (lit "Error: no registered voting rounds").isPrefixOf line ||
      (lit "Error: multiple rounds at latest creation height").isPrefixOf line with
  | some line => line.drop (lit "Error: ").length
  | none => pathName (command.headD []) ++ lit " did not return a completed JSON result."

/-- Run a tool and decode its output (Python `invoke`). -/
def invoke (w : World) (step : Step) (command : List Str) : Py (Int × Dict) :=
  match w.run step command with
  | .osError =>
    fail (lit "Unable to run " ++ pathName (command.headD []) ++
      lit ". Check the installed tool and path.")
  | .raised => .error .other
  | .exited returncode stdout stderr =>
    match stdout with
    | .raised => .error .other
    -- The standard error of the rebuild is not captured.
    | .invalid => fail (outputError command (if step = .rebuild then [] else stderr))
    | .json (.obj result) => .ok (returncode, result)
    | .json _ => fail (lit "Tool output must be a JSON object.")

/-- The command of a round query. -/
def roundCommand (args : Args) (roundId : Option Str) : List Str :=
  [args.svoted, lit "query", lit "vote", lit "verify-round"] ++
    (if truthy roundId then [text roundId] else [lit "--latest"]) ++
    [lit "--node", args.voteNode, lit "--expected-chain-id", args.voteChainId, lit "--output",
      lit "json"]

/-- Query a round and check its identity (Python `query_round`). -/
def queryRound (args : Args) (w : World) (step : Step) (roundId : Option Str) : Py Dict := do
  let (code, result) ← invoke w step (roundCommand args roundId)
  ensure (code == 0 && result.get (lit "round_id_matches") matches .bool true)
    (lit "The round-ID binding check failed.")
  ensure ((result.get (lit "chain_id")).eq (.str args.voteChainId))
    (lit "The voting node returned a different chain.")
  HEX_FIELDS.forM fun field =>
    ensure (hex64 (result.get field)) (lit "Round query returned an invalid " ++ field ++ lit ".")
  HEIGHT_FIELDS.forM fun field =>
    ensure (isHeight (result.get field)) (lit "Round query returned an invalid " ++ field ++ lit ".")
  ensure ((result.get (lit "computed_round_id")).eq (result.get (lit "round_id")) &&
      (!truthy roundId || (result.get (lit "round_id")).eq (.str (text roundId))))
    (lit "The queried round does not match its expected identity.")
  return result

/-- SHA-256 of an executable (Python `fingerprint`). -/
def fingerprint (w : World) (executable : Str) : Py Str :=
  match w.which executable with
  | some resolved => w.sha256 resolved
  | none => fail (lit "Required command unavailable: " ++ pathName executable)

/-- The fields both rebuilds have to report. -/
def expectedFields (args : Args) (selected : Dict) : Dict :=
  [(lit "zcash_network", .str args.zcashNetwork.text), (lit "nullifier_pool", .str (lit "ironwood")),
    (lit "dataset_version", .int 2), (lit "height", selected.get (lit "snapshot_height"))]

/-- Whether a dictionary reports the expected values. -/
def reports (reported expected : Dict) : Bool :=
  expected.all fun member => (reported.get member.1).eq member.2

/-- The environment of `nf-server sync`. -/
def syncEnviron (args : Args) (w : World) : List (Str × Str) :=
  (w.environ.filter fun entry => entry.1 != lit "LWD_URLS" && entry.1 != lit "SVOTE_PIR_SYNC_RESET" &&
    entry.1 != lit "SVOTE_PIR_SYNC_ACK_HEIGHT_MISMATCH") ++ [(lit "LWD_URLS", text args.lwdUrl)]

/-- The command of `nf-server sync`. -/
def syncCommand (args : Args) (selected : Dict) (directory : Str) : List Str :=
  [args.nfServer, lit "sync", lit "--zcash-network", args.zcashNetwork.text, lit "--max-height",
    digits (selected.get (lit "snapshot_height")), lit "--lwd-url", text args.lwdUrl,
    lit "--pir-data-dir", directory, lit "--output-dir", directory, lit "--voting-config-url", [],
    lit "--non-interactive"]

/-- Exit status of `nf-server sync`. -/
def syncStatus : Proc → Py Int
  | .osError => fail (lit "Unable to run nf-server sync. Check the installed tool and path.")
  | .raised => .error .other
  | .exited returncode _ _ => .ok returncode

/-- Root metadata that a sync left, which has to be a dictionary. -/
def rootMetadata : Decoded → Py Dict
  | .json (.obj metadata) => .ok metadata
  | .json _ => fail (lit "PIR output does not match the exact snapshot height, network, or dataset.")
  | .invalid => fail (lit "PIR sync did not produce readable root metadata.")
  | .raised => .error .other

/-- Sync into a directory and read the root metadata it leaves there. -/
def syncInto (args : Args) (w : World) (selected : Dict) (directory : Str) : Py Dict := do
  let returncode ← syncStatus (w.sync (syncCommand args selected directory) (syncEnviron args w))
  ensure (returncode == 0) (lit "PIR sync did not complete. No root match was established.")
  let metadata ← rootMetadata (w.pirRoot directory)
  ensure (reports metadata (expectedFields args selected))
    (lit "PIR output does not match the exact snapshot height, network, or dataset.")
  return expectedFields args selected ++
    [(lit "computed_circuit_root", metadata.get (lit "circuit_root")),
      (lit "computed_pir_root", metadata.get (lit "pir_root")), (lit "lwd_url", .str (text args.lwdUrl))]

/-- Rebuild in a fresh directory, which is removed afterwards (Python `rebuild_with_pir_sync`). -/
def rebuildWithPirSync (args : Args) (w : World) (selected : Dict) : Py Dict := do
  let directory ← w.tempdir
  let rebuild := syncInto args w selected directory
  w.cleanup
  rebuild

/-- The command of `nf-server verify-root`. -/
def verifyRootCommand (args : Args) (selected : Dict) : List Str :=
  [args.nfServer, lit "verify-root", lit "--zcash-network", args.zcashNetwork.text, lit "--height",
    digits (selected.get (lit "snapshot_height")), lit "--trusted-block-hash",
    text args.trustedBlockHash, lit "--expected-circuit-root",
    asStr (selected.get (lit "nullifier_imt_root")), lit "--block-rpc-url", text args.blockRpcUrl] ++
    (if truthy args.blockRpcCookieFile then
      [lit "--block-rpc-cookie-file", text args.blockRpcCookieFile] else [])

/-- An integer, not a boolean, above zero. -/
def isPositive : Json → Bool
  | .int n => decide (0 < n)
  | _ => false

/-- Rebuild from raw blocks (Python `rebuild_with_raw_blocks`). -/
def rebuildWithRawBlocks (args : Args) (w : World) (selected : Dict) : Py Dict := do
  let (code, rebuild) ← invoke w .rebuild (verifyRootCommand args selected)
  ensure (reports rebuild (expectedFields args selected ++
      [(lit "trusted_block_hash", .str (text args.trustedBlockHash)),
        (lit "expected_circuit_root", selected.get (lit "nullifier_imt_root"))]))
    (lit "Verifier output does not match the selected snapshot or dataset.")
  ensure (isPositive (rebuild.get (lit "verified_blocks")))
    (lit "Verifier did not report a completed block range.")
  let same := (rebuild.get (lit "computed_circuit_root")).eq (selected.get (lit "nullifier_imt_root"))
  ensure ((match rebuild.get (lit "matches") with
      | .bool b => b == same
      | _ => false) && ((code == 0) == same))
    (lit "Verifier exit status and root comparison disagree.")
  return rebuild

/-- The options of the mode (Python `verify`, its checks of them). -/
def checkOptions (args : Args) : Py Unit :=
  match args.mode with
  | .pirSync => do
    ensure (!(truthy args.trustedBlockHash || truthy args.blockRpcUrl || truthy args.blockRpcCookieFile))
      (lit "Raw-block options require --mode raw-blocks.")
    ensure (truthy args.lwdUrl) (lit "PIR rebuilding requires an explicit --lwd-url.")
  | .rawBlocks => do
    ensure (!truthy args.lwdUrl) (lit "--lwd-url is only used by --mode pir-sync.")
    ensure (truthy args.trustedBlockHash && truthy args.blockRpcUrl)
      (lit ("Raw-block verification requires --trusted-block-hash and --block-rpc-url. " ++
        "Use --inspect to discover the snapshot first."))

/-- The result dictionary as `verify` starts it. -/
def startResult (args : Args) (selected : Dict) : Dict :=
  [(lit "outcome", .str (lit "incomplete")), (lit "method", .str args.mode.text),
    (lit "round", .obj selected), (lit "zcash_network", .str args.zcashNetwork.text)]

/-- The hashes of the tools and the build identity of the verifier (Python `verify`, its `identity`). -/
def toolIdentity (args : Args) (w : World) : Py Dict := do
  let svoted ← fingerprint w args.svoted
  let nfServer ← fingerprint w args.nfServer
  let (infoCode, info) ← invoke w .buildInfo [args.nfServer, lit "build-info", lit "--json"]
  ensure (infoCode == 0) (lit "Unable to read verifier build identity.")
  return [(lit "svoted_sha256", .str svoted), (lit "nf_server_sha256", .str nfServer),
    (lit "nf_server_build", .obj info)]

/-- The rebuild of the mode. -/
def rebuildRound (args : Args) (w : World) (selected : Dict) : Py Dict :=
  match args.mode with
  | .pirSync => rebuildWithPirSync args w selected
  | .rawBlocks => rebuildWithRawBlocks args w selected

/-- Say whether a newer round has appeared; only without a requested round (Python `verify`, its
`notice`). -/
def refreshLatest (args : Args) (w : World) (selected result : Dict) : Py Dict :=
  if truthy args.roundId then .ok result
  else
    match queryRound args w .refresh none with
    | .ok latest =>
      if (latest.get (lit "round_id")).eq (selected.get (lit "round_id")) then .ok result
      else
        .ok (result.set (lit "notice") (.str (lit "A newer round is now available: " ++
          asStr (latest.get (lit "round_id")) ++
          lit ". This result covers only the round shown above.")))
    | .error (.verification _) =>
      .ok (result.set (lit "notice")
        (.str (lit "The pinned round was verified, but latest-round selection could not be refreshed.")))
    | .error .other => .error .other

/-- Query the round again and compare it with the first answer (Python `verify`, after the roots match). -/
def recheckRound (args : Args) (w : World) (selected result : Dict) : Py Dict := do
  let current ← queryRound args w .recheck (some (asStr (selected.get (lit "round_id"))))
  if IDENTITY_FIELDS.any fun field => !(current.get field).eq (selected.get field) then
    return result.set (lit "failure")
      (.str (lit "The selected round's fields changed during verification."))
  refreshLatest args w selected (result.set (lit "outcome") (.str (lit "verified")))

/-- The result dictionary after the rebuild. Its entry and the rebuild are one object, so that the later
`matches` is in both. -/
def rebuiltResult (args : Args) (selected identity rebuild : Dict) : Dict :=
  let result := ((startResult args selected).set (lit "rebuild") (.obj rebuild)).set (lit "tools")
    (.obj identity)
  match args.mode with
  | .pirSync =>
    result.set (lit "trust") (.str (lit ("Reproduces PIR's result using trusted lightwalletd data " ++
      "and the same tree implementation. Does not authenticate raw blocks.")))
  | .rawBlocks => result

/-- Rebuild a selected round and compare the roots (Python `verify`, after the hash comparison). -/
def compareRoots (args : Args) (w : World) (selected : Dict) : Py Dict := do
  w.announce selected args.mode
  let identity ← toolIdentity args w
  let rebuild ← rebuildRound args w selected
  let computed := rebuild.get (lit "computed_circuit_root")
  ensure (hex64 computed) (lit "Verifier returned an invalid computed root.")
  let same := computed.eq (selected.get (lit "nullifier_imt_root"))
  let result := rebuiltResult args selected identity (rebuild.set (lit "matches") (.bool same))
  if !same then
    return (result.set (lit "outcome") (.str (lit "mismatch"))).set (lit "failure")
      (.str (lit "The rebuilt circuit root differs from the on-chain IMT root."))
  recheckRound args w selected result

/-- Verify a round (Python `verify`). -/
def verify (args : Args) (w : World) : Py Dict := do
  let selected ← queryRound args w .select args.roundId
  if args.inspect then
    return [(lit "outcome", .str (lit "inspection")), (lit "round", .obj selected),
      (lit "imt_rebuild", .str (lit "not performed"))]
  checkOptions args
  if args.mode = .rawBlocks &&
      !(selected.get (lit "snapshot_blockhash")).eq (.str (text args.trustedBlockHash)) then
    return (((startResult args selected).set (lit "outcome") (.str (lit "mismatch"))).set (lit "failure")
      (.str (lit "The independently trusted hash differs from the on-chain snapshot hash."))).set
      (lit "trusted_block_hash") (.str (text args.trustedBlockHash))
  compareRoots args w selected

/-! ## What the checks establish -/

/-- A tool's answer that `invoke` accepts. -/
def Answered (w : World) (step : Step) (command : List Str) (code : Int) (result : Dict) : Prop :=
  ∃ stderr, w.run step command = .exited code (.json (.obj result)) stderr

/-- A round that passed the round-ID binding for the chain, and for a requested round. -/
structure RoundBound (args : Args) (roundId : Option Str) (result : Dict) : Prop where
  binding : result.get (lit "round_id_matches") = .bool true
  chain : result.get (lit "chain_id") = .str args.voteChainId
  hex : ∀ field ∈ HEX_FIELDS, hex64 (result.get field) = true
  heights : ∀ field ∈ HEIGHT_FIELDS, isHeight (result.get field) = true
  computed : result.get (lit "computed_round_id") = result.get (lit "round_id")
  requested : truthy roundId = true → result.get (lit "round_id") = .str (text roundId)

/-- A report of the requested network, pool, dataset version and snapshot height. Numbers are compared
by their value, as Python's `==` does. -/
structure ReportsTarget (args : Args) (selected reported : Dict) : Prop where
  network : reported.get (lit "zcash_network") = .str args.zcashNetwork.text
  pool : reported.get (lit "nullifier_pool") = .str (lit "ironwood")
  version : (reported.get (lit "dataset_version")).num = some (.finite 2)
  height : (reported.get (lit "height")).num = (selected.get (lit "snapshot_height")).num

/-- The evidence of `nf-server sync` for a circuit root. -/
def RebuiltByPirSync (args : Args) (w : World) (selected : Dict) (root : Json) : Prop :=
  ∃ (directory : Str) (stdout : Decoded) (stderr : List Str) (metadata : Dict),
    w.tempdir = .ok directory ∧
    w.sync (syncCommand args selected directory) (syncEnviron args w) = .exited 0 stdout stderr ∧
    w.pirRoot directory = .json (.obj metadata) ∧
    ReportsTarget args selected metadata ∧
    metadata.get (lit "circuit_root") = root

/-- The evidence of `nf-server verify-root` for a circuit root that is the one on chain. -/
def RebuiltByRawBlocks (args : Args) (w : World) (selected : Dict) (root : Json) : Prop :=
  ∃ (hash : Str) (rebuild : Dict),
    args.trustedBlockHash = some hash ∧
    selected.get (lit "snapshot_blockhash") = .str hash ∧
    Answered w .rebuild (verifyRootCommand args selected) 0 rebuild ∧
    ReportsTarget args selected rebuild ∧
    rebuild.get (lit "trusted_block_hash") = .str hash ∧
    (∃ blocks : Int, rebuild.get (lit "verified_blocks") = .int blocks ∧ 0 < blocks) ∧
    rebuild.get (lit "computed_circuit_root") = root

/-- The evidence of a mode for a circuit root. -/
def Rebuilt (args : Args) (w : World) (selected : Dict) (root : Json) : Prop :=
  match args.mode with
  | .pirSync => RebuiltByPirSync args w selected root
  | .rawBlocks => RebuiltByRawBlocks args w selected root

/-- Everything a verified round stands for: two queries bound to the round that agree on its identity,
and a rebuild of its snapshot whose circuit root is the round's. -/
structure Verified (args : Args) (w : World) (selected current : Dict) (root : Str) : Prop where
  first : Answered w .select (roundCommand args args.roundId) 0 selected
  firstBound : RoundBound args args.roundId selected
  second : Answered w .recheck
    (roundCommand args (some (asStr (selected.get (lit "round_id"))))) 0 current
  secondBound : RoundBound args (some (asStr (selected.get (lit "round_id")))) current
  agree : ∀ field ∈ IDENTITY_FIELDS, current.get field = selected.get field
  rebuilt : Rebuilt args w selected (.str root)
  rootHex : hex64 (.str root) = true
  rootOnChain : selected.get (lit "nullifier_imt_root") = .str root

/-- What `invoke` returns is the tool's answer. -/
lemma invoke_eq_ok {w : World} {step : Step} {command : List Str} {code : Int} {result : Dict}
    (ok : invoke w step command = .ok (code, result)) : Answered w step command code result := by
  rw [invoke] at ok
  split at ok
  · cases ok
  · cases ok
  case h_3 returncode stdout stderr hrun =>
    split at ok
    · cases ok
    · cases ok
    · cases ok
      exact ⟨stderr, hrun⟩
    · cases ok

/-- 64 digits are a string. -/
lemma exists_str_of_hex64 {j : Json} (h : hex64 j = true) : ∃ s, j = .str s := by
  cases j with
  | str s => exact ⟨s, rfl⟩
  | _ => cases h

/-- A height is an integer. -/
lemma exists_int_of_isHeight {j : Json} (h : isHeight j = true) : ∃ n, j = .int n := by
  cases j with
  | int n => exact ⟨n, rfl⟩
  | _ => cases h

/-- A query that returns got an answer that passed every check of the round. -/
lemma queryRound_eq_ok {args : Args} {w : World} {step : Step} {roundId : Option Str} {result : Dict}
    (ok : queryRound args w step roundId = .ok result) :
    Answered w step (roundCommand args roundId) 0 result ∧ RoundBound args roundId result := by
  obtain ⟨⟨code, answer⟩, hinvoke, ok⟩ := bind_eq_ok.mp ok
  obtain ⟨_, hbinding, ok⟩ := bind_eq_ok.mp ok
  obtain ⟨_, hchain, ok⟩ := bind_eq_ok.mp ok
  obtain ⟨_, hhex, ok⟩ := bind_eq_ok.mp ok
  obtain ⟨_, hheights, ok⟩ := bind_eq_ok.mp ok
  obtain ⟨_, hidentity, ok⟩ := bind_eq_ok.mp ok
  cases ok
  rw [ensure_eq_ok, Bool.and_eq_true, beq_iff_eq] at hbinding
  rw [ensure_eq_ok, Json.eq_str] at hchain
  rw [ensure_eq_ok, Bool.and_eq_true] at hidentity
  have hfields : ∀ field ∈ HEX_FIELDS, hex64 (result.get field) = true :=
    fun field hfield => ensure_eq_ok.mp (forM_eq_ok hhex field hfield)
  obtain ⟨id, hid⟩ := exists_str_of_hex64 (hfields (lit "round_id") (List.mem_cons_self ..))
  obtain ⟨hcode, hmatches⟩ := hbinding
  subst hcode
  refine ⟨invoke_eq_ok hinvoke, ?_, hchain, hfields, ?_, ?_, ?_⟩
  · split at hmatches
    · assumption
    · cases hmatches
  · exact fun field hfield => ensure_eq_ok.mp (forM_eq_ok hheights field hfield)
  · rw [hid] at hidentity ⊢
    exact Json.eq_str.mp hidentity.1
  · intro hgiven
    have hrequested := hidentity.2
    rw [hgiven, Bool.not_true, Bool.false_or] at hrequested
    exact Json.eq_str.mp hrequested

/-- A field of the identity is a string or an integer in every bound round. -/
lemma RoundBound.identity {args : Args} {roundId : Option Str} {result : Dict}
    (h : RoundBound args roundId result) :
    ∀ field ∈ IDENTITY_FIELDS, (∃ s, result.get field = .str s) ∨ ∃ n, result.get field = .int n := by
  have hhex : ∀ field ∈ HEX_FIELDS, ∃ s, result.get field = .str s :=
    fun field hfield => exists_str_of_hex64 (h.hex field hfield)
  have hheights : ∀ field ∈ HEIGHT_FIELDS, ∃ n, result.get field = .int n :=
    fun field hfield => exists_int_of_isHeight (h.heights field hfield)
  simp only [HEX_FIELDS, HEIGHT_FIELDS, List.forall_mem_cons] at hhex hheights
  obtain ⟨hround, hblock, hproposals, hroot, hnc, _⟩ := hhex
  obtain ⟨hcreated, hsnapshot, hend, _⟩ := hheights
  simp only [IDENTITY_FIELDS, List.forall_mem_cons]
  exact ⟨.inl ⟨_, h.chain⟩, .inl hround, .inr hcreated, .inr hsnapshot, .inl hblock, .inl hproposals,
    .inr hend, .inl hroot, .inl hnc, fun _ hnil => nomatch hnil⟩

/-- Bound rounds whose identity fields are equal for Python have the same values there. -/
lemma identity_agree {args args' : Args} {roundId roundId' : Option Str} {current selected : Dict}
    (hcurrent : RoundBound args roundId current) (hselected : RoundBound args' roundId' selected)
    (h : (IDENTITY_FIELDS.any fun field => !(current.get field).eq (selected.get field)) = false) :
    ∀ field ∈ IDENTITY_FIELDS, current.get field = selected.get field := by
  intro field hfield
  have heq : (current.get field).eq (selected.get field) = true := by
    simpa using List.any_eq_false.mp h field hfield
  obtain ⟨s, hs⟩ | ⟨n, hn⟩ := hselected.identity field hfield
  · rw [hs] at heq ⊢
    exact Json.eq_str.mp heq
  · obtain ⟨s, hs⟩ | ⟨m, hm⟩ := hcurrent.identity field hfield
    · rw [hs, hn] at heq
      cases heq
    · rw [hm, hn] at heq ⊢
      rw [Json.int_eq_int.mp heq]

/-- A dictionary that reports the expected values reports the target. -/
lemma ReportsTarget.of_reports {args : Args} {selected reported : Dict} {height : Int}
    (hheight : selected.get (lit "snapshot_height") = .int height)
    (h : reports reported (expectedFields args selected) = true) :
    ReportsTarget args selected reported := by
  simp only [reports, expectedFields, hheight, List.all_cons, List.all_nil, Bool.and_eq_true,
    Bool.and_true] at h
  obtain ⟨hnetwork, hpool, hversion, hsnapshot⟩ := h
  refine ⟨Json.eq_str.mp hnetwork, Json.eq_str.mp hpool, ?_, ?_⟩
  · simpa using Json.eq_int.mp hversion
  · rw [hheight, Json.eq_int.mp hsnapshot]
    rfl

/-- A status comes from a program that exited. -/
lemma syncStatus_eq_ok {proc : Proc} {code : Int} (ok : syncStatus proc = .ok code) :
    ∃ stdout stderr, proc = .exited code stdout stderr := by
  cases proc with
  | osError => cases ok
  | raised => cases ok
  | exited returncode stdout stderr =>
    cases ok
    exact ⟨stdout, stderr, rfl⟩

/-- Root metadata is an object. -/
lemma rootMetadata_eq_ok {decoded : Decoded} {metadata : Dict} (ok : rootMetadata decoded = .ok metadata) :
    decoded = .json (.obj metadata) := by
  rw [rootMetadata.eq_def] at ok
  split at ok
  · cases ok
    rfl
  · cases ok
  · cases ok
  · cases ok

/-- A sync that returns ended with status 0 and left metadata of the target. -/
lemma syncInto_eq_ok {args : Args} {w : World} {selected rebuild : Dict} {height : Int} {directory : Str}
    (hheight : selected.get (lit "snapshot_height") = .int height)
    (ok : syncInto args w selected directory = .ok rebuild) :
    ∃ (stdout : Decoded) (stderr : List Str) (metadata : Dict),
      w.sync (syncCommand args selected directory) (syncEnviron args w) = .exited 0 stdout stderr ∧
      w.pirRoot directory = .json (.obj metadata) ∧
      ReportsTarget args selected metadata ∧
      metadata.get (lit "circuit_root") = rebuild.get (lit "computed_circuit_root") := by
  obtain ⟨returncode, hsync, ok⟩ := bind_eq_ok.mp ok
  obtain ⟨_, hcode, ok⟩ := bind_eq_ok.mp ok
  obtain ⟨metadata, hmetadata, ok⟩ := bind_eq_ok.mp ok
  obtain ⟨_, hreports, ok⟩ := bind_eq_ok.mp ok
  cases ok
  rw [ensure_eq_ok] at hcode hreports
  rw [beq_iff_eq] at hcode
  subst hcode
  obtain ⟨stdout, stderr, hexit⟩ := syncStatus_eq_ok hsync
  exact ⟨stdout, stderr, metadata, hexit, rootMetadata_eq_ok hmetadata, .of_reports hheight hreports,
    rfl⟩

/-- A PIR rebuild that returns has evidence for the root in it. -/
lemma rebuildWithPirSync_eq_ok {args : Args} {w : World} {selected rebuild : Dict} {height : Int}
    (hheight : selected.get (lit "snapshot_height") = .int height)
    (ok : rebuildWithPirSync args w selected = .ok rebuild) :
    RebuiltByPirSync args w selected (rebuild.get (lit "computed_circuit_root")) := by
  obtain ⟨directory, hdirectory, ok⟩ := bind_eq_ok.mp ok
  obtain ⟨_, _, ok⟩ := bind_eq_ok.mp ok
  obtain ⟨stdout, stderr, metadata, hexit, hread, htarget, hroot⟩ := syncInto_eq_ok hheight ok
  exact ⟨directory, stdout, stderr, metadata, hdirectory, hexit, hread, htarget, hroot⟩

/-- A raw-block rebuild that returns the root on chain has evidence for it. -/
lemma rebuildWithRawBlocks_eq_ok {args : Args} {w : World} {selected rebuild : Dict} {height : Int}
    {hash root : Str} (hheight : selected.get (lit "snapshot_height") = .int height)
    (htrusted : args.trustedBlockHash = some hash)
    (hsnapshot : selected.get (lit "snapshot_blockhash") = .str hash)
    (hroot : selected.get (lit "nullifier_imt_root") = .str root)
    (hcomputed : rebuild.get (lit "computed_circuit_root") = .str root)
    (ok : rebuildWithRawBlocks args w selected = .ok rebuild) :
    RebuiltByRawBlocks args w selected (.str root) := by
  obtain ⟨⟨code, answer⟩, hinvoke, ok⟩ := bind_eq_ok.mp ok
  obtain ⟨_, hreports, ok⟩ := bind_eq_ok.mp ok
  obtain ⟨_, hblocks, ok⟩ := bind_eq_ok.mp ok
  obtain ⟨_, hstatus, ok⟩ := bind_eq_ok.mp ok
  cases ok
  rw [ensure_eq_ok] at hreports hblocks hstatus
  rw [reports, List.all_append, Bool.and_eq_true] at hreports
  obtain ⟨htarget, hextra⟩ := hreports
  simp only [List.all_cons, Bool.and_eq_true, htrusted, text, Option.getD_some] at hextra
  have hpositive : ∃ blocks : Int, rebuild.get (lit "verified_blocks") = .int blocks ∧ 0 < blocks := by
    change isPositive (rebuild.get (lit "verified_blocks")) = true at hblocks
    generalize rebuild.get (lit "verified_blocks") = blocks at hblocks
    cases blocks with
    | int n => exact ⟨n, rfl, of_decide_eq_true hblocks⟩
    | _ => cases hblocks
  -- The root is the one on chain, so the exit status has to be 0.
  have hsame : (rebuild.get (lit "computed_circuit_root")).eq
      (selected.get (lit "nullifier_imt_root")) = true := by
    rw [hcomputed, hroot]
    exact Json.eq_str.mpr rfl
  have hcode : code = 0 := by
    simp only [Bool.and_eq_true, hsame, beq_true, beq_iff_eq] at hstatus
    exact hstatus.2
  subst hcode
  exact ⟨hash, rebuild, htrusted, hsnapshot, invoke_eq_ok hinvoke, .of_reports hheight htarget,
    Json.eq_str.mp hextra.1, hpositive, hcomputed⟩

/-- The rebuild of a mode that returns the root on chain has evidence for it. -/
lemma rebuildRound_eq_ok {args : Args} {w : World} {selected rebuild : Dict} {height : Int} {root : Str}
    (hheight : selected.get (lit "snapshot_height") = .int height)
    (htrusted : args.mode = .rawBlocks → ∃ hash, args.trustedBlockHash = some hash ∧
      selected.get (lit "snapshot_blockhash") = .str hash)
    (hroot : selected.get (lit "nullifier_imt_root") = .str root)
    (hcomputed : rebuild.get (lit "computed_circuit_root") = .str root)
    (ok : rebuildRound args w selected = .ok rebuild) : Rebuilt args w selected (.str root) := by
  rw [rebuildRound] at ok
  rw [Rebuilt]
  cases hmode : args.mode with
  | pirSync =>
    rw [hmode] at ok
    rw [← hcomputed]
    exact rebuildWithPirSync_eq_ok hheight ok
  | rawBlocks =>
    rw [hmode] at ok
    obtain ⟨hash, hhash, hsnapshot⟩ := htrusted hmode
    exact rebuildWithRawBlocks_eq_ok hheight hhash hsnapshot hroot hcomputed ok

/-! ## Outcomes -/

/-- The outcomes of a rebuild, and what the verified one stands for. -/
def Concludes (result : Dict) (attested : Prop) : Prop :=
  (result.get (lit "outcome") = .str (lit "verified") ∧ attested) ∨
    result.get (lit "outcome") = .str (lit "mismatch") ∨
    result.get (lit "outcome") = .str (lit "incomplete")

/-- The notice leaves the outcome. -/
lemma refreshLatest_outcome {args : Args} {w : World} {selected result final : Dict}
    (ok : refreshLatest args w selected result = .ok final) :
    final.get (lit "outcome") = result.get (lit "outcome") := by
  have hne : lit "outcome" ≠ lit "notice" := lit_ne (by decide)
  rw [refreshLatest] at ok
  split at ok
  · cases ok
    rfl
  · split at ok
    · split at ok
      · cases ok
        rfl
      · cases ok
        exact Dict.get_set_of_ne _ _ hne
    · cases ok
      exact Dict.get_set_of_ne _ _ hne
    · cases ok

/-- After the roots match, the outcome is verified or stays incomplete. -/
lemma recheckRound_concludes {args : Args} {w : World} {selected result final : Dict}
    (hselected : RoundBound args args.roundId selected)
    (hstart : result.get (lit "outcome") = .str (lit "incomplete"))
    (ok : recheckRound args w selected result = .ok final) :
    Concludes final (∃ current,
      Answered w .recheck (roundCommand args (some (asStr (selected.get (lit "round_id"))))) 0 current ∧
      RoundBound args (some (asStr (selected.get (lit "round_id")))) current ∧
      ∀ field ∈ IDENTITY_FIELDS, current.get field = selected.get field) := by
  have hne : lit "outcome" ≠ lit "failure" := lit_ne (by decide)
  obtain ⟨current, hquery, ok⟩ := bind_eq_ok.mp ok
  obtain ⟨hanswer, hbound⟩ := queryRound_eq_ok hquery
  split at ok
  · cases ok
    refine .inr (.inr ?_)
    rw [Dict.get_set_of_ne _ _ hne, hstart]
  case isFalse hagree =>
    have hidentity := identity_agree hbound hselected (Bool.eq_false_iff.mpr hagree)
    refine .inl ⟨?_, current, hanswer, hbound, hidentity⟩
    rw [refreshLatest_outcome ok, Dict.get_set_self]

/-- The result before the second query is incomplete. -/
lemma rebuiltResult_outcome {args : Args} {selected identity rebuild : Dict} :
    (rebuiltResult args selected identity rebuild).get (lit "outcome") = .str (lit "incomplete") := by
  have hrebuild : lit "outcome" ≠ lit "rebuild" := lit_ne (by decide)
  have htools : lit "outcome" ≠ lit "tools" := lit_ne (by decide)
  have htrust : lit "outcome" ≠ lit "trust" := lit_ne (by decide)
  have hresult : (((startResult args selected).set (lit "rebuild") (.obj rebuild)).set (lit "tools")
      (.obj identity)).get (lit "outcome") = .str (lit "incomplete") := by
    rw [Dict.get_set_of_ne _ _ htools, Dict.get_set_of_ne _ _ hrebuild]
    rfl
  rw [rebuiltResult]
  cases args.mode with
  | pirSync => exact (Dict.get_set_of_ne _ _ htrust).trans hresult
  | rawBlocks => exact hresult

/-- A comparison of the roots is verified with all its evidence, a mismatch or incomplete. -/
lemma compareRoots_concludes {args : Args} {w : World} {selected final : Dict}
    (hanswer : Answered w .select (roundCommand args args.roundId) 0 selected)
    (hbound : RoundBound args args.roundId selected)
    (htrusted : args.mode = .rawBlocks → ∃ hash, args.trustedBlockHash = some hash ∧
      selected.get (lit "snapshot_blockhash") = .str hash)
    (ok : compareRoots args w selected = .ok final) :
    Concludes final (∃ current root, Verified args w selected current root) := by
  have hfailure : lit "outcome" ≠ lit "failure" := lit_ne (by decide)
  obtain ⟨height, hheight⟩ := exists_int_of_isHeight
    (hbound.heights (lit "snapshot_height") (by simp [HEIGHT_FIELDS]))
  obtain ⟨root, hroot⟩ := exists_str_of_hex64
    (hbound.hex (lit "nullifier_imt_root") (by simp [HEX_FIELDS]))
  obtain ⟨_, _, ok⟩ := bind_eq_ok.mp ok
  obtain ⟨identity, _, ok⟩ := bind_eq_ok.mp ok
  obtain ⟨rebuild, hrebuild, ok⟩ := bind_eq_ok.mp ok
  obtain ⟨_, hhex, ok⟩ := bind_eq_ok.mp ok
  rw [ensure_eq_ok] at hhex
  dsimp only at ok
  split at ok
  · cases ok
    refine .inr (.inl ?_)
    rw [Dict.get_set_of_ne _ _ hfailure, Dict.get_set_self]
  case isFalse hsame =>
    rw [Bool.not_eq_true, Bool.not_eq_false', hroot, Json.eq_str] at hsame
    rw [hsame] at hhex
    have hrebuilt := rebuildRound_eq_ok hheight htrusted hroot hsame hrebuild
    obtain ⟨hverified, current, hsecond, hcurrent, hagree⟩ | hother :=
      recheckRound_concludes hbound rebuiltResult_outcome ok
    · exact .inl ⟨hverified, current, root,
        ⟨hanswer, hbound, hsecond, hcurrent, hagree, hrebuilt, hhex, hroot⟩⟩
    · exact .inr hother

/-- The raw-block mode runs with a trusted hash only. -/
lemma checkOptions_rawBlocks {args : Args} (hmode : args.mode = .rawBlocks)
    (ok : checkOptions args = .ok ()) : ∃ hash, args.trustedBlockHash = some hash := by
  rw [checkOptions, hmode] at ok
  obtain ⟨_, _, ok⟩ := bind_eq_ok.mp ok
  rw [ensure_eq_ok, Bool.and_eq_true] at ok
  cases hhash : args.trustedBlockHash with
  | some hash => exact ⟨hash, rfl⟩
  | none =>
    rw [hhash] at ok
    cases ok.1

/-- A round is reported verified only when everything matched; every other result is a mismatch or
incomplete, or the inspection that was asked for. -/
theorem verify_reports_only_matches {args : Args} {w : World} {result : Dict}
    (ok : verify args w = .ok result) :
    Concludes result (∃ selected current root, Verified args w selected current root) ∨
      (result.get (lit "outcome") = .str (lit "inspection") ∧ args.inspect = true) := by
  obtain ⟨selected, hquery, ok⟩ := bind_eq_ok.mp ok
  obtain ⟨hanswer, hbound⟩ := queryRound_eq_ok hquery
  split at ok
  case isTrue hinspect =>
    cases ok
    exact .inr ⟨rfl, hinspect⟩
  obtain ⟨_, hoptions, ok⟩ := bind_eq_ok.mp ok
  refine .inl ?_
  split at ok
  · cases ok
    exact .inr (.inl rfl)
  case isFalse hhash =>
    have htrusted : args.mode = .rawBlocks → ∃ hash, args.trustedBlockHash = some hash ∧
        selected.get (lit "snapshot_blockhash") = .str hash := by
      intro hmode
      obtain ⟨hash, hgiven⟩ := checkOptions_rawBlocks hmode hoptions
      have hsame : (selected.get (lit "snapshot_blockhash")).eq (.str hash) = true := by
        simpa [hmode, hgiven, text] using hhash
      exact ⟨hash, hgiven, Json.eq_str.mp hsame⟩
    obtain ⟨hverified, current, root, h⟩ | hother := compareRoots_concludes hanswer hbound htrusted ok
    · exact .inl ⟨hverified, selected, current, root, h⟩
    · exact .inr hother

/-- Options of a PIR rebuild of the latest round. -/
def pirSyncArgs : Args where
  voteNode := lit "http://localhost:26657"
  voteChainId := lit "svote-1"
  roundId := none
  zcashNetwork := .main
  mode := .pirSync
  lwdUrl := some (lit "https://lwd.example:443")
  trustedBlockHash := none
  blockRpcUrl := none
  blockRpcCookieFile := none
  svoted := lit "svoted"
  nfServer := lit "nf-server"
  inspect := false

/-- A round whose hashes are all zeros, at a snapshot height. -/
def zeroRound (height : Int) : Dict :=
  let zeros : Json := .str (List.replicate 64 48)
  [(lit "round_id_matches", .bool true), (lit "chain_id", .str (lit "svote-1")),
    (lit "round_id", zeros), (lit "computed_round_id", zeros), (lit "snapshot_blockhash", zeros),
    (lit "proposals_hash", zeros), (lit "nullifier_imt_root", zeros), (lit "nc_root", zeros),
    (lit "created_at_height", .int 7), (lit "snapshot_height", .int height),
    (lit "vote_end_time", .int 9)]

/-- Root metadata of that round that reports a height. -/
def zeroMetadata (height : Json) : Dict :=
  [(lit "zcash_network", .str (lit "main")), (lit "nullifier_pool", .str (lit "ironwood")),
    (lit "dataset_version", .int 2), (lit "height", height),
    (lit "circuit_root", .str (List.replicate 64 48))]

/-- Tools that answer with that round and a sync that reports a height. -/
def zeroWorld (height : Int) (reported : Json) : World where
  run _ _ := .exited 0 (.json (.obj (zeroRound height))) []
  environ := []
  sync _ _ := .exited 0 .invalid []
  tempdir := .ok (lit "/tmp/round-imt-0")
  cleanup := .ok ()
  pirRoot _ := .json (.obj (zeroMetadata reported))
  which executable := some executable
  sha256 _ := .ok (lit "00")
  announce _ _ := .ok ()

/-- Whether a run returns an outcome. -/
def ends (args : Args) (w : World) (outcome : String) : Bool :=
  match verify args w with
  | .ok result => (result.get (lit "outcome")).eq (.str (lit outcome))
  | .error _ => false

/-- A run that ends with an outcome returned it. -/
lemma exists_of_ends {args : Args} {w : World} {outcome : String} (h : ends args w outcome = true) :
    ∃ result, verify args w = .ok result ∧ result.get (lit "outcome") = .str (lit outcome) := by
  rw [ends] at h
  split at h
  case h_1 result hresult => exact ⟨result, hresult, Json.eq_str.mp h⟩
  case h_2 => cases h

/-- A round at height 3 is verified, and everything matched. -/
theorem verify_reports_only_matches_three :
    ∃ selected current root, Verified pirSyncArgs (zeroWorld 3 (.int 3)) selected current root := by
  obtain ⟨result, ok, houtcome⟩ := @exists_of_ends pirSyncArgs (zeroWorld 3 (.int 3))
    "verified" (by decide +kernel)
  have hne : ∀ other : String, lit "verified" ≠ lit other →
      result.get (lit "outcome") ≠ .str (lit other) := by
    intro other hother heq
    rw [houtcome] at heq
    exact hother (Json.str.inj heq)
  obtain (⟨_, h⟩ | h | h) | ⟨h, _⟩ := verify_reports_only_matches ok
  · exact h
  · exact absurd h (hne "mismatch" (lit_ne (by decide)))
  · exact absurd h (hne "incomplete" (lit_ne (by decide)))
  · exact absurd h (hne "inspection" (lit_ne (by decide)))

/-- With `--inspect` the outcome is neither verified, mismatch nor incomplete; and metadata whose
height is `true` passes for height 1, though the values differ. -/
theorem verify_inspection_and_boolean_height :
    (∃ result, verify { pirSyncArgs with inspect := true } (zeroWorld 3 (.int 3)) = .ok result ∧
      result.get (lit "outcome") = .str (lit "inspection")) ∧
    (∃ result, verify pirSyncArgs (zeroWorld 1 (.bool true)) = .ok result ∧
      result.get (lit "outcome") = .str (lit "verified")) ∧
    (zeroMetadata (.bool true)).get (lit "height") ≠ (zeroRound 1).get (lit "snapshot_height") := by
  refine ⟨exists_of_ends (by decide +kernel), exists_of_ends (by decide +kernel), ?_⟩
  intro h
  change Json.bool true = Json.int 1 at h
  cases h

end NullifierPir.VerifyRound
