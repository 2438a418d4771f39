import NullifierPir.Lib.Hex
import NullifierPir.Lib.Requests
import NullifierPir.Lib.Utf8
import NullifierPir.Types.Metadata
import NullifierPir.Types.Ypir
import NullifierPir.Client.Hostile

/-!
# Private retrieval

Port of `PirClient` of `pir/client/src/lib.rs`. A client is built from three responses of the server
(`withTransport`), and a retrieval is a program that sends requests (`fetchProof`), so that joined
retrievals are runs of such programs. The transport, the JSON decoders and the YPIR client are
parameters.

What the server sees of a retrieval does not depend on the nullifier (`request_trace_independent`): an
accepted client has as many items as its layout has rows, so that the row that Tier 0 names, or the
dummy row in its place, can always be queried, and nothing panics between two queries.
-/

namespace NullifierPir.Client
open Rust ByteString Imt NullifierPir.Types Export Hex Requests

/-- What the client reads of a response. -/
structure TransportResponse where
  status : Nat
  body : Bytes

/-- What the client sends. -/
inductive Request where
  | get (url : String)
  | post (url : String) (body : Bytes)

/-- Root response of a server (Rust `RootInfo`, the fields the client reads). -/
structure RootInfo where
  nullifierPool : String
  datasetVersion : Nat
  circuitRoot : String
  pirRoot : String
  numRanges : Nat
  pirLayout : PirLayout
  pirDepth : Nat
  tier1Rows : Nat
  tier1RowBytes : Nat

/-- Third-party functions of the client. -/
structure ClientEnv where
  /-- A GET request. -/
  get : String → Except String TransportResponse
  /-- Two concurrent GET requests (`tokio::try_join!`). -/
  tryJoin : String → String → Except String (TransportResponse × TransportResponse)
  decodeRootInfo : Bytes → Except String RootInfo
  decodeScenario : Bytes → Except String YpirScenario
  /-- `String::from_utf8_lossy`. -/
  lossy : Bytes → String
  /-- Randomness of a query. -/
  Entropy : Type
  /-- Secret of a query. -/
  Seed : Type
  /-- `generate_query_simplepir` of the client of a scenario. -/
  generateQuery : YpirScenario → Entropy → Nat → Rust (List UInt64 × List UInt64 × Seed)
  /-- `decode_response_simplepir`: a row, or the text of a panic. -/
  decodeResponse : YpirScenario → Seed → Bytes → Except String Bytes

/-- PIR client of a server (Rust `PirClient`). -/
structure PirClient where
  serverUrl : String
  layout : PirLayout
  tier0 : Tier0Data
  tier1Scenario : YpirScenario
  tier1RowBytes : Nat
  numRanges : Nat
  emptyHashes : Vector Fp TREE_DEPTH
  circuitRoot : Fp

/-- Row that is queried when Tier 0 cannot route a nullifier. -/
def DUMMY_TIER1_ROW : Nat := 0

/-- Rust `is_success`. -/
def isSuccess (status : Nat) : Bool := decide (200 ≤ status) && decide (status < 300)

/-- Rust `tier1_geometry`. -/
def tier1Geometry (layout : PirLayout) : Rust (Nat × Nat × Nat) := do
  let rows ← layout.tier1Rows
  let leaves ← layout.tier1Leaves
  let rowBytes ← layout.tier1RowBytes
  return (rows, leaves, rowBytes)

/-- `catch_unwind`, with a panic turned into an error. -/
def catchUnwind {α : Type} (label : String) : Rust α → Rust α
  | .error (.panic msg) => bail (label ++ msg)
  | r => r

variable (env : ClientEnv)

/-- Rust `body_for_status`. -/
def bodyForStatus (response : TransportResponse) (ctx : String) : Rust Bytes := do
  if isSuccess response.status then return response.body
  bail (s!"{ctx}: HTTP {response.status} body=" ++ env.lossy response.body)

/-- A root in hex (Rust `with_transport`, for either root). -/
def decodeRoot (name digits : String) : Rust Fp := do
  let bytes ← ofOption "invalid hex string" (hexDecode digits.toList)
  ensure (bytes.length == 32) s!"{name} hex decoded to {bytes.length} bytes, expected 32"
  ofOption s!"invalid {name} field element" (Fp.fromRepr bytes)

/-- The root response and its checks (Rust `with_transport`). -/
def fetchRoot (base : String) (expectedLayout : PirLayout) : Rust RootInfo := do
  let rootResp ← (ofResult (env.get (base ++ "/root"))).context "connect root fetch failed"
  let rootInfo ← (ofResult (env.decodeRootInfo (← bodyForStatus env rootResp "GET /root failed"))).context
    "parse /root response"
  ensure (isCurrentDataset rootInfo.nullifierPool rootInfo.datasetVersion)
    (s!"server nullifier dataset {rootInfo.nullifierPool.quote} version {rootInfo.datasetVersion} " ++
      s!"is unsupported; expected {NULLIFIER_POOL.quote} version {DATASET_VERSION}")
  validateLayout "server" rootInfo.pirLayout
  ensure (expectedLayout == rootInfo.pirLayout)
    (s!"PIR layout mismatch: expected {expectedLayout.debug}, " ++
      s!"server advertised {rootInfo.pirLayout.debug}")
  ensure (rootInfo.pirDepth == rootInfo.pirLayout.pirDepth)
    (s!"server pir_depth {rootInfo.pirDepth} disagrees with " ++
      s!"advertised layout depth {rootInfo.pirLayout.pirDepth}")
  return rootInfo

/-- The shape of Tier 1, which layout, root response and parameters have to agree on (Rust
`with_transport`). -/
def checkShape (rootInfo : RootInfo) (scenario : YpirScenario) : Rust Nat := do
  let (layoutRows, _, layoutRowBytes) ← tier1Geometry rootInfo.pirLayout
  let itemBits ← ofOption "server Tier 1 row width overflows bit size"
    (checkedMul rootInfo.tier1RowBytes 8)
  ensure (layoutRows == rootInfo.tier1Rows && layoutRowBytes == rootInfo.tier1RowBytes &&
      scenario.numItems == rootInfo.tier1Rows && scenario.itemSizeBits == itemBits &&
      decide (YPIR_MIN_ROWS ≤ layoutRows) && decide (YPIR_MIN_ITEM_BITS ≤ itemBits))
    (s!"server Tier 1 shape mismatch: layout implies {layoutRows}x{layoutRowBytes} bytes, " ++
      s!"/root reports {rootInfo.tier1Rows}x{rootInfo.tier1RowBytes} bytes, " ++
      s!"and /params reports {scenario.numItems} items x {scenario.itemSizeBits} bits")
  return layoutRowBytes

/-- Connect to a server (Rust `with_transport`). -/
def withTransport (H : Hasher) (serverUrl : String) (expectedLayout : PirLayout) : Rust PirClient := do
  validateLayout "expected" expectedLayout
  let base := String.ofList (Utf8.trimEndMatches '/' serverUrl.toList)
  let rootInfo ← fetchRoot env base expectedLayout
  let (tier0Resp, tier1Resp) ←
    (ofResult (env.tryJoin (base ++ "/tier0") (base ++ "/params/tier1"))).context
      "connect data fetch failed"
  let scenario ←
    (ofResult (env.decodeScenario (← bodyForStatus env tier1Resp "GET /params/tier1 failed"))).context
      "parse /params/tier1 response"
  ensure (scenario.polyLen == expectedLayout.polyLen)
    s!"PIR poly_len mismatch: expected {expectedLayout.polyLen}, server advertised {scenario.polyLen}"
  let rowBytes ← checkShape rootInfo scenario
  let expectedTier0Bytes ← rootInfo.pirLayout.tier0Bytes
  let tier0Bytes ← bodyForStatus env tier0Resp "GET /tier0 failed"
  ensure (tier0Bytes.length == expectedTier0Bytes)
    s!"Tier 0 size mismatch: got {tier0Bytes.length} bytes, layout expects {expectedTier0Bytes}"
  let tier0 ← Tier0Data.fromLayout tier0Bytes rootInfo.pirLayout
  let pirRoot ← decodeRoot "pir_root" rootInfo.pirRoot
  ensure ((← tier0.root) == pirRoot) "Tier 0 root does not match server pir_root"
  let circuitRoot ← decodeRoot "circuit_root" rootInfo.circuitRoot
  return ⟨base, rootInfo.pirLayout, tier0, scenario, rowBytes, rootInfo.numRanges,
    precomputeEmptyHashes H, circuitRoot⟩

namespace PirClient

variable (client : PirClient)

/-- The body of a query and its secret (Rust `ypir_query`, before the request). -/
def prepareQuery (entropy : env.Entropy) (tierName : String) (rowIdx : Nat) : Rust (Bytes × env.Seed) := do
  let scenario := client.tier1Scenario
  ensure (decide (rowIdx < scenario.numItems))
    s!"{tierName} row_idx {rowIdx} >= num_items {scenario.numItems}"
  ensure (scenario.polyLen == 2048 || scenario.polyLen == 4096)
    s!"{tierName} advertised unsupported YPIR polynomial degree {scenario.polyLen}"
  let (pqr, pubParams, seed) ← env.generateQuery scenario entropy rowIdx
  return (serializeYpirQuery pqr pubParams, seed)

/-- The row of a response (Rust `ypir_query`, after the request). -/
def decodeRow (seed : env.Seed) (tierName : String) (expectedRowBytes : Nat)
    (sent : Except String TransportResponse) : Rust Bytes := do
  let resp ← ofResult sent
  ensure (isSuccess resp.status)
    (s!"{tierName} query failed: HTTP {resp.status} body=" ++ env.lossy resp.body)
  let decoded ← catchUnwind s!"{tierName} response decryption panicked: "
    ((env.decodeResponse client.tier1Scenario seed resp.body).mapError Fault.panic)
  ensure (decide (expectedRowBytes ≤ decoded.length))
    (s!"{tierName} decoded response too short: {decoded.length} bytes, " ++
      s!"expected >= {expectedRowBytes}")
  return decoded.take expectedRowBytes

/-- Send a query for a row (Rust `ypir_query`). -/
def ypirQuery (entropy : env.Entropy) (tierName : String) (rowIdx expectedRowBytes : Nat) :
    Prog Request (Except String TransportResponse) (Rust Bytes) :=
  match client.prepareQuery env entropy tierName rowIdx with
  | .error e => .done (.error e)
  | .ok (payload, seed) =>
    .ask (.post (client.serverUrl ++ "/" ++ tierName ++ "/query") payload) fun sent =>
      .done (client.decodeRow env seed tierName expectedRowBytes sent)

/-- Route a nullifier through Tier 0; a panic is an error too. -/
def routeTier0 (nullifier : Fp) : Rust (Nat × Vector Fp TREE_DEPTH) :=
  catchUnwind "Tier 0 processing panicked: "
    (processTier0 client.tier0 client.layout nullifier (Vector.replicate TREE_DEPTH 0))

/-- The row to query, the dummy row if routing failed. -/
def queryRow (nullifier : Fp) : Nat :=
  match client.routeTier0 nullifier with
  | .ok (s1, _) => s1
  | .error _ => DUMMY_TIER1_ROW

/-- The proof from the routing and the queried row; a failed routing is reported only now. -/
def buildProof (H : Hasher) (nullifier : Fp) (tier1Result : Rust Bytes) : Rust ImtProofData := do
  let (s1, path) ← client.routeTier0 nullifier
  let tier1Row ← tier1Result
  processTier1AndBuild H
    ⟨tier1Row, client.layout, s1, client.numRanges, nullifier, client.emptyHashes, client.circuitRoot⟩
    path

/-- Retrieve a proof (Rust `fetch_proof_inner` and `fetch_proof`). -/
def fetchProof (H : Hasher) (entropy : env.Entropy) (nullifier : Fp) :
    Prog Request (Except String TransportResponse) (Rust ImtProofData) :=
  (client.ypirQuery env entropy "tier1" (client.queryRow nullifier) client.tier1RowBytes).map
    (client.buildProof H nullifier)

/-- The joined retrievals of several nullifiers, each with its own randomness (Rust `fetch_proofs`). -/
def fetchProofs (H : Hasher) (nullifiers : List (env.Entropy × Fp)) :
    List (Prog Request (Except String TransportResponse) (Rust ImtProofData)) :=
  nullifiers.map fun nf => client.fetchProof env H nf.1 nf.2

/-! ### What an accepted client satisfies -/

/-- A client whose rows can all be queried. -/
structure Ready : Prop where
  supported : client.layout.Supported
  tier0 : ∃ nodes records, Tier0Data.Fills client.layout nodes records ∧
    client.tier0 = Tier0Data.ofParts client.layout nodes records
  items : client.tier1Scenario.numItems = 2 ^ client.layout.tier0Layers
  degree : client.tier1Scenario.polyLen = 2048 ∨ client.tier1Scenario.polyLen = 4096

end PirClient

variable {env} {H : Hasher}

/-- An accepted layout is supported. -/
lemma validateLayout_ok {label : String} {l : PirLayout} (ok : validateLayout label l = .ok ()) :
    l.Supported := by
  rw [validateLayout] at ok
  split at ok
  · cases ok
  · exact PirLayout.validateSupported_ok ok

/-- The root metadata is of the layout of the client. -/
lemma fetchRoot_ok {base : String} {l : PirLayout} {rootInfo : RootInfo}
    (ok : fetchRoot env base l = .ok rootInfo) : rootInfo.pirLayout = l := by
  obtain ⟨_, _, ok⟩ := bind_eq_ok.mp ok
  obtain ⟨_, _, ok⟩ := bind_eq_ok.mp ok
  obtain ⟨info, _, ok⟩ := bind_eq_ok.mp ok
  obtain ⟨_, _, ok⟩ := bind_eq_ok.mp ok
  obtain ⟨_, _, ok⟩ := bind_eq_ok.mp ok
  obtain ⟨_, hlayout, ok⟩ := bind_eq_ok.mp ok
  obtain ⟨_, _, ok⟩ := bind_eq_ok.mp ok
  cases ok
  rw [ensure_eq_ok, beq_iff_eq] at hlayout
  exact hlayout.symm

/-- The scenario has one item a Tier 1 row. -/
lemma checkShape_ok {rootInfo : RootInfo} {scenario : YpirScenario} {rowBytes : Nat}
    (sup : rootInfo.pirLayout.Supported) (ok : checkShape rootInfo scenario = .ok rowBytes) :
    scenario.numItems = 2 ^ rootInfo.pirLayout.tier0Layers := by
  rw [checkShape, tier1Geometry, sup.tier1Rows_eq, sup.tier1Leaves_eq, sup.tier1RowBytes_eq] at ok
  simp only [ok_bind] at ok
  obtain ⟨geometry, hgeometry, ok⟩ := bind_eq_ok.mp ok
  cases hgeometry
  obtain ⟨itemBits, _, ok⟩ := bind_eq_ok.mp ok
  obtain ⟨_, hshape, _⟩ := bind_eq_ok.mp ok
  simp only [ensure_eq_ok, Bool.and_eq_true, beq_iff_eq] at hshape
  obtain ⟨⟨⟨⟨⟨hrows, _⟩, hitems⟩, _⟩, _⟩, _⟩ := hshape
  rw [hitems, hrows]

/-- The checks of the connection make a client whose rows can all be queried. -/
lemma withTransport_ready {serverUrl : String} {l : PirLayout} {client : PirClient}
    (ok : withTransport env H serverUrl l = .ok client) : client.Ready := by
  obtain ⟨_, hvalid, ok⟩ := bind_eq_ok.mp ok
  have sup := validateLayout_ok hvalid
  obtain ⟨rootInfo, hroot, ok⟩ := bind_eq_ok.mp ok
  have hlayout := fetchRoot_ok hroot
  obtain ⟨_, _, ok⟩ := bind_eq_ok.mp ok
  obtain ⟨_, _, ok⟩ := bind_eq_ok.mp ok
  obtain ⟨scenario, _, ok⟩ := bind_eq_ok.mp ok
  obtain ⟨_, hdegree, ok⟩ := bind_eq_ok.mp ok
  obtain ⟨rowBytes, hshape, ok⟩ := bind_eq_ok.mp ok
  obtain ⟨_, _, ok⟩ := bind_eq_ok.mp ok
  obtain ⟨tier0Bytes, _, ok⟩ := bind_eq_ok.mp ok
  obtain ⟨_, _, ok⟩ := bind_eq_ok.mp ok
  obtain ⟨tier0, htier0, ok⟩ := bind_eq_ok.mp ok
  obtain ⟨_, _, ok⟩ := bind_eq_ok.mp ok
  obtain ⟨_, _, ok⟩ := bind_eq_ok.mp ok
  obtain ⟨_, _, ok⟩ := bind_eq_ok.mp ok
  obtain ⟨_, _, ok⟩ := bind_eq_ok.mp ok
  cases ok
  subst hlayout
  rw [ensure_eq_ok, beq_iff_eq] at hdegree
  obtain ⟨nodes, records, fills, _, hparts⟩ := Tier0Data.fromLayout_ok sup htier0
  refine ⟨sup, ⟨nodes, records, fills, hparts⟩, checkShape_ok sup hshape, ?_⟩
  rw [hdegree]
  exact sup.poly

/-! ### Requests of a retrieval -/

/-- What the server sees of a request: method, address and length of the body. -/
def Request.view : Request → Bool × String × Nat
  | .get url => (false, url, 0)
  | .post url body => (true, url, body.length)

/-- A result that unwinds through the join. -/
def Unwinds (r : Rust ImtProofData) : Prop := ¬ Graceful r

/-- A caught panic is an error. -/
lemma catchUnwind_graceful {α : Type} {label : String} {r : Rust α} (h : r ≠ .error .diverge) :
    Graceful (catchUnwind label r) := by
  cases r with
  | ok a => exact .ok
  | error e =>
    cases e with
    | err msg => exact .bail
    | panic msg => exact .bail
    | diverge => exact absurd rfl h

section Retrieval

variable {client : PirClient} (ready : client.Ready)
include ready

/-- Routing returns a row of the layout or fails with an error. -/
lemma routeTier0_cases (nullifier : Fp) :
    (∃ s path, client.routeTier0 nullifier = .ok (s, path) ∧ s < 2 ^ client.layout.tier0Layers) ∨
      ∃ msg, client.routeTier0 nullifier = .error (.err msg) := by
  obtain ⟨nodes, records, fills, hparts⟩ := ready.tier0
  rw [PirClient.routeTier0, hparts]
  rcases @processTier0_cases client.layout nullifier ready.supported nodes records fills
    (Vector.replicate TREE_DEPTH 0) with ⟨s, path, hok, hs⟩ | ⟨msg, herr⟩
  · rw [hok]
    exact .inl ⟨s, path, rfl, hs⟩
  · rw [herr]
    exact .inr ⟨msg, rfl⟩

/-- The queried row is one of the server's. -/
lemma queryRow_lt (nullifier : Fp) : client.queryRow nullifier < client.tier1Scenario.numItems := by
  rw [ready.items, PirClient.queryRow]
  rcases routeTier0_cases ready nullifier with ⟨s, path, hok, hs⟩ | ⟨msg, herr⟩
  · rw [hok]
    exact hs
  · rw [herr]
    exact Nat.two_pow_pos _

/-- Nothing that a server answers makes the rest of a retrieval panic. -/
lemma buildProof_graceful (nullifier : Fp) {tier1Result : Rust Bytes} (h : Graceful tier1Result) :
    Graceful (client.buildProof H nullifier tier1Result) := by
  rw [PirClient.buildProof]
  rcases routeTier0_cases ready nullifier with ⟨s, path, hok, hs⟩ | ⟨msg, herr⟩
  · rw [hok, ok_bind]
    refine .bind h fun row _ => ?_
    rcases @processTier1AndBuild_cases client.layout nullifier H ready.supported s client.numRanges hs
      row client.emptyHashes path client.circuitRoot with ⟨proof, hproof, _⟩ | ⟨msg, herr⟩
    · exact .inl ⟨proof, hproof⟩
    · exact .inr ⟨msg, herr⟩
  · rw [herr]
    exact .inr ⟨msg, rfl⟩

omit ready in
/-- Decoding a response is graceful, whatever was sent. -/
lemma decodeRow_graceful {seed : env.Seed} {tierName : String} {expectedRowBytes : Nat}
    {sent : Except String TransportResponse} :
    Graceful (client.decodeRow env seed tierName expectedRowBytes sent) := by
  refine .bind .ofResult fun resp _ => .bind .ensure fun _ _ => .bind ?_ fun _ _ =>
    .bind .ensure fun _ _ => .ok
  apply catchUnwind_graceful
  cases env.decodeResponse client.tier1Scenario seed resp.body with
  | ok row => exact fun h => by cases h
  | error msg => exact fun h => by cases h

/-- A retrieval sends one query, whose address and length are the client's, and is then done. -/
lemma fetchProof_single {pqrLen ppLen : Nat}
    (queries : ∀ entropy row, row < client.tier1Scenario.numItems → ∃ pqr pubParams seed,
      env.generateQuery client.tier1Scenario entropy row = .ok (pqr, pubParams, seed) ∧
        pqr.length = pqrLen ∧ pubParams.length = ppLen)
    (entropy : env.Entropy) (nullifier : Fp) :
    Single Unwinds (fun req => req.view = (true, client.serverUrl ++ "/tier1/query",
      U64_BYTES + (pqrLen + ppLen) * U64_BYTES)) (client.fetchProof env H entropy nullifier) := by
  obtain ⟨pqr, pubParams, seed, hquery, hpqr, hpp⟩ :=
    queries entropy (client.queryRow nullifier) (queryRow_lt ready nullifier)
  have hdegree : (client.tier1Scenario.polyLen == 2048 || client.tier1Scenario.polyLen == 4096) =
      true := by
    simpa using ready.degree
  have hprepared : client.prepareQuery env entropy "tier1" (client.queryRow nullifier) =
      .ok (serializeYpirQuery pqr pubParams, seed) := by
    rw [PirClient.prepareQuery]
    dsimp only
    rw [ensure_pos (decide_eq_true (queryRow_lt ready nullifier)), ok_bind, ensure_pos hdegree, ok_bind,
      hquery, ok_bind]
    rfl
  refine ⟨.post (client.serverUrl ++ "/" ++ "tier1" ++ "/query") (serializeYpirQuery pqr pubParams),
    fun sent => .done (client.buildProof H nullifier
      (client.decodeRow env seed "tier1" client.tier1RowBytes sent)), ?_, ?_, ?_⟩
  · rw [PirClient.fetchProof, PirClient.ypirQuery, hprepared]
    rfl
  · have hurl : client.serverUrl ++ "/" ++ "tier1" ++ "/query" =
        client.serverUrl ++ "/tier1/query" := by
      rw [String.append_assoc, String.append_assoc]
      rfl
    rw [hurl, ← hpqr, ← hpp, ← length_serializeYpirQuery]
    rfl
  · exact fun sent => ⟨_, rfl, fun hnot => hnot (buildProof_graceful ready nullifier decodeRow_graceful)⟩

end Retrieval

/-- What the server sees of the retrievals of an accepted client is one query for each nullifier, with
the same address and the same length, whatever the nullifiers, the answers and the schedule. -/
theorem request_trace_independent {serverUrl : String} {l : PirLayout} {client : PirClient}
    (accepted : withTransport env H serverUrl l = .ok client) {pqrLen ppLen : Nat}
    (queries : ∀ entropy row, row < client.tier1Scenario.numItems → ∃ pqr pubParams seed,
      env.generateQuery client.tier1Scenario entropy row = .ok (pqr, pubParams, seed) ∧
        pqr.length = pqrLen ∧ pubParams.length = ppLen) :
    (∀ entropy nullifier trace, Runs Unwinds [client.fetchProof env H entropy nullifier] trace →
      trace.map Request.view = [(true, client.serverUrl ++ "/tier1/query",
        U64_BYTES + (pqrLen + ppLen) * U64_BYTES)]) ∧
    (∀ nullifiers trace, Runs Unwinds (client.fetchProofs env H nullifiers) trace →
      trace.map Request.view = List.replicate nullifiers.length (true,
        client.serverUrl ++ "/tier1/query", U64_BYTES + (pqrLen + ppLen) * U64_BYTES)) ∧
    ∀ nullifiers nullifiers' trace trace', nullifiers.length = nullifiers'.length →
      Runs Unwinds (client.fetchProofs env H nullifiers) trace →
      Runs Unwinds (client.fetchProofs env H nullifiers') trace' →
      trace.map Request.view = trace'.map Request.view := by
  have ready := withTransport_ready accepted
  have hall : ∀ nullifiers trace, Runs Unwinds (client.fetchProofs env H nullifiers) trace →
      trace.map Request.view = List.replicate nullifiers.length (true,
        client.serverUrl ++ "/tier1/query", U64_BYTES + (pqrLen + ppLen) * U64_BYTES) := by
    intro nullifiers trace run
    obtain ⟨hlen, hview⟩ := run.of_single (by
      intro p hp
      obtain ⟨nf, _, rfl⟩ := List.mem_map.mp hp
      exact fetchProof_single ready queries nf.1 nf.2)
    rw [List.eq_replicate_iff, List.length_map, hlen, PirClient.fetchProofs, List.length_map]
    refine ⟨rfl, ?_⟩
    intro view hmem
    obtain ⟨req, hreq, rfl⟩ := List.mem_map.mp hmem
    exact hview req hreq
  refine ⟨fun entropy nullifier trace run => hall [(entropy, nullifier)] trace run, hall, ?_⟩
  intro nullifiers nullifiers' trace trace' hlen run run'
  rw [hall nullifiers trace run, hall nullifiers' trace' run', hlen]

/-- A Tier 0 whose keys are all above the value 1. -/
def highKeys : Bytes := encodeTier0 (List.replicate 2047 0) (List.replicate 2048 (0, 5))

/-- A server of that Tier 0 that answers no query. -/
def highKeysEnv : ClientEnv where
  get _ := .ok ⟨200, []⟩
  tryJoin _ _ := .ok (⟨200, highKeys⟩, ⟨200, []⟩)
  decodeRootInfo _ := .ok ⟨NULLIFIER_POOL, DATASET_VERSION, hexEncode (Fp.toRepr 0),
    hexEncode (Fp.toRepr 0), 1, ⟨17, 11, 6, 2048⟩, 17, 2048, 6144⟩
  decodeScenario _ := .ok ⟨2048, 49152, 2048⟩
  lossy _ := ""
  Entropy := Unit
  Seed := Unit
  generateQuery _ _ _ := .ok (List.replicate 2048 0, List.replicate 67584 0, ())
  decodeResponse _ _ _ := .error "assertion failed"

/-- A root is read back from its digits. -/
lemma decodeRoot_hexEncode (name : String) (root : Fp) :
    decodeRoot name (hexEncode root.toRepr) = .ok root := by
  rw [decodeRoot, hexDecode_hexEncode, ofOption_some, ok_bind,
    ensure_pos (by rw [Fp.length_toRepr, beq_self_eq_true]), ok_bind, Fp.fromRepr_toRepr]
  rfl

/-- The layout of that server. -/
def highKeysLayout : PirLayout := ⟨17, 11, 6, 2048⟩

/-- The layout of the sample is supported. -/
lemma highKeysLayout_supported : highKeysLayout.Supported :=
  PirLayout.validateSupported_ok (by decide : highKeysLayout.validateSupported = .ok ())

/-- The server of the sample answers with the metadata of its layout. -/
lemma fetchRoot_highKeys (base : String) :
    fetchRoot highKeysEnv base highKeysLayout =
      .ok ⟨NULLIFIER_POOL, DATASET_VERSION, hexEncode (Fp.toRepr 0), hexEncode (Fp.toRepr 0), 1,
        highKeysLayout, 17, 2048, 6144⟩ := by
  have hvalid : validateLayout "server" highKeysLayout = .ok () := by
    rw [validateLayout, highKeysLayout_supported.validateSupported_eq]
  have hget : highKeysEnv.get (base ++ "/root") = .ok ⟨200, []⟩ := rfl
  have hbody : bodyForStatus highKeysEnv ⟨200, []⟩ "GET /root failed" = .ok [] := rfl
  have hdecode : highKeysEnv.decodeRootInfo [] = .ok ⟨NULLIFIER_POOL, DATASET_VERSION,
    hexEncode (Fp.toRepr 0), hexEncode (Fp.toRepr 0), 1, highKeysLayout, 17, 2048, 6144⟩ := rfl
  rw [fetchRoot, hget, ofResult, context_ok, ok_bind, hbody, ok_bind, hdecode, ofResult, context_ok,
    ok_bind, ensure_pos isCurrentDataset_current, ok_bind, hvalid, ok_bind,
    ensure_pos (beq_self_eq_true _), ok_bind, ensure_pos (by rfl), ok_bind]
  rfl

/-- And a client connects to it. -/
lemma withTransport_highKeys :
    ∃ client, withTransport highKeysEnv Hasher.affine "https://pir.example/" highKeysLayout =
      .ok client := by
  have sup := highKeysLayout_supported
  have fills : Tier0Data.Fills highKeysLayout (List.replicate 2047 0) (List.replicate 2048 (0, 5)) :=
    ⟨List.length_replicate, List.length_replicate⟩
  have hparse : Tier0Data.fromLayout highKeys highKeysLayout = .ok (Tier0Data.ofParts highKeysLayout
      (List.replicate 2047 0) (List.replicate 2048 (0, 5))) :=
    Tier0Data.fromLayout_encodeTier0 sup fills
  have hlen : highKeys.length =
      (2 ^ highKeysLayout.tier0Layers - 1) * 32 + 2 ^ highKeysLayout.tier0Layers * 64 := by
    rw [highKeys, Tier0Data.length_encodeTier0, List.length_replicate, List.length_replicate]
    rfl
  have hvalid : validateLayout "expected" highKeysLayout = .ok () := by
    rw [validateLayout, sup.validateSupported_eq]
  have hroot : (Tier0Data.ofParts highKeysLayout (List.replicate 2047 0)
      (List.replicate 2048 (0, 5))).root = .ok 0 := by
    rw [Tier0Data.root_ofParts (by rw [List.length_replicate]; decide), List.getElem_replicate]
  have hshape : ∀ info : RootInfo, info.pirLayout = highKeysLayout → info.tier1Rows = 2048 →
      info.tier1RowBytes = 6144 → checkShape info ⟨2048, 49152, 2048⟩ = .ok 6144 := by
    intro info hlayout hrows hbytes
    rw [checkShape, tier1Geometry, hlayout, hrows, hbytes, sup.tier1Rows_eq, sup.tier1Leaves_eq,
      sup.tier1RowBytes_eq]
    rfl
  have hjoin : highKeysEnv.tryJoin (String.ofList (Utf8.trimEndMatches '/'
      "https://pir.example/".toList) ++ "/tier0") (String.ofList (Utf8.trimEndMatches '/'
      "https://pir.example/".toList) ++ "/params/tier1") = .ok (⟨200, highKeys⟩, ⟨200, []⟩) := rfl
  have hbody : ∀ body ctx, bodyForStatus highKeysEnv ⟨200, body⟩ ctx = .ok body := fun _ _ => rfl
  have hscenario : highKeysEnv.decodeScenario [] = .ok ⟨2048, 49152, 2048⟩ := rfl
  rw [withTransport, hvalid, ok_bind]
  dsimp only
  rw [fetchRoot_highKeys, ok_bind, hjoin, ofResult, context_ok, ok_bind]
  dsimp only
  rw [hbody, ok_bind, hscenario, ofResult, context_ok, ok_bind, ensure_pos (by rfl), ok_bind,
    hshape _ rfl rfl rfl, ok_bind, sup.tier0Bytes_eq, ok_bind, hbody, ok_bind,
    ensure_pos (beq_iff_eq.mpr hlen), ok_bind, hparse, ok_bind, decodeRoot_hexEncode, ok_bind, hroot,
    ok_bind, ensure_pos (beq_self_eq_true _), ok_bind, decodeRoot_hexEncode, ok_bind]
  exact ⟨_, rfl⟩

/-- Two values that Tier 0 of that server cannot route are queried alike. -/
theorem request_trace_independent_high_keys :
    ∃ client, withTransport highKeysEnv Hasher.affine "https://pir.example/" highKeysLayout =
        .ok client ∧
      ∃ trace, Runs Unwinds (client.fetchProofs highKeysEnv Hasher.affine [((), 1), ((), 2)]) trace ∧
        trace.map Request.view = List.replicate 2 (true, client.serverUrl ++ "/tier1/query",
          U64_BYTES + (2048 + 67584) * U64_BYTES) := by
  obtain ⟨client, accepted⟩ := withTransport_highKeys
  have run := runs_of_run Unwinds (fun _ => .error "connection reset") []
    (client.fetchProofs highKeysEnv Hasher.affine [((), 1), ((), 2)]) (fun p hp => by cases hp)
  refine ⟨client, accepted, _, run, ?_⟩
  exact (request_trace_independent accepted fun _ _ _ => ⟨_, _, _, rfl, List.length_replicate,
    List.length_replicate⟩).2.1 _ _ run

end NullifierPir.Client
