import NullifierPir.Lib.Hex
import NullifierPir.Lib.Utf8
import NullifierPir.Rust

/-!
# Update authorization

Port of `signing_bytes` and `verify_with_keys` of `nf-server/src/pir_update.rs`. `Verifier` holds the
third-party parts: base64, ed25519, SHA-256 and the JSON decoders.

The signed text is a fixed header, the scope and five digests of one width, a line each, so that it
determines the scope and the payload (`signingBytes_injective`). `verifyWithKeys_ok` reads off what a
successful verification has checked.
-/

namespace NullifierPir.NfServer.PirUpdate
open Rust ByteString Utf8 Hex

/-- Digests that are signed together (Rust `Payload`). -/
structure Payload where
  configSha256 : String
  linuxAmd64Sha256 : String
  linuxArm64Sha256 : String
  snapshotManifestSha256 : String
  serviceSha256 : String
  deriving DecidableEq

structure SignatureRef where
  keyId : String
  alg : String
  sig : String

structure Attestations where
  schemaVersion : Nat
  payload : Payload
  signatures : List SignatureRef

structure Key where
  keyId : String
  pubkey : String

/-- What the coordinator selects (Rust `Config`). -/
structure UpdateConfig where
  schemaVersion : Nat
  snapshotHeight : Nat
  binaryTag : String
  deriving DecidableEq

/-- Third-party functions of the verification. -/
structure Verifier where
  PublicKey : Type
  Signature : Type
  base64Decode : String → Option Bytes
  verifyingKey : Bytes → Option PublicKey
  signatureFromSlice : Bytes → Option Signature
  verifyStrict : PublicKey → Bytes → Signature → Bool
  sha256 : Bytes → Bytes
  decodeAttestations : Bytes → Except String Attestations
  decodeConfig : Bytes → Except String UpdateConfig

/-! ### Signed message -/

/-- The digests in the order they are signed. -/
def Payload.hashes (payload : Payload) : List String :=
  [payload.configSha256, payload.linuxAmd64Sha256, payload.linuxArm64Sha256,
    payload.snapshotManifestSha256, payload.serviceSha256]

def isLowerHex (b : UInt8) : Bool :=
  (ascii '0' ≤ b && b ≤ ascii '9') || (ascii 'a' ≤ b && b ≤ ascii 'f')

/-- 64 bytes of lower-case hexadecimal digits. -/
def isSha256 (hash : String) : Bool :=
  byteLen hash.toList == 64 && (encode hash.toList).all isLowerHex

/-- Push the digests, a line each. -/
def pushHashes : List String → Text → Rust Text
  | [], result => .ok result
  | hash :: hashes, result => do
    ensure (isSha256 hash) "invalid SHA-256"
    pushHashes hashes (result ++ hash.toList ++ ['\n'])

/-- Rust `signing_bytes`. -/
def signingBytes (scope : String) (payload : Payload) : Rust Bytes := do
  ensure (scope == "prod" || scope == "stage") "invalid update scope"
  let result := "valargroup/pir-update/v1\n".toList ++ scope.toList ++ ['\n']
  return encode (← pushHashes payload.hashes result)

/-! ### Verification -/

variable (V : Verifier)

/-- Public key of a listed key, if it decodes. -/
def Verifier.decodeKey (key : Key) : Option V.PublicKey :=
  ((V.base64Decode key.pubkey).filter fun pk => pk.length == 32).bind V.verifyingKey

/-- Signature of an entry, if it decodes. -/
def Verifier.decodeSignature (entry : SignatureRef) : Option V.Signature :=
  (V.base64Decode entry.sig).bind V.signatureFromSlice

/-- A listed key accepts the signature of an entry. -/
def Verifier.keyAccepts (message : Bytes) (entry : SignatureRef) (key : Key) : Bool :=
  key.keyId == entry.keyId && (V.decodeKey key).any fun pk =>
    (V.decodeSignature entry).any fun sig => V.verifyStrict pk message sig

/-- Explicit release tags. -/
def isReleaseTag (tag : String) : Bool :=
  tag.toList.head? == some 'v' && decide (byteLen tag.toList ≤ 128) &&
    decide (1 < byteLen tag.toList) &&
    tag.toList.all fun c => c.isAlphanum || c == '.' || c == '-' || c == '+'

/-- Rust `verify_with_keys`. -/
def verifyWithKeys (config attestations : Bytes) (scope : String) (keys : List Key) :
    Rust (UpdateConfig × Payload) := do
  ensure (decide (config.length ≤ 65536) && decide (attestations.length ≤ 65536))
    "update metadata too large"
  let att ← context "decode attestations" (ofResult (V.decodeAttestations attestations))
  ensure (att.schemaVersion == 1) "unsupported attestation version"
  let message ← signingBytes scope att.payload
  ensure (hexEncode (V.sha256 config) == att.payload.configSha256)
    "config does not match attestation"
  let valid := att.signatures.any fun entry =>
    entry.alg == "ed25519" && keys.any (V.keyAccepts message entry)
  ensure valid "no trusted coordinator signature matches this update"
  let cfg ← context "decode PIR config" (ofResult (V.decodeConfig config))
  ensure (cfg.schemaVersion == 1) "unsupported PIR config version"
  ensure (isReleaseTag cfg.binaryTag) "invalid explicit release tag"
  ensure (decide (0 < cfg.snapshotHeight) && decide (cfg.snapshotHeight ≤ 9007199254740991))
    "invalid snapshot height"
  return (cfg, att.payload)

/-! ### The message determines what is signed -/

/-- A digest has 64 ASCII characters. -/
lemma isSha256_spec {hash : String} (h : isSha256 hash = true) :
    hash.toList.length = 64 ∧ ∀ c ∈ hash.toList, c.toNat < 128 := by
  rw [isSha256, Bool.and_eq_true, beq_iff_eq, List.all_eq_true] at h
  have hlt : ∀ b ∈ encode hash.toList, b.toNat < 128 := by
    intro b hb
    have hhex := h.2 b hb
    simp only [isLowerHex, Bool.or_eq_true, Bool.and_eq_true, decide_eq_true_eq] at hhex
    rcases hhex with ⟨_, hle⟩ | ⟨_, hle⟩
    · exact lt_of_le_of_lt (b := 57) hle (by decide)
    · exact lt_of_le_of_lt (b := 102) hle (by decide)
  have hascii := lt_of_encode_lt hlt
  exact ⟨(length_of_lt hascii).trans h.1, hascii⟩

/-- The lines of the digests. -/
def hashLines (hashes : List String) : Text := hashes.flatMap fun hash => hash.toList ++ ['\n']

/-- Pushed digests are digests. -/
lemma pushHashes_ok {hashes : List String} {result text : Text}
    (ok : pushHashes hashes result = .ok text) :
    text = result ++ hashLines hashes ∧ ∀ hash ∈ hashes, isSha256 hash = true := by
  induction hashes generalizing result with
  | nil =>
    cases ok
    exact ⟨(List.append_nil _).symm, fun hash h => by cases h⟩
  | cons hash hashes ih =>
    obtain ⟨_, hhash, ok⟩ := bind_eq_ok.mp ok
    obtain ⟨rfl, hall⟩ := ih ok
    refine ⟨by simp [hashLines], fun other hother => ?_⟩
    rcases List.mem_cons.mp hother with rfl | hother
    · exact ensure_eq_ok.mp hhash
    · exact hall other hother

/-- Lines of one width are told apart. -/
lemma hashLines_injective {hashes hashes' : List String} (hlen : hashes.length = hashes'.length)
    (hwidth : ∀ hash ∈ hashes, isSha256 hash = true) (hwidth' : ∀ hash ∈ hashes', isSha256 hash = true)
    (h : hashLines hashes = hashLines hashes') : hashes = hashes' := by
  induction hashes generalizing hashes' with
  | nil =>
    cases hashes' with
    | nil => rfl
    | cons hash' hashes' => cases hlen
  | cons hash hashes ih =>
    cases hashes' with
    | nil => cases hlen
    | cons hash' hashes' =>
      have h64 := (isSha256_spec (hwidth hash List.mem_cons_self)).1
      have h64' := (isSha256_spec (hwidth' hash' List.mem_cons_self)).1
      rw [hashLines, hashLines, List.flatMap_cons, List.flatMap_cons] at h
      obtain ⟨hline, hrest⟩ := List.append_inj h (by
        rw [List.length_append, List.length_append, h64, h64'])
      have hhash : hash = hash' := by
        rw [← String.ofList_toList (s := hash), List.append_cancel_right hline, String.ofList_toList]
      rw [hhash, ih (Nat.succ.inj hlen) (fun x hx => hwidth x (List.mem_cons_of_mem _ hx))
        (fun x hx => hwidth' x (List.mem_cons_of_mem _ hx)) hrest]

/-- The text that is signed. -/
def signingText (scope : String) (payload : Payload) : Text :=
  "valargroup/pir-update/v1\n".toList ++ scope.toList ++ ['\n'] ++ hashLines payload.hashes

/-- The signed bytes are those of the signing text. -/
lemma signingBytes_ok {scope : String} {payload : Payload} {message : Bytes}
    (ok : signingBytes scope payload = .ok message) :
    (scope = "prod" ∨ scope = "stage") ∧ (∀ hash ∈ payload.hashes, isSha256 hash = true) ∧
      message = encode (signingText scope payload) := by
  rw [signingBytes] at ok
  obtain ⟨_, hscope, ok⟩ := bind_eq_ok.mp ok
  obtain ⟨text, htext, ok⟩ := bind_eq_ok.mp ok
  cases ok
  obtain ⟨rfl, hhashes⟩ := pushHashes_ok htext
  rw [ensure_eq_ok, Bool.or_eq_true, beq_iff_eq, beq_iff_eq] at hscope
  exact ⟨hscope, hhashes, rfl⟩

/-- Digests are pushed. -/
lemma pushHashes_eq {hashes : List String} (h : ∀ hash ∈ hashes, isSha256 hash = true) (result : Text) :
    pushHashes hashes result = .ok (result ++ hashLines hashes) := by
  induction hashes generalizing result with
  | nil => simp [pushHashes, hashLines]
  | cons hash hashes ih =>
    rw [List.forall_mem_cons] at h
    rw [pushHashes, ensure_pos h.1, ok_bind, ih h.2]
    simp [hashLines]

/-- And the signing text is signed. -/
lemma signingBytes_eq {scope : String} {payload : Payload} (hscope : scope = "prod" ∨ scope = "stage")
    (h : ∀ hash ∈ payload.hashes, isSha256 hash = true) :
    signingBytes scope payload = .ok (encode (signingText scope payload)) := by
  have hallowed : (scope == "prod" || scope == "stage") = true := by simpa using hscope
  rw [signingBytes, ensure_pos hallowed, ok_bind]
  simp only [pushHashes_eq h, ok_bind]
  rfl

/-- Digest lines are ASCII. -/
lemma hashLines_ascii {hashes : List String} (h : ∀ hash ∈ hashes, isSha256 hash = true) :
    ∀ c ∈ hashLines hashes, c.toNat < 128 := by
  intro c hc
  obtain ⟨hash, hhash, hc⟩ := List.mem_flatMap.mp hc
  rcases List.mem_append.mp hc with hc | hc
  · exact (isSha256_spec (h hash hhash)).2 c hc
  · obtain rfl := List.mem_singleton.mp hc
    decide

/-- A digest line has 65 characters. -/
lemma length_hashLines {hashes : List String} (h : ∀ hash ∈ hashes, isSha256 hash = true) :
    (hashLines hashes).length = hashes.length * 65 := by
  refine length_flatMap_const fun hash hhash => ?_
  rw [List.length_append, (isSha256_spec (h hash hhash)).1]
  rfl

/-- The signing text is ASCII. -/
lemma signingText_ascii {scope : String} {payload : Payload} (hscope : scope = "prod" ∨ scope = "stage")
    (h : ∀ hash ∈ payload.hashes, isSha256 hash = true) :
    ∀ c ∈ signingText scope payload, c.toNat < 128 := by
  have hhead : ("valargroup/pir-update/v1\n".toList ++ scope.toList ++ ['\n']).all
      (fun c => decide (c.toNat < 128)) = true := by
    cases hscope with
    | inl hscope => simp [hscope]
    | inr hscope => simp [hscope]
  intro c hc
  cases List.mem_append.mp hc with
  | inl hc => exact of_decide_eq_true (List.all_eq_true.mp hhead c hc)
  | inr hc => exact hashLines_ascii h c hc

/-- Texts with one header and lines of one length have one scope and the same lines. -/
lemma header_append_inj {header scope scope' lines lines' : Text}
    (hlen : lines.length = lines'.length)
    (h : header ++ scope ++ ['\n'] ++ lines = header ++ scope' ++ ['\n'] ++ lines') :
    scope = scope' ∧ lines = lines' := by
  obtain ⟨hhead, hlines⟩ := List.append_inj' h hlen
  have hscope := List.append_cancel_right hhead
  exact ⟨List.append_cancel_left hscope, hlines⟩

/-- A message is that of one scope and one payload. -/
lemma signingBytes_injective {scope scope' : String} {payload payload' : Payload} {message : Bytes}
    (ok : signingBytes scope payload = .ok message) (ok' : signingBytes scope' payload' = .ok message) :
    scope = scope' ∧ payload = payload' := by
  obtain ⟨hscope, hhashes, hmessage⟩ := signingBytes_ok ok
  obtain ⟨hscope', hhashes', hmessage'⟩ := signingBytes_ok ok'
  have htext := encode_inj_of_lt (signingText_ascii hscope hhashes) (signingText_ascii hscope' hhashes')
    (hmessage.symm.trans hmessage')
  have hlines : (hashLines payload.hashes).length = (hashLines payload'.hashes).length := by
    rw [length_hashLines hhashes, length_hashLines hhashes']
    rfl
  obtain ⟨hscopes, htail⟩ := header_append_inj hlines htext
  have hpayload : payload.hashes = payload'.hashes := hashLines_injective rfl hhashes hhashes' htail
  refine ⟨String.toList_injective hscopes, ?_⟩
  cases payload
  cases payload'
  simpa [Payload.hashes] using hpayload

/-! ### What a verification has checked -/

variable {V}

/-- An accepting key is the one the entry names, and verifies strictly. -/
lemma keyAccepts_spec {message : Bytes} {entry : SignatureRef} {key : Key}
    (h : V.keyAccepts message entry key = true) :
    key.keyId = entry.keyId ∧ ∃ pk sig, V.decodeKey key = some pk ∧
      V.decodeSignature entry = some sig ∧ V.verifyStrict pk message sig = true := by
  rw [Verifier.keyAccepts, Bool.and_eq_true, beq_iff_eq, Option.any_eq_true_iff_get] at h
  obtain ⟨hid, hkey, h⟩ := h
  rw [Option.any_eq_true_iff_get] at h
  obtain ⟨hsig, h⟩ := h
  exact ⟨hid, _, _, (Option.some_get hkey).symm, (Option.some_get hsig).symm, h⟩

/-- The signature of an entry of the document is accepted by a listed key of the named id. -/
structure Authorized (V : Verifier) (attestations : Bytes) (keys : List Key) (scope : String)
    (payload : Payload) (pk : V.PublicKey) (sig : V.Signature) : Prop where
  named : ∃ att entry key, V.decodeAttestations attestations = .ok att ∧ att.payload = payload ∧
    entry ∈ att.signatures ∧ key ∈ keys ∧ key.keyId = entry.keyId ∧ V.decodeKey key = some pk ∧
    V.decodeSignature entry = some sig
  verifies : ∃ message, signingBytes scope payload = .ok message ∧
    V.verifyStrict pk message sig = true

/-- What an accepted document establishes. -/
lemma verifyWithKeys_ok {config attestations : Bytes} {scope : String} {keys : List Key}
    {cfg : UpdateConfig} {payload : Payload}
    (ok : verifyWithKeys V config attestations scope keys = .ok (cfg, payload)) :
    payload.configSha256 = hexEncode (V.sha256 config) ∧ V.decodeConfig config = .ok cfg ∧
      ∃ pk sig, Authorized V attestations keys scope payload pk sig := by
  rw [verifyWithKeys] at ok
  obtain ⟨_, _, ok⟩ := bind_eq_ok.mp ok
  obtain ⟨att, hatt, ok⟩ := bind_eq_ok.mp ok
  obtain ⟨_, _, ok⟩ := bind_eq_ok.mp ok
  obtain ⟨message, hmessage, ok⟩ := bind_eq_ok.mp ok
  obtain ⟨_, hdigest, ok⟩ := bind_eq_ok.mp ok
  obtain ⟨_, hvalid, ok⟩ := bind_eq_ok.mp ok
  obtain ⟨cfg', hcfg, ok⟩ := bind_eq_ok.mp ok
  obtain ⟨_, _, ok⟩ := bind_eq_ok.mp ok
  obtain ⟨_, _, ok⟩ := bind_eq_ok.mp ok
  obtain ⟨_, _, ok⟩ := bind_eq_ok.mp ok
  cases ok
  rw [ensure_eq_ok, beq_iff_eq] at hdigest
  rw [ensure_eq_ok, List.any_eq_true] at hvalid
  obtain ⟨entry, hentry, haccepts⟩ := hvalid
  rw [Bool.and_eq_true, List.any_eq_true] at haccepts
  obtain ⟨_, key, hkey, haccepts⟩ := haccepts
  obtain ⟨hid, pk, sig, hpk, hsig, hverify⟩ := keyAccepts_spec haccepts
  refine ⟨hdigest.symm, ofResult_eq_ok.mp (context_eq_ok.mp hcfg), pk, sig, ?_⟩
  exact ⟨⟨att, entry, key, ofResult_eq_ok.mp (context_eq_ok.mp hatt), rfl, hentry, hkey, hid, hpk, hsig⟩,
    message, hmessage, hverify⟩

/-- An update signature authorizes one scope, one payload and one config. -/
theorem update_signature_binds (V : Verifier) (signed : V.PublicKey → V.Signature → Option Bytes)
    (hstrict : ∀ pk message sig, V.verifyStrict pk message sig = true →
      signed pk sig = some message) :
    (∀ scope scope' payload payload' message, signingBytes scope payload = .ok message →
      signingBytes scope' payload' = .ok message → scope = scope' ∧ payload = payload') ∧
    ∀ config attestations scope keys cfg payload,
      verifyWithKeys V config attestations scope keys = .ok (cfg, payload) →
      payload.configSha256 = hexEncode (V.sha256 config) ∧ V.decodeConfig config = .ok cfg ∧
      (∃ pk sig, Authorized V attestations keys scope payload pk sig) ∧
      ∀ pk sig, Authorized V attestations keys scope payload pk sig →
        ∀ scope' payload' message' config', signingBytes scope' payload' = .ok message' →
          signed pk sig = some message' → payload'.configSha256 = hexEncode (V.sha256 config') →
          (V.sha256 config' = V.sha256 config → config' = config) →
          scope' = scope ∧ payload' = payload ∧ config' = config := by
  refine ⟨fun scope scope' payload payload' message => signingBytes_injective, ?_⟩
  intro config attestations scope keys cfg payload ok
  obtain ⟨hdigest, hcfg, hauthorized⟩ := verifyWithKeys_ok ok
  refine ⟨hdigest, hcfg, hauthorized, ?_⟩
  intro pk sig authorized scope' payload' message' config' hmessage' hsigned hdigest' hcollide
  obtain ⟨message, hmessage, hverify⟩ := authorized.verifies
  have hsame : message' = message := by
    have hmade := hstrict pk message sig hverify
    rw [hsigned] at hmade
    exact Option.some.inj hmade
  subst hsame
  obtain ⟨rfl, rfl⟩ := signingBytes_injective hmessage' hmessage
  refine ⟨rfl, rfl, hcollide ?_⟩
  exact hexEncode_injective (hdigest'.symm.trans hdigest)

/-! The known-answer vector of `testdata/pir-update-vector.json`. -/

def vectorConfig : Bytes :=
  encode "\x7b\"schema_version\":1,\"snapshot_height\":3484440,\"binary_tag\":\"v1.2.3\"\x7d\n".toList

def vectorDigest : Bytes :=
  [113, 72, 180, 241, 91, 45, 8, 165, 26, 234, 110, 81, 232, 116, 130, 58, 140, 229, 221, 159,
    202, 36, 182, 249, 161, 148, 162, 192, 162, 146, 219, 188]

def vectorKey : Bytes :=
  [234, 74, 108, 99, 226, 156, 82, 10, 190, 245, 80, 123, 19, 46, 197, 249, 149, 71, 118, 174,
    190, 190, 123, 146, 66, 30, 234, 105, 20, 70, 210, 44]

def vectorSignature : Bytes :=
  [85, 80, 47, 171, 160, 186, 150, 94, 170, 86, 54, 229, 89, 207, 200, 237, 252, 187, 32, 212,
    153, 150, 103, 5, 145, 154, 32, 134, 216, 14, 79, 205, 197, 140, 230, 124, 104, 78, 189, 193,
    191, 155, 94, 217, 186, 35, 92, 205, 134, 57, 245, 239, 238, 54, 121, 120, 96, 100, 154, 167,
    230, 60, 76, 3]

def vectorPayload : Payload where
  configSha256 := hexEncode vectorDigest
  linuxAmd64Sha256 := String.ofList (List.replicate 64 '1')
  linuxArm64Sha256 := String.ofList (List.replicate 64 '2')
  snapshotManifestSha256 := String.ofList (List.replicate 64 '3')
  serviceSha256 := String.ofList (List.replicate 64 '4')

def vectorSignatureText : String :=
  "VVAvq6C6ll6qVjblWc/I7fy7INSZlmcFkZoghtgOT83F" ++
    "jOZ8aE69wb+bXtm6I1zNhjn17+42eXhgZJqn5jxMAw=="

def vectorKeys : List Key := [⟨"fixture", "6kpsY+KcUgq+9VB7Ey7F+ZVHdq6+vnuSQh7qaRRG0iw="⟩]

def vectorAttestations : Attestations where
  schemaVersion := 1
  payload := vectorPayload
  signatures := [⟨"fixture", "ed25519", vectorSignatureText⟩]

/-- The document of the attestations. -/
def vectorDocument : Bytes :=
  encode ("\x7b\"schema_version\":1,\"payload\":\x7b\"config_sha256\":\"" ++
    vectorPayload.configSha256 ++ "\",\"linux_amd64_sha256\":\"" ++
    vectorPayload.linuxAmd64Sha256 ++ "\",\"linux_arm64_sha256\":\"" ++
    vectorPayload.linuxArm64Sha256 ++ "\",\"snapshot_manifest_sha256\":\"" ++
    vectorPayload.snapshotManifestSha256 ++ "\",\"service_sha256\":\"" ++
    vectorPayload.serviceSha256 ++ "\"\x7d,\"signatures\":[\x7b\"key_id\":\"fixture\"," ++
    "\"alg\":\"ed25519\",\"sig\":\"" ++ vectorSignatureText ++ "\"\x7d]\x7d").toList

/-- The third-party functions at the vector's values. -/
def vectorVerifier : Verifier where
  PublicKey := Bytes
  Signature := Bytes
  base64Decode s :=
    if s = "6kpsY+KcUgq+9VB7Ey7F+ZVHdq6+vnuSQh7qaRRG0iw=" then some vectorKey
    else if s = vectorSignatureText then some vectorSignature
    else none
  verifyingKey pk := if pk = vectorKey then some pk else none
  signatureFromSlice sig := if sig.length = 64 then some sig else none
  verifyStrict (pk : Bytes) (message : Bytes) (sig : Bytes) :=
    decide (pk = vectorKey ∧ sig = vectorSignature ∧
      message = encode (signingText "prod" vectorPayload))
  sha256 bs := if bs = vectorConfig then vectorDigest else []
  decodeAttestations bs :=
    if bs = vectorDocument then .ok vectorAttestations else .error "expected value"
  decodeConfig bs :=
    if bs = vectorConfig then .ok ⟨1, 3484440, "v1.2.3"⟩ else .error "expected value"

/-- The vector verifies one message. -/
lemma vectorVerifier_message {pk message sig : Bytes}
    (h : vectorVerifier.verifyStrict pk message sig = true) :
    message = encode (signingText "prod" vectorPayload) := by
  have hall : pk = vectorKey ∧ sig = vectorSignature ∧
      message = encode (signingText "prod" vectorPayload) := of_decide_eq_true h
  exact hall.2.2

/-- The functions answer as they do for the vector. -/
lemma vectorVerifier_decodes :
    vectorVerifier.decodeAttestations vectorDocument = .ok vectorAttestations ∧
      vectorVerifier.decodeConfig vectorConfig = .ok ⟨1, 3484440, "v1.2.3"⟩ ∧
      vectorVerifier.sha256 vectorConfig = vectorDigest := by
  simp only [vectorVerifier, ↓reduceIte, and_self]

/-- Its key accepts its signature. -/
lemma vectorVerifier_keyAccepts :
    vectorVerifier.keyAccepts (encode (signingText "prod" vectorPayload))
      ⟨"fixture", "ed25519", vectorSignatureText⟩
      ⟨"fixture", "6kpsY+KcUgq+9VB7Ey7F+ZVHdq6+vnuSQh7qaRRG0iw="⟩ = true := by
  have hne : vectorSignatureText ≠ "6kpsY+KcUgq+9VB7Ey7F+ZVHdq6+vnuSQh7qaRRG0iw=" := by
    decide +kernel
  have hkey : Option.filter (fun pk => pk.length == 32) (some vectorKey) = some vectorKey := rfl
  have hsig : vectorSignature.length = 64 := rfl
  simp [Verifier.keyAccepts, Verifier.decodeKey, Verifier.decodeSignature, vectorVerifier, hne, hkey,
    hsig]

/-- Its digests are digests. -/
lemma vectorPayload_isSha256 : ∀ hash ∈ vectorPayload.hashes, isSha256 hash = true := by
  simp only [Payload.hashes, vectorPayload, List.forall_mem_cons]
  refine ⟨by decide +kernel, by decide +kernel, by decide +kernel, by decide +kernel,
    by decide +kernel, fun hash h => ?_⟩
  cases h

/-- The metadata of the vector is below the limit. -/
lemma vector_length :
    (decide (vectorConfig.length ≤ 65536) && decide (vectorDocument.length ≤ 65536)) = true := by
  rw [vectorConfig, vectorDocument, length_encode_toList, length_encode_toList]
  simp only [String.utf8ByteSize_append]
  decide +kernel

/-- The vector is accepted. -/
lemma verifyWithKeys_vector :
    verifyWithKeys vectorVerifier vectorConfig vectorDocument "prod" vectorKeys =
      .ok (⟨1, 3484440, "v1.2.3"⟩, vectorPayload) := by
  obtain ⟨hattestations, hconfig, hdigest⟩ := vectorVerifier_decodes
  have hsigned := signingBytes_eq (.inl rfl) vectorPayload_isSha256
  have hsignature : (vectorAttestations.signatures.any fun entry => entry.alg == "ed25519" &&
      vectorKeys.any (vectorVerifier.keyAccepts (encode (signingText "prod" vectorPayload)) entry)) =
      true := by
    simp [vectorAttestations, vectorKeys, vectorVerifier_keyAccepts]
  have htag : isReleaseTag "v1.2.3" = true := by decide +kernel
  rw [verifyWithKeys, ensure_pos vector_length, ok_bind, hattestations, ofResult, context_ok, ok_bind]
  rw [ensure_pos (by rfl), ok_bind, show vectorAttestations.payload = vectorPayload from rfl, hsigned,
    ok_bind, hdigest, ensure_pos (by simp [vectorPayload]), ok_bind]
  dsimp only
  rw [ensure_pos hsignature, ok_bind, hconfig, ofResult, context_ok, ok_bind]
  rw [ensure_pos (by rfl), ok_bind, ensure_pos htag, ok_bind, ensure_pos (by decide), ok_bind]
  rfl

/-- The accepted vector is authorized. -/
theorem update_signature_binds_vector :
    verifyWithKeys vectorVerifier vectorConfig vectorDocument "prod" vectorKeys =
      .ok (⟨1, 3484440, "v1.2.3"⟩, vectorPayload) ∧
    ∃ pk sig, Authorized vectorVerifier vectorDocument vectorKeys "prod" vectorPayload pk sig := by
  refine ⟨verifyWithKeys_vector, ?_⟩
  refine ((update_signature_binds vectorVerifier
    (fun _ _ => some (encode (signingText "prod" vectorPayload))) ?_).2 _ _ _ _ _ _
      verifyWithKeys_vector).2.2.1
  intro pk message sig hverify
  rw [vectorVerifier_message hverify]

end NullifierPir.NfServer.PirUpdate
