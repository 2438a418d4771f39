import NullifierPir.Lib.Hex
import NullifierPir.Export.Roots
import NullifierPir.Ingest.Sync

/-!
# Independent root verification

Port of `nf-server/src/root_verifier.rs` and of `nf-server/src/cmd_verify_root.rs`. The block format is
the third party's: `BlockFormat` holds its decoder and the fields that are read. The provider answers
anything. A walk that succeeds has decoded an authentic chain (`walk_ok`), and a result that is printed
comes from such a walk and from the tree over its nullifiers (`verifyResult_ok`).
-/

namespace NullifierPir.NfServer
open Rust ByteString Hex Imt Export Ingest NullifierPir.Types

/-- A `[u8; 32]`. -/
abbrev Bytes32 := { bs : Bytes // bs.length = 32 }

/-- Header fields that are read; `rest` stands for the others. -/
structure Header (Hash Rest : Type) where
  previousBlockHash : Hash
  merkleRoot : Hash
  rest : Rest

/-- A decoded block. -/
structure Block (Hash Rest Tx : Type) where
  header : Header Hash Rest
  transactions : List Tx

/-- The block format of the node library. -/
structure BlockFormat where
  Hash : Type
  Rest : Type
  Tx : Type
  decEq : DecidableEq Hash
  maxBlockBytes : Nat
  /-- The block and the number of bytes it takes. -/
  deserialize : Bytes → Except String (Block Hash Rest Tx × Nat)
  headerHash : Header Hash Rest → Hash
  txid : Tx → Hash
  merkleRoot : List Hash → Hash
  coinbaseHeight : List Tx → Option Nat
  ironwoodNullifiers : Tx → List Bytes32
  hashFromHex : String → Except String Hash
  hashToHex : Hash → String

instance (F : BlockFormat) : DecidableEq F.Hash := F.decEq

/-- Effects of one authenticated block (Rust `VerifiedBlock`). -/
structure VerifiedBlock (F : BlockFormat) where
  previousHash : F.Hash
  nullifiers : List Bytes32

variable (F : BlockFormat)

/-- A block of the format. -/
abbrev BlockFormat.Block := NfServer.Block F.Hash F.Rest F.Tx

/-- Nullifiers of a block, in transaction order. -/
def BlockFormat.blockNullifiers (b : F.Block) : List Bytes32 :=
  b.transactions.flatMap F.ironwoodNullifiers

/-- Authenticate a block's effects (Rust `verify_block`). -/
def verifyBlock (raw : Bytes) (expectedHash : F.Hash) (expectedHeight : Nat) :
    Rust (VerifiedBlock F) := do
  ensure (decide (raw.length ≤ F.maxBlockBytes)) "raw block exceeds size limit"
  let decoded ← context "decode raw block" (ofResult (F.deserialize raw))
  let block := decoded.1
  ensure (decoded.2 == raw.length) "trailing bytes after block"
  ensure (decide (F.headerHash block.header = expectedHash))
    s!"block hash mismatch at height {expectedHeight}"
  ensure (decide (F.coinbaseHeight block.transactions = some expectedHeight))
    s!"coinbase height mismatch at height {expectedHeight}"
  ensure (!block.transactions.isEmpty) "empty transaction list"
  let txids := block.transactions.map F.txid
  ensure (txids.dedup.length == txids.length) "duplicate transaction IDs"
  ensure (decide (F.merkleRoot txids = block.header.merkleRoot))
    s!"transaction Merkle root mismatch at height {expectedHeight}"
  return ⟨block.header.previousBlockHash, F.blockNullifiers block⟩

/-- What the block provider answers to each request, in order. -/
abbrev RawBlockRpc := Nat → F.Hash → Except String Bytes

/-- The walk from the trusted hash back to activation: `n` more blocks, from `height` down. -/
def walk (rpc : RawBlockRpc F) : Nat → Nat → Nat → F.Hash → List Bytes32 → Rust (List Bytes32)
  | 0, _, _, _, nullifiers => return nullifiers
  | n + 1, request, height, expectedHash, nullifiers => do
    let raw ← context s!"fetch block at height {height}" (ofResult (rpc request expectedHash))
    let verified ← verifyBlock F raw expectedHash height
    let nullifiers := nullifiers ++ verified.nullifiers
    ensure (decide (nullifiers.length ≤ 2 * 2 ^ PIR_DEPTH))
      "Ironwood action count exceeds verifier capacity"
    walk rpc n (request + 1) (height - 1) verified.previousHash nullifiers

/-- Rust `validate_export_height`. -/
def validateExportHeight (height : Nat) (net : ZcashNetwork) : Rust Unit := do
  let activationHeight := nu63ActivationHeight net
  ensure (decide (activationHeight ≤ height))
    s!"height {height} is below NU6.3 activation on {net.asStr} ({activationHeight})"
  ensure (height % 10 == 0) s!"height {height} must be a multiple of 10"

/-- 32 bytes of canonical field representation (Rust `parse_root`). -/
def parseRoot (encoded : String) : Rust Fp := do
  let bytes ← ofOption "circuit root must be 32 bytes of hex"
    ((hexDecode encoded.toList).filter fun bs => bs.length == 32)
  ofOption "circuit root is not a canonical field element" (Fp.fromRepr bytes)

/-- A task on the blocking pool: its panic is a join error. -/
def joinBlocking {α : Type} (ctx : String) : Rust α → Rust α
  | .error (.panic msg) => bail (ctx ++ ": " ++ msg)
  | r => r

/-- Command-line arguments that select what is verified. -/
structure VerifyArgs where
  zcashNetwork : ZcashNetwork
  height : Nat
  trustedBlockHash : String
  expectedCircuitRoot : String

/-- The printed result. -/
structure VerifyResult where
  zcashNetwork : ZcashNetwork
  nullifierPool : String
  datasetVersion : Nat
  height : Nat
  trustedBlockHash : String
  expectedCircuitRoot : String
  computedCircuitRoot : String
  computedPirRoot : String
  verifiedBlocks : Nat
  ironwoodActions : Nat
  matched : Bool

/-- The result that is printed, if any. -/
def verifyResult (H : Hasher) (args : VerifyArgs) (rpc : RawBlockRpc F) : Rust VerifyResult := do
  validateExportHeight args.height args.zcashNetwork
  let trustedHash ← context "trusted block hash must be 32 bytes of RPC display-order hex"
    (ofResult (F.hashFromHex args.trustedBlockHash))
  let expectedRoot ← parseRoot args.expectedCircuitRoot
  let activation := nu63ActivationHeight args.zcashNetwork
  let blockCount := args.height - activation + 1
  let nullifiers ← walk F rpc blockCount 0 args.height trustedHash []
  let tree ← joinBlocking "join root construction" (do
    let fields ← parseNullifierBytes (nullifiers.flatMap fun nf => nf.val)
    buildPirTreeFromNullifiers H fields)
  return {
    zcashNetwork := args.zcashNetwork
    nullifierPool := NULLIFIER_POOL
    datasetVersion := DATASET_VERSION
    height := args.height
    trustedBlockHash := F.hashToHex trustedHash
    expectedCircuitRoot := hexEncode expectedRoot.toRepr
    computedCircuitRoot := hexEncode tree.circuitRoot.toRepr
    computedPirRoot := hexEncode tree.pirRoot.toRepr
    verifiedBlocks := blockCount
    ironwoodActions := nullifiers.length
    matched := decide (tree.circuitRoot = expectedRoot) }

/-- Print a result, then fail on a mismatch (Rust `run`). -/
def verifyRoot (H : Hasher) (args : VerifyArgs) (rpc : RawBlockRpc F) :
    Option VerifyResult × Rust Unit :=
  match verifyResult F H args rpc with
  | .ok r => (some r, ensure r.matched
      "proposed circuit root does not match the authenticated Ironwood dataset")
  | .error e => (none, .error e)

section Chain

/-- A block of its height with distinct transactions under its transaction root. -/
structure BlockFormat.Valid (height : Nat) (b : F.Block) : Prop where
  coinbase : F.coinbaseHeight b.transactions = some height
  nonempty : b.transactions ≠ []
  nodup : (b.transactions.map F.txid).Nodup
  root : F.merkleRoot (b.transactions.map F.txid) = b.header.merkleRoot

/-- Blocks from `height` down, each the predecessor of the one before, that end at `hash`. -/
inductive Authentic : F.Hash → Nat → List F.Block → Prop
  | nil {hash height} : Authentic hash height []
  | cons {height b blocks} : F.Valid height b →
      Authentic b.header.previousBlockHash (height - 1) blocks →
      Authentic (F.headerHash b.header) height (b :: blocks)

/-- The blocks that a provider's answers decode to along a walk. -/
def walkBlocks (rpc : RawBlockRpc F) : Nat → Nat → F.Hash → List F.Block
  | 0, _, _ => []
  | n + 1, request, expectedHash =>
    match rpc request expectedHash with
    | .error _ => []
    | .ok raw =>
      match F.deserialize raw with
      | .error _ => []
      | .ok (block, _) => block :: walkBlocks rpc n (request + 1) block.header.previousBlockHash

/-- Nullifiers of a run of blocks. -/
def BlockFormat.chainNullifiers (blocks : List F.Block) : List Bytes32 :=
  blocks.flatMap F.blockNullifiers

variable {F}

/-- An accepted block decodes to a valid one, and its effects are read off it. -/
lemma verifyBlock_decoded {raw hash height v} (ok : verifyBlock F raw hash height = .ok v) :
    ∃ b : F.Block, (∃ n, F.deserialize raw = .ok (b, n)) ∧ F.headerHash b.header = hash ∧
      F.Valid height b ∧ v = ⟨b.header.previousBlockHash, F.blockNullifiers b⟩ := by
  obtain ⟨_, _, ok⟩ := bind_eq_ok.mp ok
  obtain ⟨decoded, hdec, ok⟩ := bind_eq_ok.mp ok
  obtain ⟨_, _, ok⟩ := bind_eq_ok.mp ok
  obtain ⟨_, hhash, ok⟩ := bind_eq_ok.mp ok
  obtain ⟨_, hheight, ok⟩ := bind_eq_ok.mp ok
  obtain ⟨_, hne, ok⟩ := bind_eq_ok.mp ok
  obtain ⟨_, hdup, ok⟩ := bind_eq_ok.mp ok
  obtain ⟨_, hroot, ok⟩ := bind_eq_ok.mp ok
  simp only [ensure_eq_ok, decide_eq_true_eq, Bool.not_eq_true', beq_iff_eq] at hhash hheight hne hdup hroot
  have hraw : F.deserialize raw = .ok decoded := ofResult_eq_ok.mp (context_eq_ok.mp hdec)
  refine ⟨decoded.1, ⟨decoded.2, hraw⟩, hhash, ⟨hheight, ?_, ?_, hroot⟩, (Except.ok.inj ok).symm⟩
  · intro h
    rw [h] at hne
    cases hne
  · rw [← List.dedup_eq_self]
    exact (List.dedup_sublist _).eq_of_length hdup

/-- A walk that succeeds has decoded an authentic chain and collected its nullifiers. -/
lemma walk_ok {rpc n request height hash acc used}
    (ok : walk F rpc n request height hash acc = .ok used) :
    (walkBlocks F rpc n request hash).length = n ∧
      Authentic F hash height (walkBlocks F rpc n request hash) ∧
      used = acc ++ F.chainNullifiers (walkBlocks F rpc n request hash) := by
  induction n generalizing request height hash acc with
  | zero =>
    cases ok
    exact ⟨rfl, .nil, (List.append_nil _).symm⟩
  | succ n ih =>
    obtain ⟨raw, hraw, ok⟩ := bind_eq_ok.mp ok
    obtain ⟨v, hv, ok⟩ := bind_eq_ok.mp ok
    obtain ⟨_, _, ok⟩ := bind_eq_ok.mp ok
    obtain ⟨b, ⟨size, hdec⟩, hhash, valid, rfl⟩ := verifyBlock_decoded hv
    have hrpc : rpc request hash = .ok raw := ofResult_eq_ok.mp (context_eq_ok.mp hraw)
    have hblocks : walkBlocks F rpc (n + 1) request hash =
        b :: walkBlocks F rpc n (request + 1) b.header.previousBlockHash := by
      rw [walkBlocks, hrpc]
      dsimp only
      rw [hdec]
    obtain ⟨hlen, auth, hused⟩ := ih ok
    rw [hblocks]
    refine ⟨congrArg Nat.succ hlen, ?_, ?_⟩
    · rw [← hhash]
      exact .cons valid auth
    · rw [hused, List.append_assoc]
      rfl

/-- Transactions whose ids agree in order have the same nullifiers, when ids bind them. -/
lemma nullifiers_of_txids {ts ts' : List F.Tx}
    (bound : ∀ t ∈ ts, ∀ t' ∈ ts', F.txid t = F.txid t' →
      F.ironwoodNullifiers t = F.ironwoodNullifiers t')
    (heq : ts.map F.txid = ts'.map F.txid) :
    ts.flatMap F.ironwoodNullifiers = ts'.flatMap F.ironwoodNullifiers := by
  induction ts generalizing ts' with
  | nil =>
    obtain rfl := List.map_eq_nil_iff.mp heq.symm
    rfl
  | cons t ts ih =>
    cases ts' with
    | nil => cases heq
    | cons t' ts' =>
      obtain ⟨hhead, htail⟩ := List.cons.inj heq
      have hrest := ih (fun r hr r' hr' => bound r (List.mem_cons_of_mem t hr) r'
        (List.mem_cons_of_mem t' hr')) htail
      rw [List.flatMap_cons, List.flatMap_cons,
        bound t List.mem_cons_self t' List.mem_cons_self hhead, hrest]

/-- A valid block has a transaction. -/
lemma BlockFormat.Valid.txids_ne_nil {height} {b : F.Block} (valid : F.Valid height b) :
    b.transactions.map F.txid ≠ [] :=
  fun h => valid.nonempty (List.map_eq_nil_iff.mp h)

end Chain

section Roots

variable {F} {H : Hasher}

/-- A joined task returns what it computed. -/
lemma joinBlocking_eq_ok {α : Type} {ctx} {r : Rust α} {a} : joinBlocking ctx r = .ok a ↔ r = .ok a := by
  cases r with
  | ok b => simp [joinBlocking]
  | error f => cases f <;> simp [joinBlocking, bail]

/-- Parsed field elements are the nullifiers. -/
lemma parseNullifierBytes_ok {nfs : List Bytes32} {fields}
    (ok : parseNullifierBytes (nfs.flatMap fun nf => nf.val) = .ok fields) :
    fields.map Fp.toRepr = nfs.map Subtype.val := by
  have hwidth : ∀ nf ∈ nfs, nf.val.length = 32 := fun nf _ => nf.property
  have hlen : (nfs.flatMap fun nf => nf.val).length = nfs.length * 32 := length_flatMap_const hwidth
  obtain ⟨_, _, ok⟩ := bind_eq_ok.mp ok
  rw [hlen, NULLIFIER_SIZE, Nat.mul_div_cancel _ (by decide)] at ok
  have hall := mapM_inv ok
  have hlen' : fields.length = nfs.length := by simpa using hall.length_eq.symm
  apply List.ext_getElem
  · simp [hlen']
  · intro i h1 h2
    have hi : i < nfs.length := by simpa using h2
    have hstep := hall.get (by simpa using hi) (by simpa using h1)
    simp only [List.get_eq_getElem, List.getElem_range] at hstep
    rw [slice_flatMap hwidth hi] at hstep
    rw [List.getElem_map, List.getElem_map]
    cases hrepr : Fp.fromRepr nfs[i].val with
    | none =>
      rw [hrepr] at hstep
      cases hstep
    | some x =>
      rw [hrepr] at hstep
      obtain rfl := Except.ok.inj hstep
      exact Fp.toRepr_of_fromRepr hrepr

/-- A printed result comes from a completed walk and the tree over what it collected. -/
lemma verifyResult_ok {args rpc r} (ok : verifyResult F H args rpc = .ok r) :
    ∃ trusted used fields tree, F.hashFromHex args.trustedBlockHash = .ok trusted ∧
      walk F rpc (args.height - nu63ActivationHeight args.zcashNetwork + 1) 0 args.height trusted [] =
        .ok used ∧
      fields.map Fp.toRepr = used.map Subtype.val ∧
      buildPirTreeFromNullifiers H fields = .ok tree ∧
      r.computedCircuitRoot = hexEncode tree.circuitRoot.toRepr ∧
      r.computedPirRoot = hexEncode tree.pirRoot.toRepr := by
  obtain ⟨_, _, ok⟩ := bind_eq_ok.mp ok
  obtain ⟨trusted, htrusted, ok⟩ := bind_eq_ok.mp ok
  obtain ⟨expected, _, ok⟩ := bind_eq_ok.mp ok
  obtain ⟨used, hused, ok⟩ := bind_eq_ok.mp ok
  obtain ⟨tree, htree, ok⟩ := bind_eq_ok.mp ok
  obtain ⟨fields, hfields, htree⟩ := bind_eq_ok.mp (joinBlocking_eq_ok.mp htree)
  obtain rfl := Except.ok.inj ok
  exact ⟨trusted, used, fields, tree, ofResult_eq_ok.mp (context_eq_ok.mp htrusted), hused,
    parseNullifierBytes_ok hfields, htree, rfl, rfl⟩

/-- A printed root was verified. -/
lemma verifyResult_of_printed {args rpc r} (printed : (verifyRoot F H args rpc).1 = some r) :
    verifyResult F H args rpc = .ok r := by
  rw [verifyRoot] at printed
  cases hr : verifyResult F H args rpc with
  | error e =>
    rw [hr] at printed
    cases printed
  | ok r' =>
    rw [hr] at printed
    exact congrArg _ (Option.some.inj printed)

/-- Lists of the same nullifiers build the same tree. -/
lemma buildPirTreeFromNullifiers_perm {nfs nfs' : List Fp}
    (h : (nfs.map Fp.toRepr).Perm (nfs'.map Fp.toRepr)) :
    buildPirTreeFromNullifiers H nfs = buildPirTreeFromNullifiers H nfs' := by
  have hmem : ∀ v, v ∈ nfs ↔ v ∈ nfs' := by
    intro v
    rw [← List.mem_map_of_injective Fp.toRepr_injective, h.mem_iff,
      List.mem_map_of_injective Fp.toRepr_injective]
  rw [buildPirTreeFromNullifiers, buildPirTreeFromNullifiers,
    prepareNullifiers_congr fun v _ => hmem v]

end Roots

end NullifierPir.NfServer
