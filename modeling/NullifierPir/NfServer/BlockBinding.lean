import NullifierPir.Lib.TxMerkle
import NullifierPir.NfServer.VerifyRoot

/-!
# A block hash binds the nullifiers

Two byte strings that `verifyBlock` accepts for one hash and height have the same effects
(`verifyBlock_binds_nullifiers`). The hashes have to be injective only on what the two blocks hash:
their headers, their transactions and the pairs on the way to their two roots
(`BlockFormat.BindingOn`). The two lists of transactions may have different lengths, and then the roots
differ, because the ids of either list are distinct.
-/

namespace NullifierPir.NfServer
open Rust ByteString

variable {F : BlockFormat} {node : F.Hash → F.Hash → F.Hash}

/-- Transaction ids of a block, in order. -/
def BlockFormat.txids (b : F.Block) : List F.Hash := b.transactions.map F.txid

/-- The pairs hashed on the way to a block's transaction root. -/
def BlockFormat.merklePairs (node : F.Hash → F.Hash → F.Hash) (b : F.Block) :
    List (F.Hash × F.Hash) :=
  TxMerkle.hashedPairs node (F.txids b).length (F.txids b)

/-- The transaction root is the root of the tree that duplicates the last node of an odd level. -/
def BlockFormat.DuplicatingRoot (F : BlockFormat) (node : F.Hash → F.Hash → F.Hash) : Prop :=
  ∀ id ids, F.merkleRoot (id :: ids) = TxMerkle.rootFrom node id (id :: ids).length (id :: ids)

/-- What is relied on for two blocks: their header hashes and the pairs of their transaction trees do
not collide, no such pair hashes to one of their transaction ids, and the ids bind nullifiers. -/
structure BlockFormat.BindingOn (node : F.Hash → F.Hash → F.Hash) (b b' : F.Block) : Prop where
  header : F.headerHash b.header = F.headerHash b'.header → b.header = b'.header
  txid : ∀ t ∈ b.transactions, ∀ t' ∈ b'.transactions, F.txid t = F.txid t' →
    F.ironwoodNullifiers t = F.ironwoodNullifiers t'
  children : TxMerkle.BindingOn node {p | p ∈ F.merklePairs node b ++ F.merklePairs node b'}
  separate : ∀ p ∈ F.merklePairs node b ++ F.merklePairs node b',
    node p.1 p.2 ∉ F.txids b ∧ node p.1 p.2 ∉ F.txids b'

/-- The levels of a valid block's tree end at the root of its header. -/
lemma BlockFormat.Valid.levels {height} {b : F.Block} (valid : F.Valid height b)
    (tree : F.DuplicatingRoot node) :
    ∃ n, (TxMerkle.pairUp node)^[n] (F.txids b) = [b.header.merkleRoot] ∧
      TxMerkle.Within node {p | p ∈ F.merklePairs node b} n (F.txids b) := by
  have hroot : F.merkleRoot (F.txids b) = b.header.merkleRoot := valid.root
  have hne : F.txids b ≠ [] := valid.txids_ne_nil
  unfold BlockFormat.merklePairs
  generalize F.txids b = ids at hroot hne
  cases ids with
  | nil => exact absurd rfl hne
  | cons id ids =>
    rw [tree] at hroot
    rw [← hroot]
    exact TxMerkle.iterate_rootFrom hne (Nat.le_succ _)

/-- Valid blocks of one header hash list the same transaction ids. -/
lemma BlockFormat.BindingOn.txids_eq {height height'} {b b' : F.Block}
    (bind : BlockFormat.BindingOn node b b') (tree : F.DuplicatingRoot node)
    (valid : F.Valid height b) (valid' : F.Valid height' b') (hheader : b.header = b'.header) :
    F.txids b = F.txids b' := by
  obtain ⟨n, hn, within⟩ := valid.levels tree
  obtain ⟨m, hm, within'⟩ := valid'.levels tree
  apply TxMerkle.iterate_injective_on bind.children (n := n) (m := m)
  · intro k hk p hp
    exact List.mem_append_left _ (within k hk p hp)
  · intro k hk p hp
    exact List.mem_append_right _ (within' k hk p hp)
  · exact fun p hp => (bind.separate p hp).1
  · exact fun p hp => (bind.separate p hp).2
  · exact valid.txids_ne_nil
  · exact valid'.txids_ne_nil
  · exact valid.nodup
  · exact valid'.nodup
  · rw [hn, hm, hheader]

/-- Valid blocks of one header hash have one predecessor and the same nullifiers. -/
lemma BlockFormat.BindingOn.block_unique {height height'} {b b' : F.Block}
    (bind : BlockFormat.BindingOn node b b') (tree : F.DuplicatingRoot node)
    (valid : F.Valid height b) (valid' : F.Valid height' b')
    (hhash : F.headerHash b.header = F.headerHash b'.header) :
    b.header.previousBlockHash = b'.header.previousBlockHash ∧
      F.blockNullifiers b = F.blockNullifiers b' := by
  have hheader : b.header = b'.header := bind.header hhash
  refine ⟨congrArg Header.previousBlockHash hheader, ?_⟩
  exact nullifiers_of_txids bind.txid (bind.txids_eq tree valid valid' hheader)

/-- Whatever is accepted for a hash and height has one predecessor and one list of nullifiers. -/
theorem verifyBlock_binds_nullifiers {raw raw' : Bytes} {hash : F.Hash} {height : Nat}
    {v v' : VerifiedBlock F} (tree : F.DuplicatingRoot node)
    (bind : ∀ b n b' n', F.deserialize raw = .ok (b, n) → F.deserialize raw' = .ok (b', n') →
      BlockFormat.BindingOn node b b')
    (ok : verifyBlock F raw hash height = .ok v) (ok' : verifyBlock F raw' hash height = .ok v') :
    v.previousHash = v'.previousHash ∧ v.nullifiers = v'.nullifiers := by
  obtain ⟨b, ⟨n, hdec⟩, hhash, valid, rfl⟩ := verifyBlock_decoded ok
  obtain ⟨b', ⟨n', hdec'⟩, hhash', valid', rfl⟩ := verifyBlock_decoded ok'
  exact (bind b n b' n' hdec hdec').block_unique tree valid valid' (hhash.trans hhash'.symm)

/-- Hashes as terms: nothing collides. -/
inductive SymbolicHash where
  | genesis
  | header (previous root : SymbolicHash)
  | txid (nullifiers : List Bytes)
  | node (left right : SymbolicHash)
  deriving DecidableEq

/-- A nullifier of one repeated byte. -/
def repeatedNullifier (b : UInt8) : Bytes32 := ⟨List.replicate 32 b, List.length_replicate⟩

/-- A block of three transactions; `auth` is authorizing data, which no hash covers. -/
def authorizedBlock (auth : UInt8) : Block SymbolicHash Unit (List Bytes32 × UInt8) where
  header := ⟨.genesis, .node (.node (.txid []) (.txid [(repeatedNullifier 1).val]))
    (.node (.txid [(repeatedNullifier 2).val]) (.txid [(repeatedNullifier 2).val])), ()⟩
  transactions := [([], auth), ([repeatedNullifier 1], auth), ([repeatedNullifier 2], auth)]

/-- A format with symbolic hashes whose transactions carry authorizing data. -/
def authorizedFormat : BlockFormat where
  Hash := SymbolicHash
  Rest := Unit
  Tx := List Bytes32 × UInt8
  decEq := inferInstance
  maxBlockBytes := 2000000
  deserialize := fun raw =>
    if raw.length = 1 then .ok (authorizedBlock (raw.headD 0), 1) else .error "parse error"
  headerHash := fun h => .header h.previousBlockHash h.merkleRoot
  txid := fun tx => .txid (tx.1.map Subtype.val)
  merkleRoot := fun txids => TxMerkle.rootFrom .node (txids.headD .genesis) txids.length txids
  coinbaseHeight := fun _ => some 4134000
  ironwoodNullifiers := fun tx => tx.1
  hashFromHex := fun _ => .ok .genesis
  hashToHex := fun _ => "00"

/-- Symbolic hashes bind any two blocks. -/
lemma authorizedFormat_bindingOn {b b' : authorizedFormat.Block} :
    BlockFormat.BindingOn SymbolicHash.node b b' where
  header := by
    intro heq
    obtain ⟨hprev, hroot⟩ := SymbolicHash.header.inj heq
    obtain ⟨⟨prev, root, _⟩, _⟩ := b
    obtain ⟨⟨prev', root', _⟩, _⟩ := b'
    cases hprev
    cases hroot
    rfl
  txid := by
    intro t _ t' _ heq
    exact List.map_injective_iff.mpr Subtype.val_injective (SymbolicHash.txid.inj heq)
  children := by
    intro p _ q _ heq
    obtain ⟨h1, h2⟩ := SymbolicHash.node.inj heq
    exact Prod.ext h1 h2
  separate := by
    intro p _
    constructor
    · intro mem
      obtain ⟨t, _, heq⟩ := List.mem_map.mp mem
      cases heq
    · intro mem
      obtain ⟨t, _, heq⟩ := List.mem_map.mp mem
      cases heq

/-- A block of two distinct nullifiers is accepted, whatever its authorizing data. -/
lemma verifyBlock_authorized (auth : UInt8) :
    verifyBlock authorizedFormat [auth]
        (authorizedFormat.headerHash (authorizedBlock 0).header) 4134000 =
      .ok ⟨.genesis, [repeatedNullifier 1, repeatedNullifier 2]⟩ := rfl

/-- Two encodings of one block that differ in authorizing data. -/
theorem verifyBlock_binds_nullifiers_authorized :
    ∃ v v', verifyBlock authorizedFormat [4]
        (authorizedFormat.headerHash (authorizedBlock 0).header) 4134000 = .ok v ∧
      verifyBlock authorizedFormat [5]
        (authorizedFormat.headerHash (authorizedBlock 0).header) 4134000 = .ok v' ∧
      v.previousHash = v'.previousHash ∧ v.nullifiers = v'.nullifiers :=
  ⟨_, _, verifyBlock_authorized 4, verifyBlock_authorized 5,
    verifyBlock_binds_nullifiers (fun _ _ => rfl)
      (fun _ _ _ _ _ _ => authorizedFormat_bindingOn) (verifyBlock_authorized 4)
      (verifyBlock_authorized 5)⟩

end NullifierPir.NfServer
