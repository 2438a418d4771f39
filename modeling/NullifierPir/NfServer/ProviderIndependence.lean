import NullifierPir.NfServer.BlockBinding

/-!
# Root verification does not depend on the provider

Authentic chains that end at one hash carry the same nullifiers, as long as the hashes involved in the
two chains do not collide (`Authentic.nullifiers_unique`). So what is printed for a trusted hash and
height was computed from the one chain that ends there, whoever sent the blocks
(`verifyRoot_provider_independent`).
-/

namespace NullifierPir.NfServer
open Rust ByteString Hex Imt Export Ingest NullifierPir.Types

section Chains

variable {F : BlockFormat} {node : F.Hash → F.Hash → F.Hash} {H : Hasher}

/-- No hash that two runs of blocks involve collides. -/
def BlockFormat.BindingChains (node : F.Hash → F.Hash → F.Hash) (blocks blocks' : List F.Block) :
    Prop :=
  ∀ b ∈ blocks, ∀ b' ∈ blocks', BlockFormat.BindingOn node b b'

/-- The assumption on two chains holds of their tails. -/
lemma BlockFormat.BindingChains.tail {b b' : F.Block} {blocks blocks' : List F.Block}
    (bind : BlockFormat.BindingChains node (b :: blocks) (b' :: blocks')) :
    BlockFormat.BindingChains node blocks blocks' :=
  fun x hx y hy => bind x (List.mem_cons_of_mem b hx) y (List.mem_cons_of_mem b' hy)

/-- The chain that ends at a hash is unique in what it reveals. -/
lemma Authentic.nullifiers_unique (tree : F.DuplicatingRoot node) {hash height height'}
    {blocks blocks'} (auth : Authentic F hash height blocks)
    (auth' : Authentic F hash height' blocks') (hlen : blocks.length = blocks'.length)
    (bind : BlockFormat.BindingChains node blocks blocks') :
    F.chainNullifiers blocks = F.chainNullifiers blocks' := by
  induction auth generalizing height' blocks' with
  | nil =>
    obtain rfl := List.length_eq_zero_iff.mp hlen.symm
    rfl
  | @cons height b blocks valid _ ih =>
    generalize hh : F.headerHash b.header = hash at auth'
    cases auth' with
    | nil => cases hlen
    | @cons _ b' blocks' valid' auth' =>
      have hpair := bind b List.mem_cons_self b' List.mem_cons_self
      obtain ⟨hprev, hnfs⟩ := hpair.block_unique tree valid valid' hh
      rw [← hprev] at auth'
      have hrest := ih auth' (Nat.succ.inj hlen) bind.tail
      rw [BlockFormat.chainNullifiers, BlockFormat.chainNullifiers, List.flatMap_cons,
        List.flatMap_cons, hnfs]
      exact congrArg _ hrest

/-- The printed roots do not depend on the provider. A printed result was computed from exactly the
nullifiers of the one chain that ends at the trusted hash, its circuit root is the one the tree builder
yields for them in any order, and any other printed result for the same snapshot has the same roots.
The hashes of the chains that are compared must not collide: in the first part those of the chain the
provider sent and of any other, in the second those of the chains the two providers sent. -/
theorem verifyRoot_provider_independent (tree : F.DuplicatingRoot node) {args rpc r}
    (printed : (verifyRoot F H args rpc).1 = some r) :
    ∃ trusted used, F.hashFromHex args.trustedBlockHash = .ok trusted ∧
      let count := args.height - nu63ActivationHeight args.zcashNetwork + 1
      let seen := walkBlocks F rpc count 0 trusted
      walk F rpc count 0 args.height trusted [] = .ok used ∧
      (Authentic F trusted args.height seen ∧ seen.length = count ∧ used = F.chainNullifiers seen) ∧
      (∀ blocks, Authentic F trusted args.height blocks → blocks.length = count →
        BlockFormat.BindingChains node seen blocks →
        used = F.chainNullifiers blocks ∧
        ∀ nfs : List Fp, (nfs.map Fp.toRepr).Perm ((F.chainNullifiers blocks).map Subtype.val) →
          ∃ tree, buildPirTreeFromNullifiers H nfs = .ok tree ∧
            r.computedCircuitRoot = hexEncode tree.circuitRoot.toRepr) ∧
      ∀ args' rpc' r', args'.zcashNetwork = args.zcashNetwork → args'.height = args.height →
        F.hashFromHex args'.trustedBlockHash = F.hashFromHex args.trustedBlockHash →
        BlockFormat.BindingChains node seen (walkBlocks F rpc' count 0 trusted) →
        (verifyRoot F H args' rpc').1 = some r' →
        r'.computedCircuitRoot = r.computedCircuitRoot ∧ r'.computedPirRoot = r.computedPirRoot := by
  obtain ⟨trusted, used, fields, built, htrusted, hwalk, hfields, htree, hroot, hpir⟩ :=
    verifyResult_ok (verifyResult_of_printed printed)
  obtain ⟨hseen, auth, hused⟩ := walk_ok hwalk
  rw [List.nil_append] at hused
  refine ⟨trusted, used, htrusted, hwalk, ⟨auth, hseen, hused⟩, ?_, ?_⟩
  · intro blocks auth' hlen bind
    have hnfs := auth.nullifiers_unique tree auth' (hseen.trans hlen.symm) bind
    refine ⟨hused.trans hnfs, ?_⟩
    intro nfs hperm
    refine ⟨built, ?_, hroot⟩
    rw [← hnfs, ← hused, ← hfields] at hperm
    rw [buildPirTreeFromNullifiers_perm hperm, htree]
  · intro args' rpc' r' hnet hheight hhash bind printed'
    obtain ⟨trusted', used', fields', built', htrusted', hwalk', hfields', htree', hroot', hpir'⟩ :=
      verifyResult_ok (verifyResult_of_printed printed')
    rw [hhash, htrusted] at htrusted'
    obtain rfl := Except.ok.inj htrusted'
    rw [hnet, hheight] at hwalk'
    obtain ⟨hseen', auth', hused'⟩ := walk_ok hwalk'
    rw [List.nil_append] at hused'
    have hsame : used = used' := by
      rw [hused, hused', auth.nullifiers_unique tree auth' (hseen.trans hseen'.symm) bind]
    have hperm : (fields'.map Fp.toRepr).Perm (fields.map Fp.toRepr) := by
      rw [hfields, hfields', hsame]
    rw [buildPirTreeFromNullifiers_perm hperm, htree] at htree'
    obtain rfl := Except.ok.inj htree'
    exact ⟨hroot'.trans hroot.symm, hpir'.trans hpir.symm⟩

end Chains

section Sample

/-- A transaction of the sample chain; `auth` is authorizing data, which no hash covers. -/
structure SampleTx where
  height : Nat
  nullifiers : List Bytes32
  auth : UInt8

/-- A coinbase and, after it, up to two transactions with a nullifier each. -/
def sampleTxs (height : Nat) (auth : UInt8) : List SampleTx :=
  ⟨height, [], auth⟩ ::
    (List.range (height % 3)).map fun i => ⟨height, [repeatedNullifier (UInt8.ofNat (5 + i))], auth⟩

/-- A transaction id covers the height and the nullifiers. -/
def sampleTxid (tx : SampleTx) : SymbolicHash :=
  .txid (toLe 8 tx.height :: tx.nullifiers.map Subtype.val)

/-- The root of the duplicating tree. -/
def sampleMerkleRoot (txids : List SymbolicHash) : SymbolicHash :=
  TxMerkle.rootFrom .node (txids.headD .genesis) txids.length txids

/-- The hash of the block `k` blocks above activation, and of the one below it. -/
def sampleHash : Nat → SymbolicHash
  | 0 => .genesis
  | k + 1 => .header (sampleHash k) (sampleMerkleRoot ((sampleTxs (4134000 + k) 0).map sampleTxid))

/-- The block `k` blocks above activation. -/
def sampleBlock (k : Nat) (auth : UInt8) : Block SymbolicHash Unit SampleTx where
  header := ⟨sampleHash k, sampleMerkleRoot ((sampleTxs (4134000 + k) 0).map sampleTxid), ()⟩
  transactions := sampleTxs (4134000 + k) auth

/-- A format with symbolic hashes that decodes the blocks of one chain, with any authorizing data. -/
def sampleFormat : BlockFormat where
  Hash := SymbolicHash
  Rest := Unit
  Tx := SampleTx
  decEq := inferInstance
  maxBlockBytes := 2000000
  deserialize
    | [k, auth] => .ok (sampleBlock k.toNat auth, 2)
    | _ => .error "parse error"
  headerHash := fun h => .header h.previousBlockHash h.merkleRoot
  txid := sampleTxid
  merkleRoot := sampleMerkleRoot
  coinbaseHeight := fun txs => txs.head?.map SampleTx.height
  ironwoodNullifiers := SampleTx.nullifiers
  hashFromHex := fun _ => .ok (sampleHash 11)
  hashToHex := fun _ => "00"

/-- Symbolic hashes bind any two blocks. -/
lemma sampleFormat_bindingOn {b b' : sampleFormat.Block} :
    BlockFormat.BindingOn SymbolicHash.node b b' where
  header := by
    intro heq
    obtain ⟨hprev, hroot⟩ := SymbolicHash.header.inj heq
    obtain ⟨⟨prev, root, _⟩, _⟩ := b
    obtain ⟨⟨prev', root', _⟩, _⟩ := b'
    cases hprev
    cases hroot
    rfl
  txid := by
    intro t _ t' _ heq
    obtain ⟨_, htail⟩ := List.cons.inj (SymbolicHash.txid.inj heq)
    exact List.map_injective_iff.mpr Subtype.val_injective htail
  children := by
    intro p _ q _ heq
    obtain ⟨h1, h2⟩ := SymbolicHash.node.inj heq
    exact Prod.ext h1 h2
  separate := by
    intro p _
    constructor
    · intro mem
      obtain ⟨t, _, heq⟩ := List.mem_map.mp mem
      cases heq
    · intro mem
      obtain ⟨t, _, heq⟩ := List.mem_map.mp mem
      cases heq

/-- The snapshot ten blocks above activation on the test network. -/
def sampleArgs : VerifyArgs :=
  ⟨.test, 4134010, "00", "0000000000000000000000000000000000000000000000000000000000000000"⟩

/-- A provider of the sample chain. -/
def sampleRpc (auth : UInt8) : RawBlockRpc sampleFormat := fun request _ =>
  .ok [UInt8.ofNat (10 - request), auth]

/-- The nullifiers of the sample chain, from the last block down. -/
def sampleNullifiers : List Bytes32 :=
  (List.range 11).flatMap fun i => (sampleTxs (4134010 - i) 0).flatMap SampleTx.nullifiers

/-- Whatever the authorizing data, the walk collects the same nullifiers. -/
lemma sample_walk : ∀ auth ∈ [4, 7],
    walk sampleFormat (sampleRpc auth) 11 0 4134010 (sampleHash 11) [] = .ok sampleNullifiers := by
  intro auth mem
  rcases List.mem_pair.mp mem with rfl | rfl
  · rfl
  · rfl

/-- Both providers of the sample chain get their result printed. -/
lemma sample_printed {auth} (mem : auth ∈ [4, 7]) :
    ∃ r, (verifyRoot sampleFormat Hasher.affine sampleArgs (sampleRpc auth)).1 = some r := by
  obtain ⟨fields, hparse, hfits, hsmall⟩ : ∃ fields,
      parseNullifierBytes (sampleNullifiers.flatMap fun nf => nf.val) = .ok fields ∧
        PadFits fields ∧ fields.length ≤ 2 ^ PIR_DEPTH := by
    refine ⟨sampleNullifiers.filterMap fun nf => Fp.fromRepr nf.val, by decide +kernel, .inr ?_, ?_⟩
    · decide +kernel
    · decide +kernel
  obtain ⟨tree, htree⟩ := @exists_tree Hasher.affine fields hfits hsmall
  have hheight : validateExportHeight sampleArgs.height sampleArgs.zcashNetwork = .ok () := by decide
  have hroot : parseRoot sampleArgs.expectedCircuitRoot = .ok 0 := by decide +kernel
  have hjoin : joinBlocking "join root construction" (do
      let fields ← parseNullifierBytes (sampleNullifiers.flatMap fun nf => nf.val)
      buildPirTreeFromNullifiers Hasher.affine fields) = .ok tree :=
    joinBlocking_eq_ok.mpr (bind_eq_ok.mpr ⟨fields, hparse, htree⟩)
  have hhash : context "trusted block hash must be 32 bytes of RPC display-order hex"
      (ofResult (sampleFormat.hashFromHex sampleArgs.trustedBlockHash)) =
      (.ok (sampleHash 11) : Rust sampleFormat.Hash) := rfl
  obtain ⟨r, hr⟩ : ∃ r, verifyResult sampleFormat Hasher.affine sampleArgs (sampleRpc auth) = .ok r :=
    ⟨_, bind_eq_ok.mpr ⟨(), hheight, bind_eq_ok.mpr ⟨_, hhash, bind_eq_ok.mpr ⟨0, hroot,
      bind_eq_ok.mpr ⟨_, sample_walk auth mem, bind_eq_ok.mpr ⟨tree, hjoin, rfl⟩⟩⟩⟩⟩⟩
  exact ⟨r, by rw [verifyRoot, hr]⟩

/-- Eleven blocks from two providers that differ in the authorizing data. -/
theorem verifyRoot_provider_independent_sample :
    ∃ r r', (verifyRoot sampleFormat Hasher.affine sampleArgs (sampleRpc 4)).1 = some r ∧
      (verifyRoot sampleFormat Hasher.affine sampleArgs (sampleRpc 7)).1 = some r' ∧
      r'.computedCircuitRoot = r.computedCircuitRoot ∧ r'.computedPirRoot = r.computedPirRoot := by
  obtain ⟨r, printed⟩ := @sample_printed 4 (by decide)
  obtain ⟨r', printed'⟩ := @sample_printed 7 (by decide)
  have tree : sampleFormat.DuplicatingRoot SymbolicHash.node := fun _ _ => rfl
  obtain ⟨_, _, _, _, _, _, same⟩ := verifyRoot_provider_independent tree printed
  exact ⟨r, r', printed, printed',
    same sampleArgs (sampleRpc 7) r' rfl rfl rfl (fun _ _ _ _ => sampleFormat_bindingOn) printed'⟩

end Sample

end NullifierPir.NfServer
