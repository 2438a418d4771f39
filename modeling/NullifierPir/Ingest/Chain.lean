import NullifierPir.Ingest.Sync
import NullifierPir.Types.FpUtils

/-!
# Chains and honest servers

A `Chain` is the immutable sequence of blocks of one network: its Ironwood nullifiers are canonical
field elements, its heights fit 32 bits and its nullifier stream fits a file. `Serves` says that a
server streams exactly the requested blocks of a chain and reports no tip beyond it. Under it a batch
is the chain's own slice (`fetchBlockRange_ok`), and the batches of a cycle are consecutive
(`buildBatchRanges_spec`).
-/

namespace NullifierPir.Ingest
open Rust ByteString Crash NullifierPir.Types

/-- The blocks of one network, by the nullifiers of their transactions. -/
structure Chain (net : ZcashNetwork) where
  txs : Nat → List (List Fp)
  tip : Nat
  tip_lt : tip < 2 ^ 32
  fits : ((List.range' (nu63ActivationHeight net) (tip + 1 - nu63ActivationHeight net)).flatMap
    fun h => (txs h).flatten).length * 32 < U64

namespace Chain

variable {net : ZcashNetwork} (c : Chain net)

/-- Nullifiers of a block, in order. -/
def nullifiers (h : Nat) : List Fp := (c.txs h).flatten

/-- The block at a height, as a server streams it. -/
def block (h : Nat) : CompactBlock := ⟨h, (c.txs h).map fun tx => ⟨tx.map Fp.toRepr⟩⟩

/-- Nullifiers of the `n` blocks from `start` on. -/
def between (start n : Nat) : List Fp := (List.range' start n).flatMap c.nullifiers

/-- Nullifiers of the blocks from activation to `h`. -/
def upTo (h : Nat) : List Fp :=
  c.between (nu63ActivationHeight net) (h + 1 - nu63ActivationHeight net)

/-- The nullifier stream up to a height, as `nullifiers.bin` holds it. -/
def bytesUpTo (h : Nat) : Bytes := encodeWords (c.upTo h)

/-- The whole stream. -/
def stream : Bytes := c.bytesUpTo c.tip

variable {c}

/-- The nullifiers of more blocks are appended. -/
lemma upTo_append {h n} (ha : nu63ActivationHeight net ≤ h + 1) :
    c.upTo (h + n) = c.upTo h ++ c.between (h + 1) n := by
  have hlen : h + n + 1 - nu63ActivationHeight net = h + 1 - nu63ActivationHeight net + n := by omega
  have hstart : nu63ActivationHeight net + (h + 1 - nu63ActivationHeight net) = h + 1 := by omega
  have hrange := @List.range'_append_1 (nu63ActivationHeight net)
    (h + 1 - nu63ActivationHeight net) n
  rw [hstart] at hrange
  rw [upTo, upTo, between, between, between, hlen, ← List.flatMap_append, hrange]

/-- And so are their bytes. -/
lemma bytesUpTo_append {h n} (ha : nu63ActivationHeight net ≤ h + 1) :
    c.bytesUpTo (h + n) = c.bytesUpTo h ++ encodeWords (c.between (h + 1) n) := by
  rw [bytesUpTo, upTo_append ha, encodeWords_append, bytesUpTo]

/-- Before the activation there are none. -/
lemma bytesUpTo_pred : c.bytesUpTo (nu63ActivationHeight net - 1) = [] := by
  have hzero : nu63ActivationHeight net - 1 + 1 - nu63ActivationHeight net = 0 := by
    cases net <;> rfl
  rw [bytesUpTo, upTo, hzero]
  rfl

/-- The bytes up to a height start those up to a later one. -/
lemma bytesUpTo_mono {h h'} (ha : nu63ActivationHeight net ≤ h + 1) (hle : h ≤ h') :
    c.bytesUpTo h <+: c.bytesUpTo h' := by
  obtain ⟨n, rfl⟩ := Nat.exists_eq_add_of_le hle
  rw [bytesUpTo_append ha]
  exact List.prefix_append _ _

/-- A nullifier takes 32 bytes. -/
lemma length_bytesUpTo {h} : (c.bytesUpTo h).length = (c.upTo h).length * 32 := length_encodeWords

/-- The whole stream fits a `u64`. -/
lemma length_stream_lt : c.stream.length < U64 := by
  rw [stream, length_bytesUpTo]
  exact c.fits

/-- And so does every part of it. -/
lemma length_bytesUpTo_lt {h} (ha : nu63ActivationHeight net ≤ h + 1) (ht : h ≤ c.tip) :
    (c.bytesUpTo h).length < U64 :=
  (bytesUpTo_mono ha ht).length_le.trans_lt length_stream_lt

end Chain

/-- The activation is above block 0. -/
lemma nu63ActivationHeight_pos {net} : 0 < nu63ActivationHeight net := by
  cases net <;> decide

/-- The server streams the requested blocks of `c` and no tip beyond it. -/
structure Lightwalletd.Serves {net : ZcashNetwork} (l : Lightwalletd) (c : Chain net) : Prop where
  blocks : ∀ s e bs, l.getBlockRange s e = .ok bs → bs = (List.range' s (e + 1 - s)).map c.block
  tip : ∀ h, l.getLatestBlock = .ok h → h ≤ c.tip

/-- The clients are connected servers, at least one. -/
lemma connectClients_ok {lwds clients} (ok : connectClients lwds = .ok clients) :
    clients ≠ [] ∧ ∀ l ∈ clients, l ∈ lwds := by
  obtain ⟨_, hne, ok⟩ := bind_eq_ok.mp ok
  cases ok
  refine ⟨?_, fun l hl => List.mem_of_mem_filter hl⟩
  intro hnil
  rw [hnil] at hne
  cases hne

/-- The tip of the first client is a height of the chain. -/
lemma latestBlock_le {net : ZcashNetwork} {c : Chain net} {lwds clients : List Lightwalletd}
    {first tip} (serves : ∀ l ∈ lwds, l.Serves c) (hclients : connectClients lwds = .ok clients)
    (hfirst : index clients 0 = .ok first) (htip : ofResult first.getLatestBlock = .ok tip) :
    tip ≤ c.tip := by
  obtain ⟨hne, hsub⟩ := connectClients_ok hclients
  cases clients with
  | nil => exact absurd rfl hne
  | cons l clients =>
    cases hfirst
    exact (serves first (hsub first List.mem_cons_self)).tip _ (ofResult_eq_ok.mp htip)

section Fetch

variable {net : ZcashNetwork} {c : Chain net}

/-- The pairs a block contributes. -/
def Chain.pairs (c : Chain net) (h : Nat) : List (Nat × Bytes) :=
  (c.nullifiers h).map fun x => (h, x.toRepr)

/-- The nullifiers of a block come with its height. -/
lemma extractIronwoodNullifiers_block {h} :
    extractIronwoodNullifiers (c.block h) = .ok (c.pairs h) := by
  have htx : ∀ tx ∈ c.txs h, (tx.map Fp.toRepr).mapM (fun nullifier => do
      ensure (nullifier.length == 32)
        (s!"Ironwood nullifier at height {h} has {nullifier.length} bytes; " ++ "expected 32")
      return (h, nullifier)) = (.ok (tx.map fun x => (h, x.toRepr)) : Rust _) := by
    intro tx _
    rw [@mapM_eq_ok _ _ (tx.map Fp.toRepr) _ fun nf => (h, nf)]
    · rw [List.map_map]
      rfl
    · intro nf hnf
      obtain ⟨x, _, rfl⟩ := List.mem_map.mp hnf
      rw [Fp.length_toRepr]
      rfl
  have hvtx : (c.block h).vtx.mapM (fun tx => tx.ironwoodActions.mapM fun nullifier => do
      ensure (nullifier.length == 32)
        (s!"Ironwood nullifier at height {h} has {nullifier.length} bytes; " ++ "expected 32")
      return (h, nullifier)) =
      (.ok ((c.txs h).map fun tx => tx.map fun x => (h, x.toRepr)) : Rust _) := by
    rw [Chain.block, List.mapM_map]
    exact mapM_eq_ok htx
  rw [extractIronwoodNullifiers]
  change (c.block h).vtx.mapM _ >>= _ = _
  rw [show (c.block h).height = h from rfl, hvtx, Chain.pairs, Chain.nullifiers, List.map_flatten]
  rfl

/-- A batch an honest server answers is the chain's slice. -/
lemma fetchBlockRange_ok {l : Lightwalletd} {s e nfs} (hl : l.Serves c)
    (ok : fetchBlockRange l s e = .ok nfs) :
    nfs = (List.range' s (e + 1 - s)).flatMap c.pairs := by
  rw [fetchBlockRange] at ok
  obtain ⟨blocks, hb, ok⟩ := bind_eq_ok.mp ok
  obtain rfl := hl.blocks s e blocks (ofResult_eq_ok.mp hb)
  rw [List.mapM_map, @mapM_eq_ok _ _ _ (extractIronwoodNullifiers ∘ c.block) c.pairs
    fun h _ => extractIronwoodNullifiers_block] at ok
  cases ok
  rw [List.flatMap_def]

/-- The bytes of the pairs are those of the nullifiers. -/
lemma flatMap_pairs {hs : List Nat} :
    (hs.flatMap c.pairs).flatMap (fun x => x.2) = encodeWords (hs.flatMap c.nullifiers) := by
  rw [encodeWords, List.flatMap_assoc, List.flatMap_assoc]
  congr 1
  funext h
  rw [Chain.pairs, List.flatMap_map]

end Fetch

/-- The batches of a cycle cover `[current, stop]` one after the other. -/
structure Batches (current stop : Nat) (ranges : List (Nat × Nat)) : Prop where
  last : ranges.getLast?.map Prod.snd = some stop
  covers : ranges.flatMap (fun r => List.range' r.1 (r.2 + 1 - r.1)) =
    List.range' current (stop + 1 - current)
  nonempty : ∀ r ∈ ranges, r.1 ≤ r.2 ∧ r.2 + 1 - r.1 ≤ BATCH_SIZE
  le : current ≤ stop

/-- There are at most as many batches as clients. -/
lemma buildBatchRanges_length {current target n} :
    (buildBatchRanges current target n).length ≤ n := by
  induction n generalizing current with
  | zero => exact le_rfl
  | succ n ih =>
    rw [buildBatchRanges]
    split
    · exact Nat.zero_le _
    · exact Nat.succ_le_succ ih

/-- Up to `n ≥ 1` batches from `current`, all within the target. -/
lemma buildBatchRanges_spec {current target n} (hn : 1 ≤ n) (hle : current ≤ target)
    (hfit : target + BATCH_SIZE < U64) :
    ∃ stop, stop ≤ target ∧ Batches current stop (buildBatchRanges current target n) := by
  have hbatch : BATCH_SIZE = 10000 := rfl
  induction n generalizing current with
  | zero => cases hn
  | succ n ih =>
    rw [buildBatchRanges, if_neg (Nat.not_lt.mpr hle)]
    simp only []
    rw [wrappingAdd_eq (by omega)]
    have hstop : current ≤ min (current + (BATCH_SIZE - 1)) target := by omega
    have hmax : min (current + (BATCH_SIZE - 1)) target ≤ target := Nat.min_le_right _ _
    have hsize : min (current + (BATCH_SIZE - 1)) target + 1 - current ≤ BATCH_SIZE := by omega
    generalize min (current + (BATCH_SIZE - 1)) target = stop at hstop hmax hsize
    rw [wrappingAdd_eq (by omega)]
    by_cases hrest : n = 0 ∨ target < stop + 1
    · have hnil : buildBatchRanges (stop + 1) target n = [] := by
        cases n with
        | zero => rfl
        | succ n =>
          rw [buildBatchRanges, if_pos (hrest.resolve_left (Nat.succ_ne_zero n))]
      rw [hnil]
      refine ⟨stop, hmax, rfl, by simp, ?_, hstop⟩
      intro r hr
      obtain rfl := List.mem_singleton.mp hr
      exact ⟨hstop, hsize⟩
    · obtain ⟨last, hlast, b⟩ := @ih (stop + 1) (by omega) (by omega)
      refine ⟨last, hlast, ?_, ?_, ?_, hstop.trans ((Nat.le_succ _).trans b.le)⟩
      · cases hranges : buildBatchRanges (stop + 1) target n with
        | nil =>
          have hl := b.last
          rw [hranges] at hl
          cases hl
        | cons r rs =>
          rw [List.getLast?_cons_cons, ← hranges]
          exact b.last
      · have hb := b.le
        rw [List.flatMap_cons, b.covers]
        have happ := @List.range'_append_1 current (stop + 1 - current) (last + 1 - (stop + 1))
        rw [show current + (stop + 1 - current) = stop + 1 by omega,
          show stop + 1 - current + (last + 1 - (stop + 1)) = last + 1 - current by omega] at happ
        exact happ
      · intro r hr
        rcases List.mem_cons.mp hr with rfl | hr
        · exact ⟨hstop, hsize⟩
        · exact b.nonempty r hr

end NullifierPir.Ingest
