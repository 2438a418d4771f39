import NullifierPir.Ingest.BatchRanges

/-!
# Commits and the blocks they stand for

When may a sync commit the end of a cycle? Only after every batch of it was received: each requested
height once, in order, and nothing else. `CommitsReceived` says this of a run, request by request, for
servers that may stream anything. `fetch_block_range` does not look at the heights it is sent, so a
stream that ends early without an error is taken for a whole batch and the checkpoint passes blocks
nobody sent (`sync_commits_unsent_blocks`).

`sync_commitsReceived_iff` says exactly which answers do no harm: in each cycle, in turn, some batch is
refused, which ends the call with nothing committed, or every batch is received.
-/

namespace NullifierPir.Ingest
open Rust ByteString Crash NullifierPir.Types

/-- The request for the batch `range` to the `i`-th client. -/
def request (i : Nat) (range : Nat × Nat) : FsOp := .call (.getBlockRange i range.1 range.2)

/-- Exactly the blocks of the range were streamed, once each and in order. -/
def Received (client : Lightwalletd) (range : Nat × Nat) : Prop :=
  ∃ blocks, client.getBlockRange range.1 range.2 = .ok blocks ∧
    blocks.map CompactBlock.height = List.range' range.1 (range.2 + 1 - range.1)

/-- The stream fails, or carries a nullifier that is not of 32 bytes. -/
def Refused (client : Lightwalletd) (range : Nat × Nat) : Prop :=
  ∀ blocks, client.getBlockRange range.1 range.2 = .ok blocks →
    ∃ block ∈ blocks, ∃ tx ∈ block.vtx, ∃ nf ∈ tx.ironwoodActions, nf.length ≠ NULLIFIER_SIZE

/-- The prefix of the data that the checkpoint commits. -/
def committedBytes (s : Dir) : Bytes :=
  (s .nullifiersCheckpoint).elim [] fun cp =>
    ((s .nullifiersBin).getD []).take (decodeEntry cp 0).2

/-- The operations write no checkpoint, and keep the committed data wherever they are cut. -/
structure Uncommitted (s : Dir) (ops : List FsOp) : Prop where
  checkpoint : ∀ o ∈ ops, o.Avoids .nullifiersCheckpoint
  data : ∀ s', Interrupted s ops s' → committedBytes s' = committedBytes s

/-- A run commits only what it received: each request was answered with exactly its blocks, or the
run fails and nothing is committed after it. The height that a cycle commits is the end of its last
requested range, whatever was streamed (`awaitBatches_commits`). -/
def CommitsReceived {α : Type} (clients : List Lightwalletd) (s : Dir) (run : List FsOp × Rust α) :
    Prop :=
  ∀ pre i range post, run.1 = pre ++ request i range :: post →
    (∃ client, clients[i]? = some client ∧ Received client range) ∨
      (∃ msg, run.2 = .error (.err msg)) ∧ Uncommitted (exec s pre) post

/-- The batches of the cycles from `current` on. -/
def cycles (n target : Nat) : Nat → Nat → List (List (Nat × Nat))
  | 0, _ => []
  | fuel + 1, current =>
    if target < current then []
    else
      buildBatchRanges current target n ::
        (buildBatchRanges current target n).getLast?.elim [] fun last =>
          cycles n target fuel (wrappingAdd last.2 1)

/-- In each cycle in turn some batch is refused, or every batch is received and the next cycle is
answered so. -/
def Faithful (clients : List Lightwalletd) : List (List (Nat × Nat)) → Prop
  | [] => True
  | ranges :: rest =>
    (∃ x ∈ clients.zip ranges, Refused x.1 x.2) ∨
      (∀ x ∈ clients.zip ranges, Received x.1 x.2) ∧ Faithful clients rest

/-- What a sync settles before its first request. -/
structure SyncPlan where
  clients : List Lightwalletd
  chainTip : Nat
  start : Nat
  target : Nat

/-- The part of `sync` in front of its loop. -/
def openSync (json : Json DatasetMarker) (lwds : List Lightwalletd) (net : ZcashNetwork)
    (maxHeight : Option Nat) : Fs SyncPlan := do
  Prog.lift (ensure (!lwds.isEmpty) "at least one lightwalletd URL is required")
  ensureIronwoodDataset json net
  let clients ← Prog.lift (connectClients lwds)
  let first ← Prog.lift (index clients 0)
  let chainTip ← Prog.lift (ofResult first.getLatestBlock)
  let start ← resumeHeight json net
  let _existing ← nullifierCount
  let target := resolveTarget start maxHeight chainTip
  Prog.lift <| forEach clients fun client => requireIronwoodTreeState client net target
  return ⟨clients, chainTip, start, target⟩

/-- The rest of `sync`. -/
def runSync (plan : SyncPlan) : Fs SyncResult := do
  if plan.target ≤ plan.start then return ⟨plan.chainTip, 0, 0⟩
  let (blocksSynced, totalNfs) ←
    syncLoop plan.clients plan.target U64 (wrappingAdd plan.start 1) 0 0
  return ⟨plan.chainTip, blocksSynced, totalNfs⟩

/-- A sync plans, and then runs its plan. -/
lemma sync_eq {json lwds net maxHeight} :
    sync json lwds net maxHeight = openSync json lwds net maxHeight >>= runSync := by
  simp only [sync, openSync, runSync, Prog.bind_assoc, Prog.pure_bind]

section Fetch

variable {client : Lightwalletd} {range : Nat × Nat}

/-- Extraction does not panic. -/
lemma extractIronwoodNullifiers_graceful {block} : Graceful (extractIronwoodNullifiers block) :=
  .bind (.mapM fun _ _ => .mapM fun _ _ => .bind .ensure fun _ _ => .ok) fun _ _ => .ok

/-- A block is taken exactly when its nullifiers have 32 bytes. -/
lemma extractIronwoodNullifiers_returns {block : CompactBlock} :
    (∃ nfs, extractIronwoodNullifiers block = .ok nfs) ↔
      ∀ tx ∈ block.vtx, ∀ nf ∈ tx.ironwoodActions, nf.length = NULLIFIER_SIZE := by
  have hcheck : ∀ nf : Bytes, (∃ x, (do
      ensure (nf.length == 32)
        (s!"Ironwood nullifier at height {block.height} has {nf.length} bytes; " ++ "expected 32")
      return (block.height, nf) : Rust _) = .ok x) ↔ nf.length = NULLIFIER_SIZE := by
    intro nf
    constructor
    · rintro ⟨x, ok⟩
      obtain ⟨_, hlen, _⟩ := bind_eq_ok.mp ok
      exact beq_iff_eq.mp (ensure_eq_ok.mp hlen)
    · intro hlen
      refine ⟨_, bind_eq_ok.mpr ⟨(), ensure_eq_ok.mpr (beq_iff_eq.mpr hlen), rfl⟩⟩
  have htx : (∃ txs, (block.vtx.mapM fun tx => tx.ironwoodActions.mapM fun nf => (do
      ensure (nf.length == 32)
        (s!"Ironwood nullifier at height {block.height} has {nf.length} bytes; " ++ "expected 32")
      return (block.height, nf) : Rust _)) = .ok txs) ↔
      ∀ tx ∈ block.vtx, ∀ nf ∈ tx.ironwoodActions, nf.length = NULLIFIER_SIZE := by
    simp only [mapM_returns, hcheck]
  rw [← htx, extractIronwoodNullifiers]
  constructor
  · rintro ⟨nfs, ok⟩
    obtain ⟨txs, htxs, _⟩ := bind_eq_ok.mp ok
    exact ⟨txs, htxs⟩
  · rintro ⟨txs, htxs⟩
    exact ⟨txs.flatten, bind_eq_ok.mpr ⟨txs, htxs, rfl⟩⟩

/-- What is taken from a block has 32 bytes. -/
lemma extractIronwoodNullifiers_length {block nfs}
    (ok : extractIronwoodNullifiers block = .ok nfs) : ∀ x ∈ nfs, x.2.length = NULLIFIER_SIZE := by
  obtain ⟨txs, htxs, ok⟩ := bind_eq_ok.mp ok
  cases ok
  intro x hx
  obtain ⟨ys, hys, hx⟩ := List.mem_flatten.mp hx
  obtain ⟨tx, _, htx⟩ := mapM_mem htxs ys hys
  obtain ⟨nf, _, hnf⟩ := mapM_mem htx x hx
  obtain ⟨_, hlen, hnf⟩ := bind_eq_ok.mp hnf
  cases hnf
  exact beq_iff_eq.mp (ensure_eq_ok.mp hlen)

/-- Fetching does not panic. -/
lemma fetchBlockRange_graceful {a b} : Graceful (fetchBlockRange client a b) :=
  .bind .ofResult fun _ _ => .bind (.mapM fun _ _ => extractIronwoodNullifiers_graceful) fun _ _ =>
    .ok

/-- A batch is taken exactly when it is not refused; its heights are not looked at. -/
lemma fetchBlockRange_returns :
    (∃ nfs, fetchBlockRange client range.1 range.2 = .ok nfs) ↔ ¬ Refused client range := by
  have hblocks : ∀ blocks : List CompactBlock,
      (∃ nfs, blocks.mapM extractIronwoodNullifiers = .ok nfs) ↔
        ¬ ∃ block ∈ blocks, ∃ tx ∈ block.vtx, ∃ nf ∈ tx.ironwoodActions,
          nf.length ≠ NULLIFIER_SIZE := by
    intro blocks
    simp only [mapM_returns, extractIronwoodNullifiers_returns]
    push Not
    rfl
  rw [Refused]
  push Not
  constructor
  · rintro ⟨nfs, ok⟩
    obtain ⟨blocks, hserved, ok⟩ := bind_eq_ok.mp ok
    obtain ⟨batch, hbatch, _⟩ := bind_eq_ok.mp ok
    have hlen := (hblocks blocks).mp ⟨batch, hbatch⟩
    push Not at hlen
    exact ⟨blocks, ofResult_eq_ok.mp hserved, hlen⟩
  · rintro ⟨blocks, hserved, hlen⟩
    obtain ⟨batch, hbatch⟩ := (hblocks blocks).mpr (by push Not; exact hlen)
    exact ⟨batch.flatten, bind_eq_ok.mpr ⟨blocks, ofResult_eq_ok.mpr hserved,
      bind_eq_ok.mpr ⟨batch, hbatch, rfl⟩⟩⟩

/-- Fetched nullifiers have 32 bytes. -/
lemma fetchBlockRange_length {a b nfs} (ok : fetchBlockRange client a b = .ok nfs) :
    ∀ x ∈ nfs, x.2.length = NULLIFIER_SIZE := by
  obtain ⟨blocks, _, ok⟩ := bind_eq_ok.mp ok
  obtain ⟨batch, hbatch, ok⟩ := bind_eq_ok.mp ok
  cases ok
  intro x hx
  obtain ⟨ys, hys, hx⟩ := List.mem_flatten.mp hx
  obtain ⟨block, _, hblock⟩ := mapM_mem hbatch ys hys
  exact extractIronwoodNullifiers_length hblock x hx

end Fetch

section Cycle

variable {clients : List Lightwalletd} {ranges : List (Nat × Nat)} {s : Dir}

/-- The requests of a cycle. -/
def requests (ranges : List (Nat × Nat)) : List FsOp :=
  ranges.zipIdx.map fun x => request x.2 x.1

/-- What a cycle writes when it commits. -/
def commitOps (cycleEnd : Nat) (bs : Bytes) (offset : Nat) : List FsOp :=
  [.append .nullifiersBin bs, .create .nullifiersCheckpointTmp (encodeEntry cycleEnd offset),
    .rename .nullifiersCheckpointTmp .nullifiersCheckpoint,
    .append .nullifiersIndex (encodeEntry cycleEnd offset)]

/-- Requests leave the directory alone. -/
lemma exec_requests : exec s (requests ranges) = s := by
  rw [requests]
  generalize ranges.zipIdx = xs
  induction xs with
  | nil => rfl
  | cons x xs ih => exact ih

/-- A cycle requests something. -/
lemma buildBatchRanges_ne_nil {current target n} (hn : 1 ≤ n) (hle : current ≤ target) :
    buildBatchRanges current target n ≠ [] := by
  cases n with
  | zero => cases hn
  | succ n =>
    rw [buildBatchRanges, if_neg (Nat.not_lt.mpr hle)]
    exact List.cons_ne_nil _ _

/-- A refused batch fails the cycle before it writes anything. -/
lemma awaitBatches_refused (h : ∃ x ∈ clients.zip ranges, Refused x.1 x.2) :
    ∃ msg, awaitBatches clients ranges s = ([], .error (.err msg)) := by
  have hfetch : ∃ msg, (clients.zip ranges).mapM (fun x => fetchBlockRange x.1 x.2.1 x.2.2) =
      .error (.err msg) := by
    rcases @Graceful.mapM _ _ (clients.zip ranges) (fun x => fetchBlockRange x.1 x.2.1 x.2.2)
      fun _ _ => fetchBlockRange_graceful with ok | err
    · obtain ⟨x, hx, refused⟩ := h
      exact absurd refused (fetchBlockRange_returns.mp (mapM_returns.mp ok x hx))
    · exact err
  obtain ⟨msg, hfetch⟩ := hfetch
  refine ⟨msg, ?_⟩
  rw [awaitBatches, hfetch]
  rfl

/-- Otherwise the cycle commits the end of its last range. -/
lemma awaitBatches_commits {last} (h : ¬ ∃ x ∈ clients.zip ranges, Refused x.1 x.2)
    (hlast : ranges.getLast? = some last) :
    ∃ bs offset n, awaitBatches clients ranges s = (commitOps last.2 bs offset, .ok (last.2, n)) := by
  push Not at h
  obtain ⟨nfs, hfetch⟩ : ∃ nfs, (clients.zip ranges).mapM
      (fun x => fetchBlockRange x.1 x.2.1 x.2.2) = .ok nfs :=
    mapM_returns.mpr fun x hx => fetchBlockRange_returns.mpr (h x hx)
  have hlen : ∀ x ∈ nfs.flatten, x.2.length = 32 := by
    intro x hx
    obtain ⟨ys, hys, hx⟩ := List.mem_flatten.mp hx
    obtain ⟨y, _, hy⟩ := mapM_mem hfetch ys hys
    exact fetchBlockRange_length hy x hx
  have hrun : awaitBatches clients ranges s = (do
      Prog.perform (.append .nullifiersBin (nfs.flatten.flatMap fun x => x.2))
      let offset ← Prog.inspect fun s => ((s .nullifiersBin).getD []).length
      saveCheckpoint last.2 offset
      return (last.2, nfs.flatten.length) : Fs (Nat × Nat)) s := by
    rw [awaitBatches, hfetch, hlast, Prog.lift_bind rfl, Prog.lift_bind rfl, appendNullifiers,
      Prog.bind_assoc, Prog.lift_bind (forEach_length_ok hlen), Prog.bind_assoc]
  exact ⟨_, _, _, hrun.trans rfl⟩

/-- A cycle sends its requests, then awaits them. -/
lemma syncCycle_run {current target} :
    syncCycle clients current target s =
      (requests (buildBatchRanges current target clients.length) ++
        (awaitBatches clients (buildBatchRanges current target clients.length) s).1,
      (awaitBatches clients (buildBatchRanges current target clients.length) s).2) := by
  have hsent : (Prog.forEach (buildBatchRanges current target clients.length).zipIdx fun x =>
      Prog.perform (.call (.getBlockRange x.2 x.1.1 x.1.2)) : Fs Unit) s =
      (requests (buildBatchRanges current target clients.length), .ok ()) := Prog.forEach_perform
  have hsame : exec s (requests (buildBatchRanges current target clients.length)) = s :=
    exec_requests
  have hok : ((Prog.forEach (buildBatchRanges current target clients.length).zipIdx fun x =>
      Prog.perform (.call (.getBlockRange x.2 x.1.1 x.1.2)) : Fs Unit) s).2 = .ok () := by rw [hsent]
  rw [syncCycle, Prog.bind_of_ok hok, Prog.after, hsent, hsame]

end Cycle

section Law

variable {α β : Type} {clients : List Lightwalletd} {s : Dir}

/-- Requests and commits of a whole program are those of its parts. -/
lemma CommitsReceived.right {ops rest : List FsOp} {r : Rust α}
    (h : CommitsReceived clients s (ops ++ rest, r)) : CommitsReceived clients (exec s ops) (rest, r) := by
  intro pre i range post hrest
  have := h (ops ++ pre) i range post (by rw [List.append_assoc]; exact congrArg (ops ++ ·) hrest)
  rwa [exec_append] at this

/-- Received requests in front of a run. -/
lemma CommitsReceived.append {ops rest : List FsOp} {r : Rust α}
    (received : ∀ i range, request i range ∈ ops →
      ∃ client, clients[i]? = some client ∧ Received client range)
    (h : CommitsReceived clients (exec s ops) (rest, r)) :
    CommitsReceived clients s (ops ++ rest, r) := by
  intro pre i range post hops
  rcases List.append_eq_append_iff.mp hops with ⟨mid, rfl, hrest⟩ | ⟨mid, rfl, hmid⟩
  · rw [exec_append]
    exact h mid i range post hrest
  · cases mid with
    | nil =>
      have := h [] i range post (by simpa using hmid.symm)
      simpa using this
    | cons o mid =>
      cases hmid
      exact .inl (received i range (by simp))

/-- A committed request was received. -/
lemma CommitsReceived.received {ops rest : List FsOp} {r : Rust α}
    (h : CommitsReceived clients s (ops ++ rest, r))
    (commit : ∃ o ∈ rest, ¬ o.Avoids .nullifiersCheckpoint) {i range}
    (hreq : request i range ∈ ops) : ∃ client, clients[i]? = some client ∧ Received client range := by
  obtain ⟨pre, post, rfl⟩ := List.append_of_mem hreq
  rcases h pre i range (post ++ rest) (by simp) with received | ⟨_, kept⟩
  · exact received
  · obtain ⟨o, ho, writes⟩ := commit
    exact absurd (kept.checkpoint o (List.mem_append_right post ho)) writes

/-- Operations that leave the directory alone commit nothing. -/
lemma uncommitted_of_calls {ops : List FsOp} (h : ∀ o ∈ ops, ∃ e, o = .call e) :
    Uncommitted s ops := by
  constructor
  · intro o ho
    obtain ⟨e, rfl⟩ := h o ho
    trivial
  · intro s' cut
    have hsame : ∀ n, s' n = s n := by
      intro n
      refine Interrupted.of_avoids ?_ cut
      intro o ho
      obtain ⟨e, rfl⟩ := h o ho
      trivial
    rw [committedBytes, committedBytes, hsame, hsame]

/-- The requests of a cycle are received exactly when its batches are. -/
lemma received_requests {ranges : List (Nat × Nat)} (hlen : ranges.length ≤ clients.length) :
    (∀ i range, request i range ∈ requests ranges →
      ∃ client, clients[i]? = some client ∧ Received client range) ↔
    ∀ x ∈ clients.zip ranges, Received x.1 x.2 := by
  have hmem : ∀ i range, request i range ∈ requests ranges ↔ ranges[i]? = some range := by
    intro i range
    rw [requests, List.mem_map, ← List.mk_mem_zipIdx_iff_getElem?]
    constructor
    · rintro ⟨⟨r, j⟩, hx, heq⟩
      cases r
      cases heq
      exact hx
    · intro hx
      exact ⟨(range, i), hx, rfl⟩
  simp only [hmem]
  constructor
  · rintro received ⟨client, range⟩ hx
    obtain ⟨i, hi⟩ := List.mem_iff_getElem?.mp hx
    obtain ⟨hclient, hrange⟩ := List.getElem?_zip_eq_some.mp hi
    obtain ⟨client', hclient', hreceived⟩ := received i range hrange
    rw [hclient] at hclient'
    cases hclient'
    exact hreceived
  · intro received i range hrange
    obtain ⟨hi, _⟩ := List.getElem?_eq_some_iff.mp hrange
    have hclient := List.getElem?_eq_getElem (hi.trans_le hlen)
    refine ⟨_, hclient, received (_, range) ?_⟩
    exact List.mem_iff_getElem?.mpr ⟨i, List.getElem?_zip_eq_some.mpr ⟨hclient, hrange⟩⟩

/-- A run that requests nothing. -/
lemma commitsReceived_of_noRequest {run : List FsOp × Rust α} (h : ∀ o ∈ run.1, NoRequest o) :
    CommitsReceived clients s run := by
  intro pre i range post hops
  refine absurd rfl (h (request i range) ?_ i range.1 range.2)
  rw [hops]
  simp

/-- Without operations nothing is committed. -/
lemma commitsReceived_nil {r : Rust α} : CommitsReceived clients s ([], r) :=
  commitsReceived_of_noRequest fun _ h => absurd h List.not_mem_nil

/-- Only the operations and the error count, not the value. -/
lemma commitsReceived_bind_pure {x : Fs α} {f : α → β} :
    CommitsReceived clients s ((x >>= fun a => pure (f a)) s) ↔ CommitsReceived clients s (x s) := by
  cases hrun : (x s).2 with
  | error e =>
    rw [Prog.bind_of_error hrun]
    simp only [CommitsReceived, hrun, Except.error.injEq]
  | ok a =>
    have hpure : (x >>= fun a => pure (f a)) s = ((x s).1, .ok (f a)) := by
      rw [Prog.bind_of_ok hrun]
      exact congrArg (·, _) (List.append_nil _)
    rw [hpure]
    simp only [CommitsReceived, hrun, reduceCtorEq]

/-- Local steps in front of a program: the law is the program's own. -/
lemma commitsReceived_bind {x : Fs α} {f : α → Fs β} (hx : Local x) :
    CommitsReceived clients s ((x >>= f) s) ↔
      ∀ a, (x s).2 = .ok a → CommitsReceived clients (x.after s) (f a (x.after s)) := by
  cases hrun : (x s).2 with
  | error e =>
    rw [Prog.bind_of_error hrun]
    exact ⟨fun _ a ha => (nomatch ha), fun _ => commitsReceived_of_noRequest (hx s).1⟩
  | ok a =>
    rw [Prog.bind_of_ok hrun]
    constructor
    · intro h b hb
      cases hb
      exact h.right
    · intro h
      refine CommitsReceived.append ?_ (h a rfl)
      intro i range hreq
      exact absurd rfl ((hx s).1 _ hreq i range.1 range.2)

end Law

section Loop

variable {clients : List Lightwalletd} {target : Nat}

/-- The loop commits only received blocks exactly when its cycles are answered faithfully. -/
lemma syncLoop_commitsReceived (hne : clients ≠ []) {fuel current blocks total} {s : Dir} :
    CommitsReceived clients s (syncLoop clients target fuel current blocks total s) ↔
      Faithful clients (cycles clients.length target fuel current) := by
  induction fuel generalizing current blocks total s with
  | zero => exact ⟨fun _ => trivial, fun _ => commitsReceived_nil⟩
  | succ fuel ih =>
    rw [syncLoop, cycles]
    split
    · exact ⟨fun _ => trivial, fun _ => commitsReceived_nil⟩
    · rename_i hge
      rw [Faithful]
      have hranges := @buildBatchRanges_ne_nil current target _ (List.length_pos_iff.mpr hne)
        (Nat.not_lt.mp hge)
      have hlen := @buildBatchRanges_length current target clients.length
      have hcycle := @syncCycle_run clients s current target
      generalize buildBatchRanges current target clients.length = ranges at hranges hlen hcycle
      have hlast := List.getLast?_eq_some_getLast hranges
      generalize ranges.getLast hranges = last at hlast
      rw [hlast, Option.elim_some]
      by_cases refused : ∃ x ∈ clients.zip ranges, Refused x.1 x.2
      · obtain ⟨msg, hrun⟩ := @awaitBatches_refused _ _ s refused
        rw [hrun, List.append_nil] at hcycle
        rw [Prog.bind_of_error (by rw [hcycle]), hcycle]
        refine ⟨fun _ => .inl refused, fun _ pre i range post hops => ?_⟩
        refine .inr ⟨⟨msg, rfl⟩, uncommitted_of_calls fun o ho => ?_⟩
        have hmem : o ∈ requests ranges := by
          rw [show requests ranges = _ from hops]
          simp [ho]
        obtain ⟨x, _, rfl⟩ := List.mem_map.mp hmem
        exact ⟨_, rfl⟩
      · obtain ⟨bs, offset, n, hrun⟩ := @awaitBatches_commits _ _ s _ refused hlast
        rw [hrun] at hcycle
        rw [Prog.bind_of_ok (by rw [hcycle]), Prog.after, hcycle, or_iff_right refused,
          ← received_requests hlen, ← @ih _ (blocks + (last.2 - current + 1)) (total + n)
            (exec s (requests ranges ++ commitOps last.2 bs offset))]
        constructor
        · intro h
          refine ⟨fun i range hreq => ?_, h.right⟩
          rw [List.append_assoc] at h
          refine h.received ⟨.rename .nullifiersCheckpointTmp .nullifiersCheckpoint, ?_, ?_⟩ hreq
          · simp [commitOps]
          · simp [Op.Avoids]
        · rintro ⟨received, h⟩
          refine h.append fun i range hreq => received i range ?_
          refine (List.mem_append.mp hreq).resolve_right ?_
          simp [commitOps, request]

end Loop

section Sync

variable {json : Json DatasetMarker} {lwds : List Lightwalletd} {net : ZcashNetwork}
  {maxHeight : Option Nat} {s : Dir}

/-- The endpoints a sync reaches. -/
def connected (lwds : List Lightwalletd) : List Lightwalletd :=
  lwds.filter fun lwd => lwd.connect.isOk

/-- Planning is local. -/
lemma openSync_local : Local (openSync json lwds net maxHeight) :=
  .bind (.lift Ends.ensure) fun _ => .bind ensureIronwoodDataset_local fun _ =>
    .bind (.lift connectClients_ends) fun _ => .bind (.lift Ends.index) fun _ =>
    .bind (.lift Ends.ofResult) fun _ => .bind resumeHeight_local fun _ =>
    .bind nullifierCount_local fun _ =>
    .bind (.lift (Ends.forEach fun _ _ => requireIronwoodTreeState_ends)) fun _ => .pure

/-- The plan has the connected clients, at least one. -/
lemma openSync_clients {plan} (ok : (openSync json lwds net maxHeight s).2 = .ok plan) :
    plan.clients = connected lwds ∧ connected lwds ≠ [] := by
  obtain ⟨_, _, ok, _⟩ := Prog.bind_ok ok
  obtain ⟨_, _, ok, _⟩ := Prog.bind_ok ok
  obtain ⟨clients, hclients, ok, _⟩ := Prog.bind_ok ok
  obtain ⟨_, _, ok, _⟩ := Prog.bind_ok ok
  obtain ⟨_, _, ok, _⟩ := Prog.bind_ok ok
  obtain ⟨_, _, ok, _⟩ := Prog.bind_ok ok
  obtain ⟨_, _, ok, _⟩ := Prog.bind_ok ok
  obtain ⟨_, _, ok, _⟩ := Prog.bind_ok ok
  cases ok
  have hne := (connectClients_ok hclients).1
  obtain ⟨_, _, hclients⟩ := bind_eq_ok.mp hclients
  cases hclients
  exact ⟨rfl, hne⟩

/-- The planned cycles commit what was received exactly when the clients are faithful in all of them.
-/
lemma runSync_commitsReceived {plan : SyncPlan} (hne : plan.clients ≠ []) :
    CommitsReceived plan.clients s (runSync plan s) ↔
      (plan.start < plan.target →
        Faithful plan.clients
          (cycles plan.clients.length plan.target U64 (wrappingAdd plan.start 1))) := by
  rw [runSync]
  split
  · rename_i hle
    refine ⟨fun _ hlt => absurd hlt (Nat.not_lt.mpr hle), fun _ => ?_⟩
    exact commitsReceived_nil
  · rename_i hlt
    rw [commitsReceived_bind_pure, syncLoop_commitsReceived hne]
    exact ⟨fun h _ => h, fun h => h (Nat.not_le.mp hlt)⟩

/-- A sync commits only blocks it received exactly when its cycles are answered faithfully. -/
theorem sync_commitsReceived_iff :
    CommitsReceived (connected lwds) s (sync json lwds net maxHeight s) ↔
      ∀ plan, (openSync json lwds net maxHeight s).2 = .ok plan → plan.start < plan.target →
        Faithful (connected lwds)
          (cycles (connected lwds).length plan.target U64 (wrappingAdd plan.start 1)) := by
  rw [sync_eq, commitsReceived_bind openSync_local]
  constructor
  · intro h plan ok
    obtain ⟨hclients, hne⟩ := openSync_clients ok
    have hrun := h plan ok
    rw [← hclients] at hne hrun ⊢
    exact (runSync_commitsReceived hne).mp hrun
  · intro h plan ok
    obtain ⟨hclients, hne⟩ := openSync_clients ok
    have hcycles := h plan ok
    rw [← hclients] at hne hcycles ⊢
    exact (runSync_commitsReceived hne).mpr hcycles

end Sync

/-- A server that ends every stream without a block. -/
def silentServer : Lightwalletd where
  url := "https://lwd"
  connect := .ok ()
  getLatestBlock := .ok 4134009
  getTreeState := fun h => .ok ⟨"test", h, "00"⟩
  getBlockRange := fun _ _ => .ok []

/-- Ten blocks are committed although none was sent. -/
theorem sync_commits_unsent_blocks :
    (sync markerJson [silentServer] .test none fun _ => none).2 = .ok ⟨4134009, 10, 0⟩ ∧
      (sync markerJson [silentServer] .test none).after (fun _ => none) .nullifiersCheckpoint =
        some (encodeEntry 4134009 0) ∧
      ¬ CommitsReceived (connected [silentServer]) (fun _ => none)
        (sync markerJson [silentServer] .test none fun _ => none) := by
  have hopen : (openSync markerJson [silentServer] .test none fun _ => none).2 =
      .ok ⟨[silentServer], 4134009, 4133999, 4134009⟩ := rfl
  have hfuel : U64 = (U64 - 2) + 1 + 1 := by decide
  have hrun : runSync ⟨[silentServer], 4134009, 4133999, 4134009⟩ =
      syncLoop [silentServer] 4134009 (U64 - 2 + 1 + 1) 4134000 0 0 >>= fun r =>
        pure ⟨4134009, r.1, r.2⟩ := by
    rw [runSync, hfuel]
    rfl
  rw [Prog.after, sync_eq, Prog.bind_of_ok hopen, hrun, exec_append]
  refine ⟨?_, ?_, ?_⟩
  · generalize U64 - 2 = fuel
    rfl
  · generalize U64 - 2 = fuel
    rfl
  · intro h
    have hloop := syncLoop_commitsReceived (List.cons_ne_nil _ _) |>.mp
      (commitsReceived_bind_pure.mp h.right)
    rcases hloop with ⟨x, hx, refused⟩ | ⟨received, _⟩
    · obtain rfl : x = (silentServer, 4134000, 4134009) := List.mem_singleton.mp hx
      obtain ⟨block, hblock, _⟩ := refused [] rfl
      cases hblock
    · obtain ⟨blocks, hblocks, hheights⟩ := received (silentServer, 4134000, 4134009)
        (List.mem_singleton.mpr rfl)
      cases hblocks
      cases hheights

end NullifierPir.Ingest
