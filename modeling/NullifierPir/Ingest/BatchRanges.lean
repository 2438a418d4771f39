import NullifierPir.Ingest.SyncRun

/-!
# The requests of a sync

Which blocks a sync asks for, and that its loop ends. Neither depends on what the servers stream:
`blockRanges` reads the requests off the log of a run, `syncCycle` asks for consecutive batches from
its first missing block on (`blockRanges_syncCycle`), and a completed loop has asked for every block
up to its target once and in order (`blockRanges_syncLoop`).
-/

namespace NullifierPir.Ingest
open Rust ByteString Crash NullifierPir.Types

/-- The block ranges a run requests, in order. -/
def blockRanges (ops : List FsOp) : List (Nat × Nat) :=
  ops.filterMap fun
    | .call (.getBlockRange _ start stop) => some (start, stop)
    | _ => none

/-- An operation that asks no server for blocks. -/
def NoRequest (o : FsOp) : Prop := ∀ i start stop, o ≠ .call (.getBlockRange i start stop)

/-- No requests and an end, whatever the directory. -/
abbrev Local {α : Type} (x : Fs α) : Prop := x.Within NoRequest .diverge

/-- Requests of one run after the other. -/
lemma blockRanges_append {ops ops' : List FsOp} :
    blockRanges (ops ++ ops') = blockRanges ops ++ blockRanges ops' := List.filterMap_append

/-- Operations without requests ask for no range. -/
lemma blockRanges_of_noRequest {ops : List FsOp} (h : ∀ o ∈ ops, NoRequest o) :
    blockRanges ops = [] := by
  rw [blockRanges, List.filterMap_eq_nil_iff]
  intro o ho
  split
  · rename_i i start stop
    exact absurd rfl (h _ ho i start stop)
  · rfl

/-- Local steps in front of a program leave its requests. -/
lemma blockRanges_bind {α β : Type} {x : Fs α} {f : α → Fs β} {s : Dir} {b} (hx : Local x)
    (ok : ((x >>= f) s).2 = .ok b) :
    ∃ a, (x s).2 = .ok a ∧ (f a (x.after s)).2 = .ok b ∧
      blockRanges ((x >>= f) s).1 = blockRanges (f a (x.after s)).1 := by
  obtain ⟨a, ha, hb, hlog⟩ := Prog.bind_ok ok
  refine ⟨a, ha, hb, ?_⟩
  rw [hlog, blockRanges_append, blockRanges_of_noRequest (hx s).1, List.nil_append]

/-- What a restart does to the directory: it writes the marker and cuts the data file. -/
inductive ResumeOp : FsOp → Prop
  | read {n} : ResumeOp (.read n)
  | marker {bs} : ResumeOp (.create .datasetMarkerTmp bs)
  | publish : ResumeOp (.rename .datasetMarkerTmp .datasetMarker)
  | cut {len} : ResumeOp (.setLen .nullifiersBin len)

/-- Reading a file is a resume operation. -/
lemma readFile_ops {n} : (Fs.readFile n).Within ResumeOp .diverge := by
  refine .bind (.read .read) ?_
  intro r
  cases r with
  | none => exact .lift Ends.bail
  | some bs => exact .pure

/-- The marker check performs resume operations only. -/
lemma ensureIronwoodDataset_ops {json net} :
    (ensureIronwoodDataset json net).Within ResumeOp .diverge := by
  refine .bind .inspect ?_
  intro b
  cases b with
  | true =>
    exact .bind readFile_ops fun _ => .bind (.lift (Ends.context Ends.ofResult)) fun _ =>
      .bind (.lift Ends.ensure) fun _ => .lift Ends.ensure
  | false =>
    refine .bind .inspect ?_
    intro r
    cases r with
    | some n => exact .lift Ends.bail
    | none => exact .bind (.perform .marker) fun _ => .perform .publish

/-- So does loading the checkpoint. -/
lemma loadCheckpoint_ops : loadCheckpoint.Within ResumeOp .diverge := by
  refine .bind .inspect ?_
  intro b
  cases b with
  | false => exact .pure
  | true => exact .bind readFile_ops fun _ => .bind (.lift Ends.ensure) fun _ => .pure

/-- A checkpoint of the right size loads. -/
lemma loadCheckpoint_ok {s : Dir}
    (h : ∀ cp, s .nullifiersCheckpoint = some cp → cp.length = CHECKPOINT_SIZE) :
    (loadCheckpoint s).2 = .ok ((s .nullifiersCheckpoint).map fun cp => decodeEntry cp 0) := by
  cases hcp : s .nullifiersCheckpoint with
  | none =>
    rw [loadCheckpoint, exists_bind (show _ = false by rw [hcp]; rfl)]
    rfl
  | some cp =>
    rw [loadCheckpoint, exists_bind (show _ = true by rw [hcp]; rfl), if_neg (by simp),
      readFile_bind hcp, Prog.lift_bind (ensure_pos (beq_iff_eq.mpr (h cp hcp)))]
    rfl

/-- Truncating performs resume operations only. -/
lemma truncateToCheckpoint_ops {off} : (truncateToCheckpoint off).Within ResumeOp .diverge := by
  refine .bind .inspect ?_
  intro b
  cases b with
  | false => exact .pure
  | true => exact .perform .cut

/-- And so does the whole resume. -/
lemma resumeHeight_ops {json net} : (resumeHeight json net).Within ResumeOp .diverge := by
  refine .bind ensureIronwoodDataset_ops fun _ => .bind loadCheckpoint_ops ?_
  intro r
  cases r with
  | none => exact .bind truncateToCheckpoint_ops fun _ => .pure
  | some hoff =>
    dsimp only
    split
    · exact .bind truncateToCheckpoint_ops fun _ => .pure
    · exact .lift Ends.bail

/-- Resume operations request no blocks. -/
lemma ResumeOp.noRequest {o : FsOp} (h : ResumeOp o) : NoRequest o := by
  intro i start stop e
  cases h <;> cases e

/-- The marker check is local. -/
lemma ensureIronwoodDataset_local {json net} : Local (ensureIronwoodDataset json net) :=
  ensureIronwoodDataset_ops.mono fun _ => ResumeOp.noRequest

/-- Resuming is local. -/
lemma resumeHeight_local {json net} : Local (resumeHeight json net) :=
  resumeHeight_ops.mono fun _ => ResumeOp.noRequest

/-- Counting is local. -/
lemma nullifierCount_local : Local nullifierCount := .inspect

/-- Appending is local. -/
lemma appendNullifiers_local {nfs} : Local (appendNullifiers nfs) :=
  .bind (.lift (Ends.forEach fun _ _ => Ends.ensure)) fun _ =>
    .bind (.perform fun _ _ _ h => nomatch h) fun _ => .inspect

/-- Saving is local. -/
lemma saveCheckpoint_local {h off} : Local (saveCheckpoint h off) :=
  .bind (.perform fun _ _ _ h => nomatch h) fun _ =>
    .bind (.perform fun _ _ _ h => nomatch h) fun _ => .perform fun _ _ _ h => nomatch h

/-- Connecting ends. -/
lemma connectClients_ends {lwds} : Ends (connectClients lwds) :=
  .bind Ends.ensure fun _ => .ok

/-- The tree state check ends. -/
lemma requireIronwoodTreeState_ends {l net h} : Ends (requireIronwoodTreeState l net h) :=
  .bind (.context Ends.ofResult) fun _ => .bind Ends.ensure fun _ => .bind Ends.ensure fun _ =>
    Ends.ensure

/-- Fetching a range ends. -/
lemma fetchBlockRange_ends {l a b} : Ends (fetchBlockRange l a b) :=
  .bind Ends.ofResult fun _ => .bind (.mapM fun _ _ => .bind (.mapM fun _ _ => .mapM fun _ _ =>
    .bind Ends.ensure fun _ => .ok) fun _ => .ok) fun _ => .ok

/-- Awaiting a cycle is local. -/
lemma awaitBatches_local {clients ranges} : Local (awaitBatches clients ranges) := by
  refine .bind (.lift (Ends.mapM fun _ _ => fetchBlockRange_ends)) fun nfs => .bind (.lift ?_)
    fun _ => .bind appendNullifiers_local fun _ => .bind saveCheckpoint_local fun _ => .pure
  cases ranges.getLast? with
  | none => exact Ends.panicked
  | some r => exact Ends.ok

section Cycle

variable {clients : List Lightwalletd} {current target : Nat} {s : Dir}

/-- A cycle requests its batches. -/
lemma blockRanges_syncCycle {r} (ok : (syncCycle clients current target s).2 = .ok r) :
    blockRanges (syncCycle clients current target s).1 =
      buildBatchRanges current target clients.length := by
  obtain ⟨_, _, _, hlog⟩ := Prog.bind_ok ok
  rw [syncCycle, hlog, blockRanges_append, blockRanges_of_noRequest (awaitBatches_local _).1,
    List.append_nil, Prog.forEach_perform, blockRanges, List.filterMap_map]
  change (buildBatchRanges current target clients.length).zipIdx.filterMap (some ∘ Prod.fst) = _
  rw [List.filterMap_eq_map, List.zipIdx_map_fst]

/-- A cycle ends at the last block it requested. -/
lemma syncCycle_last {r} (ok : (syncCycle clients current target s).2 = .ok r) :
    (buildBatchRanges current target clients.length).getLast?.map Prod.snd = some r.1 := by
  obtain ⟨_, _, ok, _⟩ := Prog.bind_ok ok
  obtain ⟨nfs, _, ok, _⟩ := Prog.bind_ok ok
  obtain ⟨cycleEnd, hend, ok, _⟩ := Prog.bind_ok ok
  obtain ⟨_, _, ok, _⟩ := Prog.bind_ok ok
  obtain ⟨_, _, ok, _⟩ := Prog.bind_ok ok
  cases ok
  cases hl : (buildBatchRanges current target clients.length).getLast? with
  | none =>
    rw [hl] at hend
    cases hend
  | some last =>
    rw [hl] at hend
    cases hend
    rfl

/-- A completed cycle covers the blocks from `current` to where it ends. -/
lemma syncCycle_batches {r} (hne : clients ≠ []) (hle : current ≤ target)
    (hfit : target + BATCH_SIZE < U64) (ok : (syncCycle clients current target s).2 = .ok r) :
    Batches current r.1 (buildBatchRanges current target clients.length) ∧ r.1 ≤ target := by
  obtain ⟨stop, hstop, b⟩ := buildBatchRanges_spec (List.length_pos_iff.mpr hne) hle hfit
  have hlast := syncCycle_last ok
  rw [b.last] at hlast
  cases hlast
  exact ⟨b, hstop⟩

/-- A cycle ends. -/
lemma syncCycle_ends {clients current target} :
    (syncCycle clients current target).Within (fun _ => True) .diverge := by
  refine .bind (.forEach fun _ _ => .perform trivial) fun _ s => ⟨fun _ _ => trivial, ?_⟩
  exact (awaitBatches_local s).2

end Cycle

section Loop

variable {clients : List Lightwalletd} {target : Nat} (hne : clients ≠ [])
  (hfit : target + BATCH_SIZE < U64)
include hne hfit

/-- The loop ends: every cycle moves `current` up. -/
lemma syncLoop_ends {fuel current blocks total} (hfuel : target + 1 - current < fuel) :
    (syncLoop clients target fuel current blocks total).Within (fun _ => True) .diverge := by
  induction fuel generalizing current blocks total with
  | zero => cases hfuel
  | succ fuel ih =>
    rw [syncLoop]
    split
    · exact .pure
    · rename_i hge
      refine .bind_of_ok syncCycle_ends ?_
      rintro s ⟨cycleEnd, cycleNfs⟩ ok
      obtain ⟨b, hle⟩ := syncCycle_batches hne (Nat.not_lt.mp hge) hfit ok
      have hlow := b.le
      dsimp only at hle hlow ⊢
      rw [wrappingAdd_eq (show cycleEnd + 1 < U64 by simp only [BATCH_SIZE] at hfit; omega)]
      exact ih (by omega)

/-- A completed loop has requested every block up to the target, once and in order. -/
lemma blockRanges_syncLoop {fuel current blocks total r} {s : Dir} (hcur : current ≤ target + 1)
    (ok : (syncLoop clients target fuel current blocks total s).2 = .ok r) :
    (blockRanges (syncLoop clients target fuel current blocks total s).1).flatMap
        (fun r => List.range' r.1 (r.2 + 1 - r.1)) = List.range' current (target + 1 - current) ∧
      ∀ r ∈ blockRanges (syncLoop clients target fuel current blocks total s).1, r.1 ≤ r.2 := by
  induction fuel generalizing current blocks total s with
  | zero => cases ok
  | succ fuel ih =>
    rw [syncLoop] at ok ⊢
    split at ok
    · rename_i hlt
      rw [if_pos hlt, show target + 1 - current = 0 by omega]
      refine ⟨rfl, ?_⟩
      intro r hr
      cases hr
    · rename_i hge
      rw [if_neg hge]
      obtain ⟨⟨cycleEnd, cycleNfs⟩, hcycle, hrest, hlog⟩ := Prog.bind_ok ok
      obtain ⟨b, hle⟩ := syncCycle_batches hne (Nat.not_lt.mp hge) hfit hcycle
      have hlow := b.le
      dsimp only at hle hlow hrest hlog
      rw [wrappingAdd_eq (show cycleEnd + 1 < U64 by simp only [BATCH_SIZE] at hfit; omega)]
        at hrest hlog
      obtain ⟨hcover, hnonempty⟩ := ih (show cycleEnd + 1 ≤ target + 1 by omega) hrest
      rw [hlog, blockRanges_append, blockRanges_syncCycle hcycle]
      refine ⟨?_, ?_⟩
      · rw [List.flatMap_append, b.covers, hcover]
        have happ := @List.range'_append_1 current (cycleEnd + 1 - current)
          (target + 1 - (cycleEnd + 1))
        rw [show current + (cycleEnd + 1 - current) = cycleEnd + 1 by omega,
          show cycleEnd + 1 - current + (target + 1 - (cycleEnd + 1)) = target + 1 - current by
            omega] at happ
        exact happ
      · intro r hr
        rcases List.mem_append.mp hr with hr | hr
        · exact (b.nonempty r hr).1
        · exact hnonempty r hr

end Loop

end NullifierPir.Ingest
