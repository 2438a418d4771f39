import NullifierPir.Ingest.BatchRanges

/-!
# Crash-resume equivalence of the sync store

`SyncReach` are the directories that any sequence of sync calls leaves, each of them finished or cut by
a crash, against honest servers of one chain. All of them are sound, so every restart resumes exactly
at the committed height, and a completed call leaves what one uninterrupted single-server run to the
same height leaves (`sync_crash_resume`).
-/

namespace NullifierPir.Ingest
open Rust ByteString Crash NullifierPir.Types

section Reach

variable {net : ZcashNetwork}

/-- Directories reachable by sync calls and crashes, starting from an empty one. -/
inductive SyncReach (json : Json DatasetMarker) (c : Chain net) : Dir → Prop
  | fresh : SyncReach json c fun _ => none
  | run {s lwds maxHeight} : SyncReach json c s → (∀ l ∈ lwds, Lightwalletd.Serves l c) →
      SyncReach json c ((sync json lwds net maxHeight).after s)
  | crash {s s' s'' lwds maxHeight} : SyncReach json c s → (∀ l ∈ lwds, Lightwalletd.Serves l c) →
      Interrupted s (sync json lwds net maxHeight s).1 s' → LoseTail Unsynced s' s'' →
      SyncReach json c s''

/-- A server that answers every request with the chain. -/
def Chain.server (c : Chain net) : Lightwalletd where
  url := "https://us.zec.stardust.rest:443"
  connect := .ok ()
  getLatestBlock := .ok c.tip
  getTreeState := fun h => .ok ⟨net.asStr, h, "000000"⟩
  getBlockRange := fun start stop => .ok ((List.range' start (stop + 1 - start)).map c.block)

/-- The uninterrupted single-server run to a height, from an empty directory. -/
def referenceRun (json : Json DatasetMarker) (c : Chain net) (height : Nat) :
    List FsOp × Rust SyncResult :=
  sync json [c.server] net (some height) fun _ => none

end Reach

section Invariant

variable {json : Json DatasetMarker} {net : ZcashNetwork} {c : Chain net} {s s' : Dir}

/-- Only the index loses bytes. -/
lemma LoseTail.eq {n} (h : LoseTail Unsynced s s') (hn : n ≠ .nullifiersIndex) : s' n = s n := by
  rcases h n with h | ⟨h, _⟩
  · exact h
  · exact absurd h hn

/-- Every step of a sync keeps the data sound. -/
lemma SyncStep.keeps_sound {o} (step : SyncStep json c s o) : Keeps (Sound c) s o := by
  rcases step with op | ⟨i, start, stop, rfl⟩
  · exact op.keeps_sound
  · exact keeps_sound_of_avoids trivial trivial

/-- The marker is current, or nothing is there for it to describe. -/
def Tagged (json : Json DatasetMarker) (net : ZcashNetwork) (s : Dir) : Prop :=
  Marked json net s ∨ s .datasetMarker = none ∧ NoArtifacts s

/-- Operations that avoid the marker keep it. -/
lemma Marked.keeps_of_avoids {o : FsOp} (m : Marked json net s) (h : o.Avoids .datasetMarker) :
    Keeps (Tagged json net) s o :=
  fun _ => ⟨.inl (m.congr h.apply), fun _ ht => .inl (m.congr (h.torn ht))⟩

/-- Every step of a sync keeps the marker. -/
lemma SyncStep.keeps_tagged {o} (step : SyncStep json c s o) : Keeps (Tagged json net) s o := by
  rcases step with op | ⟨i, start, stop, rfl⟩
  · cases op with
    | read _ =>
      intro t
      refine ⟨t, ?_⟩
      intro _ ht
      cases ht
    | markerTmp hmark hart =>
      have hart' : ∀ n ∈ RAW_DATASET_ARTIFACTS, n ≠ .datasetMarkerTmp := by decide
      refine fun _ => ⟨.inr ⟨?_, fun n hn => ?_⟩, fun s' ht => ?_⟩
      · rw [apply_create, if_neg (by simp), hmark]
      · rw [apply_create, if_neg (hart' n hn), hart n hn]
      · cases ht with
        | create _ =>
          refine .inr ⟨?_, fun n hn => ?_⟩
          · rw [Function.update_of_ne (by simp), hmark]
          · rw [Function.update_of_ne (hart' n hn), hart n hn]
    | marker hmark hart htmp =>
      intro _
      refine ⟨.inl ⟨_, currentMarker net, ?_, json.decode_line _, rfl, isCurrentDataset_current⟩, ?_⟩
      · rw [apply_rename htmp, if_neg (by simp), if_pos rfl]
      · intro _ ht
        cases ht
    | truncate m _ _ _ _ => exact m.keeps_of_avoids (by simp [Op.Avoids])
    | clear m _ => exact m.keeps_of_avoids (by simp [Op.Avoids])
    | append m _ _ => exact m.keeps_of_avoids (by simp [Op.Avoids])
    | checkpointTmp m _ _ _ _ => exact m.keeps_of_avoids (by simp [Op.Avoids])
    | checkpoint m _ _ _ _ => exact m.keeps_of_avoids (by simp [Op.Avoids])
    | index m _ => exact m.keeps_of_avoids (by simp [Op.Avoids])
  · intro t
    refine ⟨t, ?_⟩
    intro _ ht
    cases ht

/-- Reachable directories are sound. -/
lemma SyncReach.sound (reach : SyncReach json c s) : Sound c s := by
  induction reach with
  | fresh => exact sound_of_noArtifacts fun _ _ => rfl
  | run _ serves ih =>
    obtain ⟨hsteps, _⟩ := sync_triple serves _ ⟨fun _ => ih, rfl⟩
    exact (hsteps.mono fun _ _ h => h.keeps_sound).exec ih
  | crash _ serves cut lost ih =>
    obtain ⟨hsteps, _⟩ := sync_triple serves _ ⟨fun _ => ih, rfl⟩
    have hcut := (hsteps.mono fun _ _ h => h.keeps_sound).interrupted ih cut
    exact hcut.congr (LoseTail.eq lost (by decide)) (LoseTail.eq lost (by decide))

/-- Reachable directories are tagged. -/
lemma SyncReach.tagged (reach : SyncReach json c s) : Tagged json net s := by
  induction reach with
  | fresh => exact .inr ⟨rfl, fun _ _ => rfl⟩
  | run reach serves ih =>
    obtain ⟨hsteps, _⟩ := sync_triple serves _ ⟨fun _ => reach.sound, rfl⟩
    exact (hsteps.mono fun _ _ h => h.keeps_tagged).exec ih
  | crash reach serves cut lost ih =>
    obtain ⟨hsteps, _⟩ := sync_triple serves _ ⟨fun _ => reach.sound, rfl⟩
    rcases (hsteps.mono fun _ _ h => h.keeps_tagged).interrupted ih cut with m | ⟨hmark, hart⟩
    · exact .inl (m.congr (LoseTail.eq lost (by decide)))
    · refine .inr ⟨(LoseTail.eq lost (by decide)).trans hmark, fun n hn => ?_⟩
      rcases lost n with h | ⟨_, bs, _, h, _⟩
      · exact h.trans (hart n hn)
      · rw [hart n hn] at h
        cases h

/-- Targets stay far below the `u64` range. -/
lemma target_fits {start maxHeight tip} (h : tip ≤ c.tip) :
    resolveTarget start maxHeight tip + BATCH_SIZE < U64 := by
  have := c.tip_lt
  have := @resolveTarget_le start maxHeight tip
  simp only [BATCH_SIZE, U64]
  omega

/-- A sync call ends. -/
lemma sync_ends {lwds : List Lightwalletd} {maxHeight} (serves : ∀ l ∈ lwds, l.Serves c) :
    (sync json lwds net maxHeight).Within (fun _ => True) .diverge := by
  have hlocal : ∀ {α : Type} {x : Fs α}, Local x → x.Within (fun _ => True) .diverge :=
    fun h s => ⟨fun _ _ => trivial, (h s).2⟩
  refine .bind (.lift Ends.ensure) fun _ => .bind (hlocal ensureIronwoodDataset_local) fun _ => ?_
  refine .bind_of_ok (.lift connectClients_ends) ?_
  intro _ clients hconn
  refine .bind_of_ok (.lift Ends.index) ?_
  intro _ first hfirst
  refine .bind_of_ok (.lift Ends.ofResult) ?_
  intro _ tip htip
  have hle : tip ≤ c.tip := latestBlock_le serves hconn hfirst htip
  refine .bind (hlocal resumeHeight_local) fun start => .bind .inspect fun _ =>
    .bind (.lift (Ends.forEach fun _ _ => requireIronwoodTreeState_ends)) fun _ => ?_
  dsimp only
  split
  · exact .pure
  · have hfit := @target_fits net c start maxHeight tip hle
    refine .bind (syncLoop_ends (connectClients_ok hconn).1 hfit ?_) fun _ => .pure
    simp only [BATCH_SIZE] at hfit
    omega

/-- The requests of a completed call cover the missing blocks once each and in order. -/
lemma blockRanges_sync {lwds : List Lightwalletd} {maxHeight r}
    (serves : ∀ l ∈ lwds, l.Serves c) (sound : s .datasetMarker ≠ none → Sound c s)
    (ok : (sync json lwds net maxHeight s).2 = .ok r) :
    (blockRanges (sync json lwds net maxHeight s).1).flatMap
        (fun r => List.range' r.1 (r.2 + 1 - r.1)) =
      List.range' (committedHeight net s + 1)
        (resolveTarget (committedHeight net s) maxHeight r.chainTip - committedHeight net s) ∧
      ∀ r ∈ blockRanges (sync json lwds net maxHeight s).1, r.1 ≤ r.2 := by
  rw [sync] at ok ⊢
  obtain ⟨_, _, ok, hlog⟩ := blockRanges_bind (.lift Ends.ensure) ok
  rw [hlog]
  obtain ⟨_, hens, ok, hlog⟩ := blockRanges_bind ensureIronwoodDataset_local ok
  obtain ⟨_, hmid⟩ := ensureIronwoodDataset_triple s ⟨sound, rfl⟩
  obtain ⟨_, sound', hk⟩ := hmid _ hens
  rw [hlog]
  obtain ⟨clients, hconn, ok, hlog⟩ := blockRanges_bind (.lift connectClients_ends) ok
  rw [hlog]
  obtain ⟨first, hfirst, ok, hlog⟩ := blockRanges_bind (.lift Ends.index) ok
  rw [hlog]
  obtain ⟨tip, htip, ok, hlog⟩ := blockRanges_bind (.lift Ends.ofResult) ok
  have hle : tip ≤ c.tip := latestBlock_le serves hconn hfirst htip
  rw [hlog]
  obtain ⟨start, hstart, ok, hlog⟩ := blockRanges_bind resumeHeight_local ok
  obtain ⟨_, hmid⟩ := resumeHeight_triple _ ⟨fun _ => sound', hk⟩
  obtain ⟨rfl, _, _⟩ := hmid _ hstart
  rw [hlog]
  obtain ⟨_, _, ok, hlog⟩ := blockRanges_bind nullifierCount_local ok
  rw [hlog]
  obtain ⟨_, _, ok, hlog⟩ := blockRanges_bind
    (.lift (Ends.forEach fun _ _ => requireIronwoodTreeState_ends)) ok
  rw [hlog]
  dsimp only at ok ⊢
  split at ok
  · rename_i hge
    obtain rfl := Except.ok.inj ok
    rw [if_pos hge, Nat.sub_eq_zero_of_le hge]
    exact ⟨rfl, fun _ h => absurd h List.not_mem_nil⟩
  · rename_i hlt
    rw [if_neg hlt]
    have hfit := @target_fits net c (committedHeight net s) maxHeight tip hle
    have hwrap : wrappingAdd (committedHeight net s) 1 = committedHeight net s + 1 :=
      wrappingAdd_eq (by simp only [BATCH_SIZE] at hfit; omega)
    rw [hwrap] at ok ⊢
    obtain ⟨n, hloop, ok, hlog⟩ := Prog.bind_ok ok
    obtain rfl := Except.ok.inj ok
    rw [hlog.trans (List.append_nil _)]
    have hranges := blockRanges_syncLoop (connectClients_ok hconn).1 hfit (by omega) hloop
    rw [Nat.add_sub_add_right] at hranges
    exact hranges

end Invariant

section Reference

variable {json : Json DatasetMarker} {net : ZcashNetwork} {c : Chain net} {s : Dir}

/-- The chain's own server serves it. -/
lemma Chain.server_serves : c.server.Serves c where
  blocks := fun _ _ _ h => (Except.ok.inj h).symm
  tip := fun _ htip => (Except.ok.inj htip).ge

/-- It is all there is in its list. -/
lemma Chain.servers_serve : ∀ l ∈ [c.server], l.Serves c := by
  intro l hl
  obtain rfl := List.mem_singleton.mp hl
  exact Chain.server_serves

/-- The marker check passes under the run's own marker, and only reads. -/
lemma ensureIronwoodDataset_ok (m : Marked json net s) :
    ensureIronwoodDataset json net s = ([.read .datasetMarker], .ok ()) := by
  obtain ⟨bs, marker, hbs, hdec, rfl, hcur⟩ := m
  have hex : (s .datasetMarker).isSome = true := by rw [hbs]; rfl
  rw [ensureIronwoodDataset, exists_bind hex, if_pos rfl, readFile_bind hbs,
    Prog.lift_bind (context_eq_ok.mpr (ofResult_eq_ok.mpr hdec)), Prog.lift_bind (ensure_pos hcur),
    Prog.lift, ensure_pos (decide_eq_true rfl)]

/-- The marker check passes on a tagged directory. -/
lemma ensureIronwoodDataset_returns (t : Tagged json net s) :
    (ensureIronwoodDataset json net s).2 = .ok () := by
  rcases t with m | ⟨hmark, hart⟩
  · rw [ensureIronwoodDataset_ok m]
  · have hfind : (RAW_DATASET_ARTIFACTS.find? fun n => (s n).isSome) = none := by
      rw [List.find?_eq_none]
      intro n hn
      rw [hart n hn]
      exact Bool.false_ne_true
    rw [ensureIronwoodDataset, exists_bind (show _ = false by rw [hmark]; rfl),
      if_neg Bool.false_ne_true, Prog.inspect_bind hfind]
    rfl

/-- Truncating returns. -/
lemma truncateToCheckpoint_returns {off} : (truncateToCheckpoint off).Returns := by
  refine .bind .inspect fun b => ?_
  cases b with
  | false => exact .pure
  | true => exact .perform

/-- Resuming from sound data succeeds. -/
lemma resumeHeight_ok (t : Tagged json net s) (sound : Sound c s) :
    ∃ h, (resumeHeight json net s).2 = .ok h := by
  obtain ⟨_, hpost⟩ := ensureIronwoodDataset_triple s ⟨fun _ => sound, rfl⟩
  obtain ⟨_, sound', _⟩ := hpost () (ensureIronwoodDataset_returns t)
  rw [resumeHeight, Prog.bind_of_ok (ensureIronwoodDataset_returns t)]
  generalize (ensureIronwoodDataset json net).after s = s' at sound'
  have hload := loadCheckpoint_ok (s := s') fun cp hcp => by
    obtain ⟨_, _, _, rfl, _⟩ := sound'.checkpoint cp hcp
    exact length_encodeEntry
  dsimp only
  rw [Prog.bind_of_ok hload]
  cases hcp : s' .nullifiersCheckpoint with
  | none =>
    obtain ⟨_, htrunc⟩ := truncateToCheckpoint_returns (loadCheckpoint.after s')
    exact ⟨_, Prog.ok_bind htrunc rfl⟩
  | some cp =>
    obtain ⟨h, hact, htip, rfl, _⟩ := sound'.checkpoint cp hcp
    obtain ⟨_, htrunc⟩ := truncateToCheckpoint_returns (loadCheckpoint.after s')
    dsimp only [Option.map_some]
    rw [decodeEntry_checkpoint hact htip]
    dsimp only
    rw [if_pos hact]
    exact ⟨_, Prog.ok_bind htrunc rfl⟩

/-- The chain's own server sends the chain's nullifiers. -/
lemma fetchBlockRange_server {start stop} :
    fetchBlockRange c.server start stop =
      .ok ((List.range' start (stop + 1 - start)).flatMap c.pairs) := by
  have hblocks : ((List.range' start (stop + 1 - start)).map c.block).mapM
      extractIronwoodNullifiers = .ok ((List.range' start (stop + 1 - start)).map c.pairs) := by
    rw [List.mapM_map]
    exact mapM_eq_ok fun h _ => extractIronwoodNullifiers_block
  rw [fetchBlockRange, show c.server.getBlockRange start stop = .ok _ from rfl]
  change (((List.range' start (stop + 1 - start)).map c.block).mapM
    extractIronwoodNullifiers >>= _) = _
  rw [hblocks, List.flatMap_def]
  rfl

/-- A cycle against the chain's own server succeeds. -/
lemma syncCycle_returns {current target} (hle : current ≤ target) :
    (syncCycle [c.server] current target).Returns := by
  obtain ⟨stop, hranges⟩ : ∃ stop, buildBatchRanges current target 1 = [(current, stop)] := by
    rw [buildBatchRanges, if_neg (Nat.not_lt.mpr hle)]
    exact ⟨_, rfl⟩
  refine .bind (fun s => ⟨(), ?_⟩) fun _ => ?_
  · rw [Prog.forEach_perform]
  have hfetch : ([c.server].zip [(current, stop)]).mapM
      (fun x => fetchBlockRange x.1 x.2.1 x.2.2) =
      .ok [(List.range' current (stop + 1 - current)).flatMap c.pairs] :=
    mapM_eq_ok (g := fun _ => _) fun x hx => by
      obtain rfl := List.mem_singleton.mp hx
      exact fetchBlockRange_server
  rw [List.length_singleton, hranges]
  refine .bind_of_ok (.lift hfetch) ?_
  intro s nfs hnfs
  obtain rfl := Except.ok.inj (hnfs.symm.trans hfetch)
  refine .bind (.lift rfl) fun _ => .bind (.bind (.lift (forEach_length_ok fun x hx => ?_))
    fun _ => .bind .perform fun _ => .inspect) fun _ =>
    .bind (.bind .perform fun _ => .bind .perform fun _ => .perform) fun _ => .pure
  rw [List.flatten_singleton] at hx
  exact length_of_mem_pairs hx

/-- With enough fuel the loop returns. -/
lemma syncLoop_returns {target} (hfit : target + BATCH_SIZE < U64) {fuel current blocks total}
    (hfuel : target + 1 - current < fuel) :
    (syncLoop [c.server] target fuel current blocks total).Returns := by
  induction fuel generalizing current blocks total with
  | zero => cases hfuel
  | succ fuel ih =>
    rw [syncLoop]
    split
    · exact .pure
    · rename_i hge
      refine .bind_of_ok (syncCycle_returns (Nat.not_lt.mp hge)) ?_
      rintro s ⟨cycleEnd, cycleNfs⟩ ok
      obtain ⟨b, hle⟩ := syncCycle_batches (List.cons_ne_nil _ _) (Nat.not_lt.mp hge) hfit ok
      have hlow := b.le
      dsimp only at hle hlow ⊢
      rw [wrappingAdd_eq (show cycleEnd + 1 < U64 by simp only [BATCH_SIZE] at hfit; omega)]
      exact ih (by omega)

/-- The chain's own server has a tree state at every height. -/
lemma requireIronwoodTreeState_server {h} :
    requireIronwoodTreeState c.server net h = .ok () := by
  rw [requireIronwoodTreeState, show c.server.getTreeState h = .ok ⟨net.asStr, h, "000000"⟩ from rfl]
  change validateIronwoodTreeState _ _ _ _ = _
  rw [validateIronwoodTreeState, ensure_pos (beq_self_eq_true _), ensure_pos (beq_self_eq_true _)]
  rfl

/-- Against the chain's own server a sync completes from every sound directory. -/
lemma sync_server_ok {maxHeight} (t : Tagged json net s) (sound : Sound c s) :
    ∃ r, (sync json [c.server] net maxHeight s).2 = .ok r ∧ r.chainTip = c.tip := by
  have hens := ensureIronwoodDataset_returns t
  obtain ⟨_, hpost⟩ := ensureIronwoodDataset_triple s ⟨fun _ => sound, rfl⟩
  obtain ⟨m, sound', _⟩ := hpost () hens
  obtain ⟨start, hresume⟩ := resumeHeight_ok (.inl m) sound'
  have hstate : ∀ x ∈ [c.server],
      requireIronwoodTreeState x net (resolveTarget start maxHeight c.tip) = .ok () := by
    intro x hx
    obtain rfl := List.mem_singleton.mp hx
    exact requireIronwoodTreeState_server
  have hfit := @target_fits net c start maxHeight c.tip le_rfl
  rw [sync, Prog.lift_bind (ensure_pos (show (!([c.server] : List _).isEmpty) = true from rfl)),
    Prog.bind_of_ok hens,
    Prog.lift_bind (show connectClients [c.server] = .ok [c.server] from rfl),
    Prog.lift_bind (show index [c.server] 0 = .ok c.server from rfl),
    Prog.lift_bind (show ofResult c.server.getLatestBlock = .ok c.tip from rfl),
    Prog.bind_of_ok hresume]
  dsimp only
  rw [nullifierCount, Prog.inspect_bind rfl, Prog.lift_bind ((forEach_eq_ok (u := ())).mpr hstate)]
  by_cases hdone : resolveTarget start maxHeight c.tip ≤ start
  · rw [if_pos hdone]
    exact ⟨_, rfl, rfl⟩
  · rw [if_neg hdone]
    have hstart : start + 1 < U64 := by omega
    rw [wrappingAdd_eq hstart]
    obtain ⟨n, hloop⟩ := @syncLoop_returns net c _ hfit U64 (start + 1) 0 0 (by omega) _
    rw [Prog.bind_of_ok hloop]
    exact ⟨_, rfl, rfl⟩

/-- The reference run succeeds. -/
lemma referenceRun_ok {h} : ∃ r, (referenceRun json c h).2 = .ok r ∧ r.chainTip = c.tip :=
  sync_server_ok (.inr ⟨rfl, fun _ _ => rfl⟩) (sound_of_noArtifacts fun _ _ => rfl)

/-- What the reference run leaves. -/
lemma referenceRun_atHeight {h} (hact : nu63ActivationHeight net ≤ h) (htip : h ≤ c.tip) :
    AtHeight c h (exec (fun _ => none) (referenceRun json c h).1) := by
  have hpos := @nu63ActivationHeight_pos net
  obtain ⟨r, hok, hr⟩ := @referenceRun_ok json net c h
  obtain ⟨_, hpost⟩ := @sync_triple json net c [c.server] (some h) _ Chain.servers_serve (fun _ => none)
    ⟨fun h => absurd rfl h, rfl⟩
  obtain ⟨_, at_⟩ := hpost r hok
  rw [hr, show committedHeight net (fun _ => none) = nu63ActivationHeight net - 1 from rfl,
    resolveTarget, if_neg (by omega), Nat.min_eq_left htip, Nat.max_eq_right (by omega)] at at_
  exact at_

end Reference

section Equivalence

variable {json : Json DatasetMarker} {net : ZcashNetwork} {c : Chain net} {s : Dir}

/-- Crash-resume equivalence. From every directory that syncs and crashes can leave, `resume_height`
ends exactly at the committed height, a sync call ends, and a completed call leaves the file and the
checkpoint of the uninterrupted single-server run to the same height, after requesting the missing
blocks once each and in order. -/
theorem sync_crash_resume (reach : SyncReach json c s) :
    (∃ h, (resumeHeight json net s).2 = .ok h ∧ h = committedHeight net s ∧
      AtHeight c h ((resumeHeight json net).after s)) ∧
    ∀ (lwds : List Lightwalletd) (maxHeight : Option Nat), (∀ l ∈ lwds, l.Serves c) →
      (sync json lwds net maxHeight s).2 ≠ .error .diverge ∧
      ∀ r, (sync json lwds net maxHeight s).2 = .ok r →
        let start := committedHeight net s
        let target := resolveTarget start maxHeight r.chainTip
        let s' := (sync json lwds net maxHeight).after s
        AtHeight c (max start target) s' ∧
        (nu63ActivationHeight net ≤ max start target →
          ∃ r', (referenceRun json c (max start target)).2 = .ok r' ∧
            s' .nullifiersBin =
              exec (fun _ => none) (referenceRun json c (max start target)).1 .nullifiersBin ∧
            s' .nullifiersCheckpoint =
              exec (fun _ => none) (referenceRun json c (max start target)).1
                .nullifiersCheckpoint) ∧
        (blockRanges (sync json lwds net maxHeight s).1).flatMap
          (fun r => List.range' r.1 (r.2 + 1 - r.1)) = List.range' (start + 1) (target - start) ∧
        ∀ r ∈ blockRanges (sync json lwds net maxHeight s).1, r.1 ≤ r.2 := by
  have sound := reach.sound
  refine ⟨?_, ?_⟩
  · obtain ⟨h, ok⟩ := resumeHeight_ok reach.tagged sound
    obtain ⟨_, hpost⟩ := resumeHeight_triple s ⟨fun _ => sound, rfl⟩
    obtain ⟨heq, _, at_⟩ := hpost h ok
    exact ⟨h, ok, heq, at_⟩
  · intro lwds maxHeight serves
    refine ⟨(sync_ends serves s).2, ?_⟩
    intro r ok start target s'
    obtain ⟨_, hpost⟩ := sync_triple serves s ⟨fun _ => sound, rfl⟩
    obtain ⟨_, at_⟩ := hpost r ok
    refine ⟨at_, ?_, blockRanges_sync serves (fun _ => sound) ok⟩
    intro hact
    have htip : max start target ≤ c.tip := (at_.files hact).1
    obtain ⟨r', hok, _⟩ := @referenceRun_ok json net c (max start target)
    have href := @referenceRun_atHeight json net c _ hact htip
    obtain ⟨_, hcp, hbin⟩ := at_.files hact
    obtain ⟨_, hcp', hbin'⟩ := href.files hact
    exact ⟨r', hok, hbin.trans hbin'.symm, hcp.trans hcp'.symm⟩

/-- Two mainnet blocks with one nullifier each. -/
def sampleChain : Chain .main where
  txs := fun h => if h = 3428143 then [[5]] else if h = 3428144 then [[7]] else []
  tip := 3428144
  tip_lt := by decide
  fits := by decide

/-- The directory of a sync to the first of them. -/
def sampleDir : Dir :=
  (sync markerJson [sampleChain.server] .main (some 3428143)).after fun _ => none

/-- What the sync of the second leaves when a crash comes between its append and its checkpoint. -/
def sampleCut : Dir :=
  exec sampleDir ((sync markerJson [sampleChain.server] .main none sampleDir).1.take 6)

/-- The cut sync has stored both nullifiers and committed one; the next call completes with one
request. -/
theorem sync_crash_resume_sample :
    sampleCut .nullifiersBin = some (encodeWords [5, 7]) ∧
    committedHeight .main sampleCut = 3428143 ∧
    (resumeHeight markerJson .main sampleCut).2 = .ok 3428143 ∧
    ∃ r, (sync markerJson [sampleChain.server] .main none sampleCut).2 = .ok r ∧
      (sync markerJson [sampleChain.server] .main none).after sampleCut .nullifiersBin =
        exec (fun _ => none) (referenceRun markerJson sampleChain 3428144).1 .nullifiersBin ∧
      (blockRanges (sync markerJson [sampleChain.server] .main none sampleCut).1).flatMap
        (fun r => List.range' r.1 (r.2 + 1 - r.1)) = [3428144] := by
  have serves : ∀ l ∈ [sampleChain.server], l.Serves sampleChain := Chain.servers_serve
  have reach : SyncReach markerJson sampleChain sampleCut :=
    .crash (@SyncReach.run _ _ _ _ _ (some 3428143) .fresh serves) serves .take fun _ => .inl rfl
  have hcommitted : committedHeight .main sampleCut = 3428143 := by decide +kernel
  obtain ⟨⟨h, hresume, rfl, _⟩, hsync⟩ := sync_crash_resume reach
  obtain ⟨r, ok, htip⟩ := @sync_server_ok _ _ _ _ none reach.tagged reach.sound
  obtain ⟨_, href, hranges, _⟩ := (hsync _ none serves).2 r ok
  rw [hcommitted] at hresume href hranges
  rw [htip] at href hranges
  obtain ⟨_, _, hbin, _⟩ := href (by decide)
  exact ⟨by decide +kernel, hcommitted, hresume, r, ok, hbin, hranges⟩

end Equivalence

end NullifierPir.Ingest
