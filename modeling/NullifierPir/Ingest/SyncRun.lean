import NullifierPir.Ingest.SyncOps

/-!
# Sync, along the program

The triples of `resume_height` and `sync` over `SyncOp`, against honest servers. `resumeHeight_triple`
ends exactly at the committed height, a cycle moves from one height to a later one
(`syncCycle_triple`), and `sync_triple` concludes for the whole call. That a call ends (`sync_ends`), and
that the requests of a completed one cover the missing blocks once each and in order
(`blockRanges_sync`), is proved further on.
-/

namespace NullifierPir.Ingest
open Rust ByteString Crash NullifierPir.Types

section Triples

variable {json : Json DatasetMarker} {net : ZcashNetwork} {c : Chain net}

/-- Testing for a file tells whether it is there. -/
lemma exists_triple {J : Dir → FsOp → Prop} {pre : Dir → Prop} {n} :
    Triple J pre (Fs.exists_ n) fun b s => pre s ∧ b = (s n).isSome :=
  Triple.inspect_eq

/-- Sync operations are steps of a sync. -/
lemma Triple.syncStep {α : Type} {pre : Dir → Prop} {x : Fs α} {post : α → Dir → Prop}
    (h : Triple (SyncOp json c) pre x post) : Triple (SyncStep json c) pre x post :=
  h.mono fun _ _ => .inl

/-- Reading a file returns its content. -/
lemma readFile_triple {J : Dir → FsOp → Prop} {pre : Dir → Prop} {n}
    (hJ : ∀ s, pre s → J s (.read n)) :
    Triple J pre (Fs.readFile n) fun bs s => pre s ∧ s n = some bs := by
  refine Triple.seq (fun r s => pre s ∧ r = s n)
    (Triple.read fun s hs => ⟨hJ s hs, hs, rfl⟩) ?_
  intro r
  cases r with
  | none => exact Triple.lift fun _ _ h => nomatch h
  | some bs => exact Triple.pure fun s hs => ⟨hs.1, hs.2.symm⟩

/-- A dataset that passes the check carries the run's marker and sound data. -/
lemma ensureIronwoodDataset_triple {k} :
    Triple (SyncOp json c)
      (fun s => (s .datasetMarker ≠ none → Sound c s) ∧ committedHeight net s = k)
      (ensureIronwoodDataset json net)
      fun _ s => Marked json net s ∧ Sound c s ∧ committedHeight net s = k := by
  refine Triple.bind exists_triple ?_
  intro b
  cases b with
  | true =>
    refine Triple.seq (fun bs s => ((s .datasetMarker ≠ none → Sound c s) ∧
        committedHeight net s = k) ∧ s .datasetMarker = some bs)
      ((readFile_triple fun s hs => .read hs.2.symm).conseq (fun _ hs => hs)
        fun _ _ hs => ⟨hs.1.1, hs.2⟩) ?_
    intro bs
    refine Triple.bind Triple.lift_ok ?_
    intro m
    refine Triple.bind Triple.lift_ok ?_
    intro _
    refine Triple.lift fun _ s hnet hs => ?_
    obtain ⟨⟨⟨⟨hsound, hk⟩, hbs⟩, hdec⟩, hcur⟩ := hs
    refine ⟨⟨bs, m, hbs, ?_, ?_, ensure_eq_ok.mp hcur⟩, ?_, hk⟩
    · exact ofResult_eq_ok.mp (context_eq_ok.mp hdec)
    · exact of_decide_eq_true (ensure_eq_ok.mp hnet)
    · exact hsound (by rw [hbs]; exact Option.some_ne_none _)
  | false =>
    refine Triple.seq (fun r s => committedHeight net s = k ∧ s .datasetMarker = none ∧
        (r = none → NoArtifacts s)) (Triple.inspect fun s hs => ⟨hs.1.2, ?_, ?_⟩) ?_
    · exact eq_none_of_isSome hs.2
    · intro hnone n hn
      have := List.find?_eq_none.mp hnone n hn
      exact Option.not_isSome_iff_eq_none.mp this
    · intro r
      cases r with
      | some n => exact Triple.lift fun _ _ h => nomatch h
      | none =>
        refine Triple.seq (fun _ s => committedHeight net s = k ∧ s .datasetMarker = none ∧
            NoArtifacts s ∧
            s .datasetMarkerTmp = some (json.encode (currentMarker net) ++ [10]))
          (Triple.perform fun s hs => ?_) fun _ => Triple.perform fun s hs => ?_
        · obtain ⟨hk, hmark, hart⟩ := hs
          have hart := hart rfl
          refine ⟨.markerTmp hmark hart, ?_, ?_, ?_, ?_⟩
          · rw [← hk, committedHeight, committedHeight, apply_create, if_neg (by simp)]
          · rw [apply_create, if_neg (by simp), hmark]
          · intro n hn
            rw [apply_create, if_neg, hart n hn]
            rintro rfl
            simp [RAW_DATASET_ARTIFACTS] at hn
          · rw [apply_create, if_pos rfl]
        · obtain ⟨hk, hmark, hart, htmp⟩ := hs
          refine ⟨.marker hmark hart htmp, ⟨_, currentMarker net, ?_, json.decode_line _, rfl,
            isCurrentDataset_current⟩, ?_, ?_⟩
          · rw [apply_rename htmp, if_neg (by simp), if_pos rfl]
          · apply sound_of_noArtifacts
            intro n hn
            rw [apply_rename htmp, if_neg, if_neg, hart n hn]
            · rintro rfl
              simp [RAW_DATASET_ARTIFACTS] at hn
            · rintro rfl
              simp [RAW_DATASET_ARTIFACTS] at hn
          · rw [← hk, committedHeight, committedHeight, apply_rename htmp, if_neg (by simp),
              if_neg (by simp)]

/-- Loading the checkpoint reads its record. -/
lemma loadCheckpoint_triple {J : Dir → FsOp → Prop} {pre : Dir → Prop}
    (hJ : ∀ s, pre s → J s (.read .nullifiersCheckpoint)) :
    Triple J pre loadCheckpoint fun r s => pre s ∧
      r = (s .nullifiersCheckpoint).map fun cp => decodeEntry cp 0 := by
  refine Triple.bind exists_triple ?_
  intro b
  cases b with
  | false =>
    refine Triple.pure fun s hs => ⟨hs.1, ?_⟩
    rw [eq_none_of_isSome hs.2]
    rfl
  | true =>
    refine Triple.bind (readFile_triple fun s hs => hJ s hs.1) ?_
    intro data
    refine Triple.bind Triple.lift_ok ?_
    intro _
    refine Triple.pure fun s hs => ⟨hs.1.1.1, ?_⟩
    rw [hs.1.2]
    rfl

/-- `resume_height` ends exactly at the committed height. -/
lemma resumeHeight_triple {k} :
    Triple (SyncOp json c)
      (fun s => (s .datasetMarker ≠ none → Sound c s) ∧ committedHeight net s = k)
      (resumeHeight json net)
      fun h s => h = k ∧ Marked json net s ∧ AtHeight c h s := by
  refine Triple.bind ensureIronwoodDataset_triple ?_
  intro _
  refine Triple.bind (loadCheckpoint_triple fun s hs => .read hs.1.isSome) ?_
  intro r
  cases r with
  | none =>
    have hcp : ∀ s : Dir, none = (s .nullifiersCheckpoint).map (fun cp => decodeEntry cp 0) →
        s .nullifiersCheckpoint = none := fun s h => Option.map_eq_none_iff.mp h.symm
    refine Triple.seq (fun _ s => k = nu63ActivationHeight net - 1 ∧ Marked json net s ∧
        AtHeight c (nu63ActivationHeight net - 1) s) ?_ ?_
    · refine Triple.bind exists_triple ?_
      intro b
      cases b with
      | false =>
        refine Triple.pure fun s hs => ?_
        obtain ⟨⟨⟨hmark, _, hk⟩, hnone⟩, hex⟩ := hs
        have hbin := eq_none_of_isSome hex
        refine ⟨?_, hmark, .inl ⟨?_, hcp s hnone, ?_⟩⟩
        · rw [← hk, committedHeight, hcp s hnone]
        · have := @nu63ActivationHeight_pos net
          omega
        · rw [hbin]
          rfl
      | true =>
        refine Triple.perform fun s hs => ?_
        obtain ⟨⟨⟨hmark, _, hk⟩, hnone⟩, _⟩ := hs
        refine ⟨.clear hmark (hcp s hnone), ?_, hmark.congr ?_, atHeight_clear (hcp s hnone)⟩
        · rw [← hk, committedHeight, hcp s hnone]
        · rw [apply_setLen, if_neg (by simp)]
    · intro _
      exact Triple.pure fun s hs => ⟨hs.1.symm, hs.2⟩
  | some hoff =>
    obtain ⟨h, offset⟩ := hoff
    dsimp only
    split
    · rename_i hact
      -- the record read is the one the sound data was committed with
      have hrec : ∀ s : Dir, Sound c s → committedHeight net s = k →
          some (h, offset) = (s .nullifiersCheckpoint).map (fun cp => decodeEntry cp 0) →
          h = k ∧ h ≤ c.tip ∧ offset = (c.bytesUpTo h).length ∧
          s .nullifiersCheckpoint = some (encodeEntry h (c.bytesUpTo h).length) := by
        intro s sound hk hread
        obtain ⟨cp, hcp, hdec⟩ := Option.map_eq_some_iff.mp hread.symm
        obtain ⟨h', hact', htip', rfl, _⟩ := sound.checkpoint cp hcp
        simp only [committedHeight, hcp, decodeEntry_checkpoint hact' htip'] at hk
        rw [decodeEntry_checkpoint hact' htip'] at hdec
        cases hdec
        exact ⟨hk, htip', rfl, hcp⟩
      refine Triple.seq (fun _ s => h = k ∧ Marked json net s ∧ AtHeight c h s) ?_ ?_
      · refine Triple.bind exists_triple ?_
        intro b
        cases b with
        | false =>
          refine Triple.pure fun s hs => ?_
          obtain ⟨⟨⟨hmark, sound, hk⟩, hread⟩, hex⟩ := hs
          obtain ⟨_, htip, _, hcp⟩ := hrec s sound hk hread
          obtain ⟨b, hb, _⟩ := sound.covers hact htip hcp
          rw [hb] at hex
          cases hex
        | true =>
          refine Triple.perform fun s hs => ?_
          obtain ⟨⟨⟨hmark, sound, hk⟩, hread⟩, _⟩ := hs
          obtain ⟨heq, htip, rfl, hcp⟩ := hrec s sound hk hread
          refine ⟨.truncate hmark sound hact htip hcp, heq, hmark.congr ?_,
            sound.atHeight_truncate hact htip hcp⟩
          rw [apply_setLen, if_neg (by simp)]
      · intro _
        exact Triple.pure fun s hs => hs
    · refine Triple.lift ?_
      intro _ _ h
      cases h

/-- Blobs of the chain pass the length check. -/
lemma forEach_length_ok {nfs : List (Nat × Bytes)} (h : ∀ x ∈ nfs, x.2.length = 32) :
    (forEach nfs.zipIdx fun ((_, nf), index) =>
      ensure (nf.length == NULLIFIER_SIZE)
        s!"nullifier at index {index} has {nf.length} bytes; expected {NULLIFIER_SIZE}") =
      .ok () := by
  rw [forEach_eq_ok]
  rintro ⟨⟨a, nf⟩, i⟩ hmem
  have hlen := h (a, nf) (List.fst_mem_of_mem_zipIdx hmem)
  exact ensure_pos (beq_iff_eq.mpr hlen)

/-- The chain's nullifiers have 32 bytes. -/
lemma length_of_mem_pairs {hs : List Nat} {x} (h : x ∈ hs.flatMap c.pairs) : x.2.length = 32 := by
  obtain ⟨k, _, hx⟩ := List.mem_flatMap.mp h
  obtain ⟨y, _, rfl⟩ := List.mem_map.mp hx
  exact Fp.length_toRepr

/-- The data of height `h` is stored, whatever is committed. -/
def Stored (json : Json DatasetMarker) (c : Chain net) (h : Nat) (s : Dir) : Prop :=
  Marked json net s ∧ Sound c s ∧ nu63ActivationHeight net ≤ h ∧
    s .nullifiersBin = some (c.bytesUpTo h)

/-- Appending the next `n` blocks stores their last height. -/
lemma appendNullifiers_triple {h n} {nfs : List (Nat × Bytes)} (hn : 1 ≤ n) (htip : h + n ≤ c.tip)
    (hnfs : nfs = (List.range' (h + 1) n).flatMap c.pairs) :
    Triple (SyncOp json c) (fun s => Marked json net s ∧ AtHeight c h s) (appendNullifiers nfs)
      fun offset s => Stored json c (h + n) s ∧ offset = (c.bytesUpTo (h + n)).length := by
  have hbytes : (nfs.flatMap fun x => x.2) = encodeWords (c.between (h + 1) n) := by
    rw [hnfs, flatMap_pairs]
    rfl
  refine Triple.bind Triple.lift_ok ?_
  intro _
  refine Triple.seq (fun _ s => Stored json c (h + n) s)
    (Triple.perform fun s hs => ?_) fun _ => Triple.inspect fun s hs => ⟨hs, ?_⟩
  · obtain ⟨⟨hmark, at_⟩, _⟩ := hs
    refine ⟨hbytes ▸ .append hmark at_ htip, hmark.congr (by simp), ?_, ?_, ?_⟩
    · exact at_.sound_append htip (List.prefix_refl _) (by rw [hbytes]; simp) (by simp)
    · have := at_.low
      omega
    · rw [apply_append, if_pos rfl, at_.bin, hbytes, Chain.bytesUpTo_append at_.low]
  · rw [hs.2.2.2]
    rfl

/-- Saving the checkpoint commits the stored height. -/
lemma saveCheckpoint_triple {h} (htip : h ≤ c.tip) :
    Triple (SyncOp json c) (Stored json c h) (saveCheckpoint h (c.bytesUpTo h).length)
      fun _ s => Marked json net s ∧ AtHeight c h s := by
  refine Triple.seq (fun _ s => Stored json c h s ∧
      s .nullifiersCheckpointTmp = some (encodeEntry h (c.bytesUpTo h).length))
    (Triple.perform fun s hs => ?_) fun _ =>
    Triple.seq (fun _ s => Marked json net s ∧ AtHeight c h s)
      (Triple.perform fun s hs => ?_) fun _ => Triple.perform fun s hs => ?_
  · obtain ⟨hmark, sound, hact, hbin⟩ := hs
    refine ⟨.checkpointTmp hmark hact htip hbin sound, ⟨hmark.congr (by simp), ?_, hact, ?_⟩, ?_⟩
    · exact sound.congr (by simp) (by simp)
    · rw [apply_create, if_neg (by simp), hbin]
    · rw [apply_create, if_pos rfl]
  · obtain ⟨⟨hmark, _, hact, hbin⟩, htmp⟩ := hs
    refine ⟨.checkpoint hmark hact htip hbin htmp, hmark.congr ?_,
      atHeight_commit hact htip hbin htmp⟩
    rw [apply_rename htmp, if_neg (by simp), if_neg (by simp)]
  · obtain ⟨hmark, at_⟩ := hs
    exact ⟨.index hmark at_, hmark.congr (by simp), at_.congr (by simp) (by simp)⟩

/-- The batches of all clients, put together in order. -/
lemma fetchAll_ok {clients : List Lightwalletd} {ranges : List (Nat × Nat)} {nfs}
    (serves : ∀ l ∈ clients, l.Serves c) (hlen : ranges.length ≤ clients.length)
    (ok : (clients.zip ranges).mapM (fun x => fetchBlockRange x.1 x.2.1 x.2.2) = .ok nfs) :
    nfs.flatten = (ranges.flatMap fun r => List.range' r.1 (r.2 + 1 - r.1)).flatMap c.pairs := by
  induction clients generalizing ranges nfs with
  | nil =>
    obtain rfl := List.length_eq_zero_iff.mp (Nat.le_zero.mp hlen)
    cases ok
    rfl
  | cons l clients ih =>
    cases ranges with
    | nil =>
      cases ok
      rfl
    | cons r ranges =>
      rw [List.zip_cons_cons, List.mapM_cons] at ok
      obtain ⟨batch, hbatch, ok⟩ := bind_eq_ok.mp ok
      obtain ⟨rest, hrest, ok⟩ := bind_eq_ok.mp ok
      cases ok
      have htail := ih (fun l hl => serves l (List.mem_cons_of_mem _ hl))
        (Nat.le_of_succ_le_succ hlen) hrest
      rw [List.flatten_cons, htail, fetchBlockRange_ok (serves l List.mem_cons_self) hbatch,
        List.flatMap_cons, List.flatMap_append]

/-- One cycle moves from a height to a later one, within the target. -/
lemma syncCycle_triple {clients : List Lightwalletd} {h target}
    (serves : ∀ l ∈ clients, l.Serves c) (hne : clients ≠ []) (hle : h + 1 ≤ target)
    (htip : target ≤ c.tip) :
    Triple (SyncStep json c) (fun s => Marked json net s ∧ AtHeight c h s)
      (syncCycle clients (h + 1) target)
      fun r s => (Marked json net s ∧ AtHeight c r.1 s) ∧ h + 1 ≤ r.1 ∧ r.1 ≤ target := by
  have hfit : target + BATCH_SIZE < U64 := by
    have := c.tip_lt
    simp only [BATCH_SIZE, U64]
    omega
  obtain ⟨stop, hstop, b⟩ := buildBatchRanges_spec (List.length_pos_iff.mpr hne) hle hfit
  obtain ⟨n, rfl⟩ := Nat.exists_eq_add_of_le (Nat.le_of_succ_le b.le)
  have hn : 1 ≤ n := by
    have := b.le
    omega
  refine Triple.bind (Triple.forEach fun a _ => Triple.perform fun s hs =>
    ⟨.inr ⟨_, _, _, rfl⟩, hs⟩) ?_
  intro _
  refine Triple.bind Triple.lift_ok ?_
  intro nfs
  refine Triple.seq (fun cycleEnd s => (Marked json net s ∧ AtHeight c h s) ∧
      nfs.flatten = (List.range' (h + 1) n).flatMap c.pairs ∧ cycleEnd = h + n)
    (Triple.lift fun cycleEnd s hend hs => ⟨hs.1, ?_, ?_⟩) ?_
  · rw [fetchAll_ok serves buildBatchRanges_length hs.2, b.covers,
      show h + n + 1 - (h + 1) = n by omega]
  · have hlast := b.last
    cases hl : (buildBatchRanges (h + 1) target clients.length).getLast? with
    | none =>
      rw [hl] at hlast
      cases hlast
    | some r =>
      rw [hl] at hlast hend
      cases hend
      exact Option.some.inj hlast
  · intro cycleEnd
    refine Triple.assume (fun s hs => hs.2) ?_
    rintro ⟨hnfs, rfl⟩
    refine Triple.bind ((Triple.syncStep
      (appendNullifiers_triple hn (hstop.trans htip) hnfs)).conseq (fun _ hs => hs.1)
      fun _ _ hs => hs) ?_
    intro offset
    refine Triple.assume (fun s hs => hs.2) ?_
    rintro rfl
    refine Triple.bind ((Triple.syncStep (saveCheckpoint_triple (hstop.trans htip))).conseq
      (fun _ hs => hs.1) fun _ _ hs => hs) ?_
    intro _
    exact Triple.pure fun s hs => ⟨hs, b.le, hstop⟩

/-- The loop runs to the target. -/
lemma syncLoop_triple {clients : List Lightwalletd} {target fuel h blocks total}
    (serves : ∀ l ∈ clients, l.Serves c) (hne : clients ≠ []) (hle : h ≤ target)
    (htip : target ≤ c.tip) :
    Triple (SyncStep json c) (fun s => Marked json net s ∧ AtHeight c h s)
      (syncLoop clients target fuel (h + 1) blocks total)
      fun _ s => Marked json net s ∧ AtHeight c target s := by
  induction fuel generalizing h blocks total with
  | zero => exact Triple.lift fun _ _ h => nomatch h
  | succ fuel ih =>
    rw [syncLoop]
    split
    · rename_i hlt
      obtain rfl : h = target := by omega
      exact Triple.pure fun s hs => hs
    · rename_i hge
      refine Triple.bind (syncCycle_triple serves hne (by omega) htip) ?_
      rintro ⟨cycleEnd, cycleNfs⟩ s ⟨hs, hlow, hhigh⟩
      have hwrap : wrappingAdd cycleEnd 1 = cycleEnd + 1 := wrappingAdd_eq (by
        have := c.tip_lt
        simp only [U64]
        omega)
      dsimp only
      rw [hwrap]
      exact ih hhigh s hs

/-- The target is at most the tip. -/
lemma resolveTarget_le {start maxHeight tip} : resolveTarget start maxHeight tip ≤ tip := by
  cases maxHeight with
  | none => exact le_rfl
  | some h =>
    simp only [resolveTarget]
    split
    · exact Nat.min_le_right _ _
    · exact Nat.min_le_right _ _

/-- `sync` ends at the target, or stays at the committed height when that is not below it. -/
lemma sync_triple {lwds : List Lightwalletd} {maxHeight k}
    (serves : ∀ l ∈ lwds, l.Serves c) :
    Triple (SyncStep json c)
      (fun s => (s .datasetMarker ≠ none → Sound c s) ∧ committedHeight net s = k)
      (sync json lwds net maxHeight)
      fun r s => Marked json net s ∧ AtHeight c (max k (resolveTarget k maxHeight r.chainTip)) s := by
  refine Triple.bind Triple.lift_ok ?_
  intro _
  refine Triple.seq (fun _ s => Marked json net s ∧ Sound c s ∧ committedHeight net s = k)
    ((Triple.syncStep ensureIronwoodDataset_triple).conseq (fun _ hs => hs.1) fun _ _ hs => hs) ?_
  intro _
  refine Triple.bind Triple.lift_ok ?_
  intro clients
  refine Triple.bind Triple.lift_ok ?_
  intro first
  refine Triple.bind Triple.lift_ok ?_
  intro chainTip
  refine Triple.assume (fun s hs => And.intro hs.1.1.2 (And.intro hs.1.2 hs.2)) ?_
  rintro ⟨hconn, hfirst, htip⟩
  obtain ⟨hne, hsub⟩ := connectClients_ok hconn
  have hclients : ∀ l ∈ clients, l.Serves c := fun l hl => serves l (hsub l hl)
  have htip : chainTip ≤ c.tip := latestBlock_le serves hconn hfirst htip
  refine Triple.bind ((Triple.syncStep (resumeHeight_triple (k := k))).conseq
    (fun s hs => ⟨fun _ => hs.1.1.1.2.1, hs.1.1.1.2.2⟩) fun _ _ hs => hs) ?_
  · intro start
    refine Triple.assume (fun s hs => hs.1) ?_
    rintro rfl
    refine Triple.bind Triple.inspect_eq ?_
    intro _
    refine Triple.bind Triple.lift_ok ?_
    intro _
    dsimp only
    split
    · rename_i hge
      refine Triple.pure fun s hs => ?_
      rw [Nat.max_eq_left hge]
      exact hs.1.1.2
    · rename_i hlt
      have htarget : resolveTarget start maxHeight chainTip ≤ c.tip := resolveTarget_le.trans htip
      have hwrap : wrappingAdd start 1 = start + 1 := wrappingAdd_eq (by
        have := c.tip_lt
        simp only [U64]
        omega)
      rw [hwrap]
      refine Triple.bind ((syncLoop_triple hclients hne (by omega) htarget).conseq
        (fun _ hs => hs.1.1.2) fun _ _ hs => hs) ?_
      intro r
      refine Triple.pure fun s hs => ?_
      dsimp only
      rw [Nat.max_eq_right (by omega)]
      exact hs

end Triples

end NullifierPir.Ingest
