import NullifierPir.Ingest.BatchRanges

/-!
# The height index across crashes

`saveCheckpoint` commits a height by renaming the checkpoint and only then appends the record to
`nullifiers.index`. `IndexState` carries the directory with the list of all checkpoints that were
ever committed, and `IndexStep` is what can happen to it: a save that a crash may cut at any
operation, a restart, a call of `rebuildIndex`. `IndexComplete` says that the lookup over the index
answers for the committed checkpoints.

A save that is cut after the rename leaves a committed height without its record, and nothing adds
it later. `indexComplete_run_iff` shows that this is the only way to lose one: the lookup is complete
in every state of a run exactly when every save that committed ran to its end.
-/

namespace NullifierPir.Ingest
open Rust ByteString Crash NullifierPir.Types

/-- The records of a list of checkpoints. -/
def encodeIndex (es : List (Nat × Nat)) : Bytes := es.flatMap fun e => encodeEntry e.1 e.2

/-- A directory and the checkpoints that were ever committed in it, in order. -/
structure IndexState where
  dir : Dir
  committed : List (Nat × Nat)

/-- `r` is the committed checkpoint of the largest height at most `target`, if there is one. -/
structure IsFloor (committed : List (Nat × Nat)) (target : Nat) (r : Option (Nat × Nat)) :
    Prop where
  found : ∀ e, r = some e →
    e ∈ committed ∧ e.1 ≤ target ∧ ∀ e' ∈ committed, e'.1 ≤ target → e'.1 ≤ e.1
  missing : r = none → ∀ e ∈ committed, target < e.1

/-- The lookup returns every committed checkpoint at its height, and the floor of every target. -/
structure IndexComplete (s : IndexState) : Prop where
  exact : ∀ e ∈ s.committed, (offsetForHeight e.1 s.dir).2 = .ok (some e)
  floor : ∀ target, ∃ r, (offsetForHeight target s.dir).2 = .ok r ∧ IsFloor s.committed target r

/-- The state after a save that left the directory `dir'`: the checkpoint is committed once it is in
place. -/
def IndexState.saved (s : IndexState) (height offset : Nat) (dir' : Dir) : IndexState where
  dir := dir'
  committed :=
    if dir' .nullifiersCheckpoint = some (encodeEntry height offset) then
      s.committed ++ [(height, offset)]
    else s.committed

/-- A save of a greater height that completes or is cut, a restart that completes or is cut, or a
call of `rebuildIndex`. -/
inductive IndexStep (json : Json DatasetMarker) (net : ZcashNetwork) :
    IndexState → IndexState → Prop
  | save {s height offset dir'} : height < U64 → offset < U64 →
      (∀ e ∈ s.committed, e.1 < height) →
      Interrupted s.dir (saveCheckpoint height offset s.dir).1 dir' →
      IndexStep json net s (s.saved height offset dir')
  | resume {s dir'} : Interrupted s.dir (resumeHeight json net s.dir).1 dir' →
      IndexStep json net s ⟨dir', s.committed⟩
  | rebuild {s} : IndexStep json net s ⟨rebuildIndex.after s.dir, s.committed⟩

/-- The step committed nothing, or committed by a save that ran to its end: no crash fell between the
rename of the checkpoint and the last byte of the index record. -/
def WholeSave (s s' : IndexState) : Prop :=
  s'.committed = s.committed ∨
    ∃ e, s'.committed = s.committed ++ [e] ∧ s'.dir = (saveCheckpoint e.1 e.2).after s.dir

/-- The index holds one record for each committed checkpoint, in order. -/
structure Indexed (s : IndexState) : Prop where
  sorted : s.committed.Pairwise fun e e' => e.1 < e'.1
  fits : ∀ e ∈ s.committed, e.1 < U64 ∧ e.2 < U64
  checkpoint : s.dir .nullifiersCheckpoint =
    s.committed.getLast?.map fun e => encodeEntry e.1 e.2
  index : s.dir .nullifiersIndex =
    if s.committed = [] then none else some (encodeIndex s.committed)

section Lookup

variable {es : List (Nat × Nat)}

/-- A record has a fixed size. -/
lemma length_encodeIndex : (encodeIndex es).length = es.length * INDEX_ENTRY_SIZE :=
  length_flatMap_const fun _ _ => length_encodeEntry

/-- A record is read at its position. -/
lemma decodeEntry_encodeIndex (fits : ∀ e ∈ es, e.1 < U64 ∧ e.2 < U64) {i : Nat}
    (h : i < es.length) : decodeEntry (encodeIndex es) (i * INDEX_ENTRY_SIZE) = es[i] := by
  have hrec : slice (encodeIndex es) (i * INDEX_ENTRY_SIZE) INDEX_ENTRY_SIZE =
      encodeEntry es[i].1 es[i].2 := slice_flatMap (fun _ _ => length_encodeEntry) h
  have hfit := fits es[i] (List.getElem_mem h)
  have hread := decodeEntry_encodeEntry hfit.1 hfit.2
  rw [← hrec, decodeEntry, slice_slice (by decide), slice_slice (by decide)] at hread
  exact hread

/-- Sorted records split at a target. -/
lemma exists_split (sorted : es.Pairwise fun e e' => e.1 < e'.1) (target : Nat) :
    ∃ k ≤ es.length, (∀ i (h : i < es.length), i < k → es[i].1 ≤ target) ∧
      ∀ i (h : i < es.length), k ≤ i → target < es[i].1 := by
  induction es with
  | nil => exact ⟨0, le_rfl, fun i h => absurd h (Nat.not_lt_zero i),
      fun i h => absurd h (Nat.not_lt_zero i)⟩
  | cons e es ih =>
    obtain ⟨hfirst, hrest⟩ := List.pairwise_cons.mp sorted
    rcases Nat.lt_or_ge target e.1 with hlt | hle
    · refine ⟨0, Nat.zero_le _, fun i _ hi => absurd hi (Nat.not_lt_zero i), ?_⟩
      intro i h _
      cases i with
      | zero => exact hlt
      | succ i => exact hlt.trans (hfirst _ (List.getElem_mem _))
    · obtain ⟨k, hk, hbelow, habove⟩ := ih hrest
      refine ⟨k + 1, Nat.succ_le_succ hk, ?_, ?_⟩
      · intro i h hi
        cases i with
        | zero => exact hle
        | succ i => exact hbelow i (Nat.lt_of_succ_lt_succ h) (Nat.lt_of_succ_lt_succ hi)
      · intro i h hi
        cases i with
        | zero => cases hi
        | succ i => exact habove i (Nat.lt_of_succ_lt_succ h) (Nat.le_of_succ_le_succ hi)

/-- Without an index nothing is found. -/
lemma offsetForHeight_none {dir : Dir} {target : Nat} (h : dir .nullifiersIndex = none) :
    (offsetForHeight target dir).2 = .ok none := by
  rw [offsetForHeight, exists_bind (show _ = false by rw [h]; rfl)]
  rfl

/-- A file of whole records is searched, any other one is refused. -/
lemma offsetForHeight_some {dir : Dir} {target : Nat} {data : Bytes}
    (h : dir .nullifiersIndex = some data) :
    (offsetForHeight target dir).2 = (ensure (data.length % INDEX_ENTRY_SIZE == 0)
      s!"corrupt index file: size {data.length} is not a multiple of {INDEX_ENTRY_SIZE}").map
        fun _ => if floorPosition data target = 0 then none
          else some (decodeEntry data ((floorPosition data target - 1) * INDEX_ENTRY_SIZE)) := by
  rw [offsetForHeight, exists_bind (show _ = true by rw [h]; rfl), if_neg (by simp),
    readFile_bind h]
  cases data.length % INDEX_ENTRY_SIZE == 0 with
  | true => rfl
  | false => rfl

/-- Over sorted records the lookup returns the floor. -/
lemma offsetForHeight_floor {dir : Dir} (sorted : es.Pairwise fun e e' => e.1 < e'.1)
    (fits : ∀ e ∈ es, e.1 < U64 ∧ e.2 < U64)
    (hindex : dir .nullifiersIndex = some (encodeIndex es)) (target : Nat) :
    ∃ r, (offsetForHeight target dir).2 = .ok r ∧ IsFloor es target r := by
  obtain ⟨k, hk, hbelow, habove⟩ := exists_split sorted target
  have hcount : (encodeIndex es).length / INDEX_ENTRY_SIZE = es.length := by
    rw [length_encodeIndex]
    exact Nat.mul_div_cancel _ (by decide)
  have hpos : floorPosition (encodeIndex es) target = k := by
    rw [floorPosition, hcount]
    apply Search.upperBound_eq (Nat.zero_le k) hk
    · intro i _ hi
      rw [decodeEntry_encodeIndex fits (Nat.lt_of_lt_of_le hi hk)]
      exact decide_eq_true (hbelow i _ hi)
    · intro i hi hlt
      rw [decodeEntry_encodeIndex fits hlt]
      exact decide_eq_false (Nat.not_le_of_lt (habove i hlt hi))
  have hrun : (offsetForHeight target dir).2 =
      .ok (if k = 0 then none
        else some (decodeEntry (encodeIndex es) ((k - 1) * INDEX_ENTRY_SIZE))) := by
    rw [offsetForHeight_some hindex, hpos, ensure_pos (by
      rw [length_encodeIndex, Nat.mul_mod_left, beq_self_eq_true])]
    rfl
  refine ⟨_, hrun, ?_, ?_⟩
  · intro e he
    split at he
    · cases he
    · rename_i hk0
      have hlt : k - 1 < es.length := by omega
      rw [decodeEntry_encodeIndex fits hlt] at he
      cases he
      refine ⟨List.getElem_mem _, hbelow _ hlt (by omega), ?_⟩
      intro e' he' hle
      obtain ⟨j, hj, rfl⟩ := List.mem_iff_getElem.mp he'
      have hjk : j < k := by
        by_contra hge
        exact absurd hle (Nat.not_le_of_lt (habove j hj (by omega)))
      rcases Nat.lt_or_ge j (k - 1) with hlt' | hge
      · exact (List.pairwise_iff_getElem.mp sorted j (k - 1) hj hlt hlt').le
      · obtain rfl : j = k - 1 := by omega
        exact le_rfl
  · intro hr e he
    split at hr
    · rename_i hk0
      obtain ⟨j, hj, rfl⟩ := List.mem_iff_getElem.mp he
      exact habove j hj (by omega)
    · cases hr

end Lookup

section Steps

variable {s s' : IndexState} {json : Json DatasetMarker} {net : ZcashNetwork}

/-- A complete index answers for every committed checkpoint. -/
lemma Indexed.complete (h : Indexed s) : IndexComplete s := by
  have hfloor : ∀ target, ∃ r, (offsetForHeight target s.dir).2 = .ok r ∧
      IsFloor s.committed target r := by
    intro target
    have hindex := h.index
    split at hindex
    · rename_i hnil
      refine ⟨none, offsetForHeight_none hindex, ?_, ?_⟩
      · intro e he
        cases he
      · intro _ e he
        rw [hnil] at he
        cases he
    · exact offsetForHeight_floor h.sorted h.fits hindex target
  refine ⟨?_, hfloor⟩
  intro e he
  obtain ⟨r, hr, found, missing⟩ := hfloor e.1
  cases r with
  | none => exact absurd (missing rfl e he) (Nat.lt_irrefl _)
  | some e' =>
    obtain ⟨hmem, hle, hmax⟩ := found e' rfl
    rw [hr]
    -- sorted heights are distinct, so the floor at its own height is the checkpoint
    obtain ⟨i, hi, rfl⟩ := List.mem_iff_getElem.mp he
    obtain ⟨j, hj, rfl⟩ := List.mem_iff_getElem.mp hmem
    have heq : s.committed[j].1 = s.committed[i].1 := Nat.le_antisymm hle (hmax _ he le_rfl)
    rcases Nat.lt_trichotomy i j with hij | rfl | hij
    · exact absurd heq (List.pairwise_iff_getElem.mp h.sorted i j hi hj hij).ne'
    · rfl
    · exact absurd heq (List.pairwise_iff_getElem.mp h.sorted j i hj hi hij).ne

/-- A missing index counts as an empty one. -/
lemma Indexed.records (h : Indexed s) :
    (s.dir .nullifiersIndex).getD [] = encodeIndex s.committed := by
  rw [h.index]
  split
  · rename_i hnil
    rw [hnil]
    rfl
  · rfl

/-- Where a save can be cut: before the rename, with the index as it was, or with a part of the
record, or not at all. -/
lemma saveCheckpoint_cut {dir dir' : Dir} {height offset : Nat}
    (cut : Interrupted dir (saveCheckpoint height offset dir).1 dir') :
    (dir' .nullifiersCheckpoint = dir .nullifiersCheckpoint ∧
      dir' .nullifiersIndex = dir .nullifiersIndex) ∨
    (dir' .nullifiersCheckpoint = some (encodeEntry height offset) ∧
      (dir' .nullifiersIndex = dir .nullifiersIndex ∨
        ∃ p, p <+: encodeEntry height offset ∧ p ≠ encodeEntry height offset ∧
          dir' .nullifiersIndex = some ((dir .nullifiersIndex).getD [] ++ p))) ∨
    dir' = (saveCheckpoint height offset).after dir := by
  have hops : (saveCheckpoint height offset dir).1 =
      [.create .nullifiersCheckpointTmp (encodeEntry height offset),
        .rename .nullifiersCheckpointTmp .nullifiersCheckpoint,
        .append .nullifiersIndex (encodeEntry height offset)] := rfl
  have htmp : (Op.create .nullifiersCheckpointTmp (encodeEntry height offset) : FsOp).apply dir
      .nullifiersCheckpointTmp = some (encodeEntry height offset) := by simp
  rw [hops, interrupted_cons, interrupted_cons, interrupted_cons, interrupted_nil] at cut
  rcases cut with rfl | torn | rfl | torn | rfl | torn | rfl
  · exact .inl ⟨rfl, rfl⟩
  · cases torn with
    | create _ => exact .inl ⟨rfl, rfl⟩
  · exact .inl ⟨rfl, rfl⟩
  · cases torn
  · refine .inr (.inl ⟨?_, .inl ?_⟩)
    · rw [apply_rename htmp]
      rfl
    · rw [apply_rename htmp]
      rfl
  · cases torn with
    | @append _ _ p hp =>
      by_cases hwhole : p = encodeEntry height offset
      · subst hwhole
        exact .inr (.inr rfl)
      · refine .inr (.inl ⟨?_, .inr ⟨p, hp, hwhole, ?_⟩⟩)
        · rw [Function.update_of_ne (by decide), apply_rename htmp]
          rfl
        · rw [Function.update_self, apply_rename htmp]
          rfl
  · exact .inr (.inr rfl)

/-- A save to its end has written the checkpoint and appended the record. -/
lemma saveCheckpoint_after {dir : Dir} {height offset : Nat} :
    (saveCheckpoint height offset).after dir .nullifiersCheckpoint =
        some (encodeEntry height offset) ∧
      (saveCheckpoint height offset).after dir .nullifiersIndex =
        some ((dir .nullifiersIndex).getD [] ++ encodeEntry height offset) := by
  have hafter : (saveCheckpoint height offset).after dir =
      exec dir [.create .nullifiersCheckpointTmp (encodeEntry height offset),
        .rename .nullifiersCheckpointTmp .nullifiersCheckpoint,
        .append .nullifiersIndex (encodeEntry height offset)] := rfl
  have htmp : (Op.create .nullifiersCheckpointTmp (encodeEntry height offset) : FsOp).apply dir
      .nullifiersCheckpointTmp = some (encodeEntry height offset) := by simp
  rw [hafter, exec_cons, exec_cons, exec_cons, exec_nil, apply_append, apply_append,
    apply_rename htmp, apply_rename htmp]
  exact ⟨rfl, rfl⟩

/-- A save that ran to its end adds its record. -/
lemma Indexed.save (h : Indexed s) {height offset : Nat} (hh : height < U64) (ho : offset < U64)
    (above : ∀ e ∈ s.committed, e.1 < height) :
    Indexed ⟨(saveCheckpoint height offset).after s.dir, s.committed ++ [(height, offset)]⟩ := by
  constructor
  · refine List.pairwise_append.mpr ⟨h.sorted, List.pairwise_singleton _ _, ?_⟩
    intro e he e' he'
    obtain rfl := List.mem_singleton.mp he'
    exact above e he
  · intro e he
    rcases List.mem_append.mp he with he | he
    · exact h.fits e he
    · obtain rfl := List.mem_singleton.mp he
      exact ⟨hh, ho⟩
  · rw [List.getLast?_concat]
    exact (@saveCheckpoint_after s.dir height offset).1
  · rw [if_neg (by simp)]
    refine (@saveCheckpoint_after s.dir height offset).2.trans ?_
    rw [h.records, encodeIndex, encodeIndex, List.flatMap_append, List.flatMap_singleton]

/-- What does not touch the checkpoint and the index keeps the index complete. -/
lemma Indexed.congr {dir' : Dir} (h : Indexed s)
    (hcp : dir' .nullifiersCheckpoint = s.dir .nullifiersCheckpoint)
    (hindex : dir' .nullifiersIndex = s.dir .nullifiersIndex) : Indexed ⟨dir', s.committed⟩ :=
  ⟨h.sorted, h.fits, hcp.trans h.checkpoint, hindex.trans h.index⟩

/-- Resume operations leave the checkpoint and the index alone. -/
lemma ResumeOp.avoids {o : FsOp} (h : ResumeOp o) :
    o.Avoids .nullifiersCheckpoint ∧ o.Avoids .nullifiersIndex := by
  cases h with
  | read => exact ⟨trivial, trivial⟩
  | marker => simp [Op.Avoids]
  | publish => simp [Op.Avoids]
  | cut => simp [Op.Avoids]

/-- A missing index stands for no checkpoint, so the rebuild has nothing to add. -/
lemma Indexed.rebuild (h : Indexed s) : rebuildIndex.after s.dir = s.dir := by
  have hindex := h.index
  split at hindex
  · rename_i hnil
    have hcp := h.checkpoint
    rw [hnil] at hcp
    have hload : loadCheckpoint s.dir = ([], .ok none) := by
      rw [loadCheckpoint, exists_bind (show _ = false by rw [hcp]; rfl)]
      rfl
    have hok : (loadCheckpoint s.dir).2 = .ok none := by rw [hload]
    rw [Prog.after, rebuildIndex, exists_bind (show _ = false by rw [hindex]; rfl),
      if_neg Bool.false_ne_true, Prog.bind_of_ok hok, hload]
    rfl
  · rw [Prog.after, rebuildIndex, exists_bind (show _ = true by rw [hindex]; rfl)]
    rfl

/-- The checkpoint of a new height is not in place before the rename. -/
lemma Indexed.checkpoint_ne (h : Indexed s) {height offset : Nat} (hh : height < U64)
    (ho : offset < U64) (above : ∀ e ∈ s.committed, e.1 < height) :
    s.dir .nullifiersCheckpoint ≠ some (encodeEntry height offset) := by
  intro heq
  rw [h.checkpoint] at heq
  obtain ⟨e, hlast, hrec⟩ := Option.map_eq_some_iff.mp heq
  have hmem := List.mem_of_getLast? hlast
  have hfit := h.fits e hmem
  have hread := decodeEntry_encodeEntry hfit.1 hfit.2
  rw [hrec, decodeEntry_encodeEntry hh ho] at hread
  have habove := above e hmem
  rw [← congrArg Prod.fst hread] at habove
  exact Nat.lt_irrefl _ habove

/-- Without its checkpoint a save commits nothing. -/
lemma saved_of_ne {height offset : Nat} {dir' : Dir}
    (h : dir' .nullifiersCheckpoint ≠ some (encodeEntry height offset)) :
    s.saved height offset dir' = ⟨dir', s.committed⟩ := by
  rw [IndexState.saved, if_neg h]

/-- With it a save commits. -/
lemma saved_of_eq {height offset : Nat} {dir' : Dir}
    (h : dir' .nullifiersCheckpoint = some (encodeEntry height offset)) :
    s.saved height offset dir' = ⟨dir', s.committed ++ [(height, offset)]⟩ := by
  rw [IndexState.saved, if_pos h]

/-- A save to its end is a step. -/
lemma IndexStep.saveWhole {height offset : Nat} (hh : height < U64) (ho : offset < U64)
    (above : ∀ e ∈ s.committed, e.1 < height) :
    IndexStep json net s
      ⟨(saveCheckpoint height offset).after s.dir, s.committed ++ [(height, offset)]⟩ := by
  rw [← saved_of_eq (@saveCheckpoint_after s.dir height offset).1]
  exact .save hh ho above .exec

/-- Whole steps keep the index complete. -/
lemma IndexStep.indexed (step : IndexStep json net s s') (h : Indexed s) (whole : WholeSave s s') :
    Indexed s' := by
  cases step with
  | @save height offset dir' hh ho above cut =>
    rcases saveCheckpoint_cut cut with ⟨hcp, hindex⟩ | ⟨hcp, _⟩ | rfl
    · have hne := h.checkpoint_ne hh ho above
      rw [← hcp] at hne
      rw [saved_of_ne hne]
      exact h.congr hcp hindex
    · rw [saved_of_eq hcp] at whole ⊢
      rcases whole with hsame | ⟨e, happ, hdir⟩
      · exact absurd hsame (by simp)
      · obtain rfl := List.singleton_inj.mp (List.append_cancel_left happ)
        cases hdir
        exact h.save hh ho above
    · rw [saved_of_eq saveCheckpoint_after.1]
      exact h.save hh ho above
  | resume cut =>
    have hops := fun o ho => ((@resumeHeight_ops json net s.dir).1 o ho).avoids
    exact h.congr (cut.of_avoids fun o ho => (hops o ho).1)
      (cut.of_avoids fun o ho => (hops o ho).2)
  | rebuild => exact h.congr (by rw [h.rebuild]) (by rw [h.rebuild])

/-- A lookup over the records of earlier heights does not return a later one. -/
lemma Indexed.not_found (h : Indexed s) {dir' : Dir} {height offset : Nat}
    (above : ∀ e ∈ s.committed, e.1 < height)
    (hindex : dir' .nullifiersIndex = none ∨
      dir' .nullifiersIndex = some (encodeIndex s.committed)) :
    (offsetForHeight height dir').2 ≠ .ok (some (height, offset)) := by
  intro hfound
  rcases hindex with hnone | hsome
  · rw [offsetForHeight_none hnone] at hfound
    cases hfound
  · obtain ⟨r, hr, floor⟩ := offsetForHeight_floor h.sorted h.fits hsome height
    rw [hr] at hfound
    have hmem := (floor.found _ (Except.ok.inj hfound)).1
    exact Nat.lt_irrefl _ (above _ hmem)

/-- A save that is cut after the rename loses the height it committed. -/
lemma IndexStep.lost (step : IndexStep json net s s') (h : Indexed s) (cut : ¬ WholeSave s s') :
    ¬ IndexComplete s' := by
  intro complete
  cases step with
  | @save height offset dir' hh ho above hcut =>
    rcases saveCheckpoint_cut hcut with ⟨hcp, _⟩ | ⟨hcp, hindex⟩ | rfl
    · have hne := h.checkpoint_ne hh ho above
      rw [← hcp] at hne
      rw [saved_of_ne hne] at cut
      exact cut (.inl rfl)
    · rw [saved_of_eq hcp] at complete
      have hfound : (offsetForHeight height dir').2 = .ok (some (height, offset)) :=
        complete.exact (height, offset) (by simp)
      rcases hindex with hsame | ⟨p, hp, hpart, hindex⟩
      · refine h.not_found above ?_ hfound
        rw [hsame, h.index]
        split
        · exact .inl rfl
        · exact .inr rfl
      · rw [h.records] at hindex
        have hlen : p.length < INDEX_ENTRY_SIZE := by
          have hle := hp.length_le
          rw [length_encodeEntry] at hle
          refine Nat.lt_of_le_of_ne hle ?_
          intro heq
          exact hpart (hp.eq_of_length (heq.trans length_encodeEntry.symm))
        rcases Nat.eq_zero_or_pos p.length with hzero | hpos
        · obtain rfl := List.length_eq_zero_iff.mp hzero
          rw [List.append_nil] at hindex
          exact h.not_found above (.inr hindex) hfound
        · -- a torn record leaves a file of odd size, which every lookup refuses
          have hmod : (encodeIndex s.committed ++ p).length % INDEX_ENTRY_SIZE = p.length := by
            rw [List.length_append, length_encodeIndex, Nat.add_comm, Nat.add_mul_mod_self_right]
            exact Nat.mod_eq_of_lt hlen
          have hbad : ((encodeIndex s.committed ++ p).length % INDEX_ENTRY_SIZE == 0) = false := by
            rw [hmod, beq_eq_false_iff_ne]
            exact hpos.ne'
          rw [offsetForHeight_some hindex, hbad] at hfound
          cases hfound
    · rw [saved_of_eq saveCheckpoint_after.1] at cut
      exact cut (.inr ⟨(height, offset), rfl, rfl⟩)
  | resume _ => exact cut (.inl rfl)
  | rebuild => exact cut (.inl rfl)

end Steps

section Runs

variable {json : Json DatasetMarker} {net : ZcashNetwork} {start : IndexState}
  {states : List IndexState}

/-- From an indexed state, the lookup stays complete as long as every save is whole. -/
lemma indexComplete_of_indexed (h : Indexed start)
    (run : (start :: states).IsChain (IndexStep json net)) :
    (∀ s ∈ states, IndexComplete s) ↔ (start :: states).IsChain WholeSave := by
  induction states generalizing start with
  | nil => simp
  | cons s states ih =>
    obtain ⟨step, run⟩ := List.isChain_cons_cons.mp run
    rw [List.isChain_cons_cons]
    constructor
    · intro complete
      have whole : WholeSave start s := by
        by_contra hcut
        exact step.lost h hcut (complete s List.mem_cons_self)
      exact ⟨whole, (ih (step.indexed h whole) run).mp fun t ht =>
        complete t (List.mem_cons_of_mem s ht)⟩
    · rintro ⟨whole, rest⟩ t ht
      have hs := step.indexed h whole
      rcases List.mem_cons.mp ht with rfl | ht
      · exact hs.complete
      · exact (ih hs run).mpr rest t ht

/-- From a directory without checkpoints, the lookup is complete in every state of a run exactly when
no crash fell between a rename and the end of its index record. -/
theorem indexComplete_run_iff (hcp : start.dir .nullifiersCheckpoint = none)
    (hindex : start.dir .nullifiersIndex = none) (hnone : start.committed = [])
    (run : (start :: states).IsChain (IndexStep json net)) :
    (∀ s ∈ start :: states, IndexComplete s) ↔ (start :: states).IsChain WholeSave := by
  have h : Indexed start := by
    constructor
    · rw [hnone]
      exact .nil
    · rw [hnone]
      intro e he
      cases he
    · rw [hcp, hnone]
      rfl
    · rw [hindex, hnone, if_pos rfl]
  rw [← indexComplete_of_indexed h run]
  constructor
  · intro complete s hs
    exact complete s (List.mem_cons_of_mem start hs)
  · intro complete s hs
    rcases List.mem_cons.mp hs with rfl | hs
    · exact h.complete
    · exact complete s hs

end Runs

/-- A new directory. -/
def emptyState : IndexState := ⟨fun _ => none, []⟩

/-- The directory of a first save and a restart. -/
def restartedDir : Dir :=
  (resumeHeight markerJson .test).after ((saveCheckpoint 4134009 64).after fun _ => none)

/-- The directory of a second save to its end and a third one that is cut in front of its rename. -/
def abortedDir : Dir :=
  (Op.create .nullifiersCheckpointTmp (encodeEntry 4134029 192) : FsOp).apply
    ((saveCheckpoint 4134019 128).after restartedDir)

/-- Two saves with a restart in between, and a third that is cut in front of its rename: the lookup
still answers for both committed heights. -/
theorem indexComplete_run_restart :
    IndexComplete ⟨abortedDir, [(4134009, 64), (4134019, 128)]⟩ ∧
      (offsetForHeight 4134015 abortedDir).2 = .ok (some (4134009, 64)) := by
  have hcp : (saveCheckpoint 4134019 128).after restartedDir .nullifiersCheckpoint =
      some (encodeEntry 4134019 128) := saveCheckpoint_after.1
  have haborted : abortedDir .nullifiersCheckpoint ≠ some (encodeEntry 4134029 192) := by
    rw [abortedDir, apply_create, if_neg (by simp), hcp]
    decide +kernel
  have first : IndexStep markerJson .test emptyState
      ⟨(saveCheckpoint 4134009 64).after fun _ => none, [(4134009, 64)]⟩ :=
    .saveWhole (by decide) (by decide) fun e he => absurd he List.not_mem_nil
  have restart : IndexStep markerJson .test
      ⟨(saveCheckpoint 4134009 64).after fun _ => none, [(4134009, 64)]⟩
      ⟨restartedDir, [(4134009, 64)]⟩ := .resume .exec
  have second : IndexStep markerJson .test ⟨restartedDir, [(4134009, 64)]⟩
      ⟨(saveCheckpoint 4134019 128).after restartedDir, [(4134009, 64), (4134019, 128)]⟩ :=
    .saveWhole (by decide) (by decide) (by decide)
  have third : IndexStep markerJson .test
      ⟨(saveCheckpoint 4134019 128).after restartedDir, [(4134009, 64), (4134019, 128)]⟩
      ⟨abortedDir, [(4134009, 64), (4134019, 128)]⟩ := by
    have hsave := @IndexStep.save markerJson .test ⟨(saveCheckpoint 4134019 128).after restartedDir,
      [(4134009, 64), (4134019, 128)]⟩ 4134029 192 abortedDir (by decide) (by decide) (by decide)
      (.step .stop)
    rw [saved_of_ne haborted] at hsave
    exact hsave
  have run := List.isChain_cons_cons.mpr ⟨first, List.isChain_cons_cons.mpr ⟨restart,
    List.isChain_cons_cons.mpr ⟨second, List.isChain_cons_cons.mpr ⟨third, .singleton _⟩⟩⟩⟩
  have complete : IndexComplete ⟨abortedDir, [(4134009, 64), (4134019, 128)]⟩ := by
    refine (indexComplete_run_iff rfl rfl rfl run).mpr ?_ _ (by simp)
    exact List.isChain_cons_cons.mpr ⟨.inr ⟨(4134009, 64), rfl, rfl⟩,
      List.isChain_cons_cons.mpr ⟨.inl rfl, List.isChain_cons_cons.mpr
        ⟨.inr ⟨(4134019, 128), rfl, rfl⟩, List.isChain_cons_cons.mpr ⟨.inl rfl, .singleton _⟩⟩⟩⟩
  refine ⟨complete, ?_⟩
  obtain ⟨r, hr, floor⟩ := complete.floor 4134015
  cases r with
  | none => exact absurd (floor.missing rfl (4134009, 64) List.mem_cons_self) (by decide)
  | some e =>
    obtain ⟨hmem, hle, _⟩ := floor.found e rfl
    simp only [List.mem_cons, List.not_mem_nil, or_false] at hmem
    obtain rfl | rfl := hmem
    · exact hr
    · exact absurd hle (by decide)

/-- The directory of a first save that is cut right after its rename. -/
def cutDir : Dir := exec (fun _ => none)
  ([.create .nullifiersCheckpointTmp (encodeEntry 4134009 64),
    .rename .nullifiersCheckpointTmp .nullifiersCheckpoint] : List FsOp)

/-- A crash after the rename, then a save to its end: the first height stays lost. -/
theorem index_loses_cut_height :
    ∃ s s', [emptyState, s, s'].IsChain (IndexStep markerJson .test) ∧
      (4134009, 64) ∈ s'.committed ∧ (offsetForHeight 4134009 s'.dir).2 = .ok none ∧
      ¬ IndexComplete s' := by
  have hcp : cutDir .nullifiersCheckpoint = some (encodeEntry 4134009 64) := rfl
  have hindex : cutDir .nullifiersIndex = none := rfl
  have first : IndexStep markerJson .test emptyState ⟨cutDir, [(4134009, 64)]⟩ := by
    have hsave := @IndexStep.save markerJson .test emptyState 4134009 64 cutDir (by decide)
      (by decide) (fun e he => absurd he List.not_mem_nil) (.step (.step .stop))
    rw [saved_of_eq hcp] at hsave
    exact hsave
  have second : IndexStep markerJson .test ⟨cutDir, [(4134009, 64)]⟩
      ⟨(saveCheckpoint 4134019 128).after cutDir, [(4134009, 64), (4134019, 128)]⟩ :=
    .saveWhole (by decide) (by decide) (by decide)
  have hrecords : (saveCheckpoint 4134019 128).after cutDir .nullifiersIndex =
      some (encodeIndex [(4134019, 128)]) := by
    refine (@saveCheckpoint_after cutDir 4134019 128).2.trans ?_
    rw [hindex]
    rfl
  have hlost : (offsetForHeight 4134009 ((saveCheckpoint 4134019 128).after cutDir)).2 =
      .ok none := by
    obtain ⟨r, hr, floor⟩ := offsetForHeight_floor (List.pairwise_singleton _ _) (by decide)
      hrecords 4134009
    cases r with
    | none => exact hr
    | some e =>
      obtain ⟨hmem, hle, _⟩ := floor.found e rfl
      obtain rfl := List.mem_singleton.mp hmem
      exact absurd hle (by decide)
  refine ⟨_, _, List.isChain_cons_cons.mpr ⟨first, List.isChain_cons_cons.mpr ⟨second, .singleton _⟩⟩,
    List.mem_cons_self, hlost, ?_⟩
  intro complete
  have hfound := complete.exact (4134009, 64) List.mem_cons_self
  rw [hlost] at hfound
  cases hfound

end NullifierPir.Ingest
