import NullifierPir.Updater.Install
import NullifierPir.Updater.Staging

/-!
# Recovery of an interrupted enrollment

Two journals overlap while `install` enrolls a host. Wherever it is stopped, the host is untouched, or
`enrollment.json` describes a serving path that has not changed, or it says that activation has begun and
holds what is needed to undo it (`Enrolling`). `recover_enrollment` keeps this at every step and ends with
the original executable, unit and drop-in and none of the updater's files.

The environment file is the exception: `set_release` rewrites it inside the activation, the rollback of
the activation restores it, and `recover_enrollment`, which drops `transaction.json` without replaying
it, does not. `pendingRelease` reads off a run whether it was stopped in between.
-/

namespace NullifierPir.Updater
open ByteString Killable
open Killable.Proc (act step look ask raise handle forEach poll)

variable {m : Machine} {s₀ s t : Host}

/-- The drop-in is the one of `s₀`, or the pin of the captured data directory. -/
def DropinKept (s₀ s : Host) : Prop :=
  s.dropin = s₀.dropin ∨ ∃ l help text, .captured l ∈ s.log ∧
    legacyDropinText help l.dataDir = .ok text ∧ s.dropin = some text

/-- The executable, the unit and the drop-in are those of `s₀`, the drop-in up to the pin. -/
structure Serving (s₀ s : Host) : Prop where
  binary : s.binary = s₀.binary
  service : s.service = s₀.service
  dropin : DropinKept s₀ s

/-- None of the updater's files is there. -/
structure Clean (s : Host) : Prop where
  enrollment : s.enrollment = none
  settings : s.settings = none
  transaction : s.transaction = none
  updaterService : s.updaterService = none
  updaterTimer : s.updaterTimer = none

/-- The journal has what undoes an activation, and its backup is of the original executable. -/
structure Backup (m : Machine) (s₀ : Host) (j : Enrollment) (s : Host) : Prop where
  path : j.binaryBackup = initial ++ ["nf-server"]
  binary : ∃ bytes, s₀.binary = some (.file bytes) ∧ ∀ b, s.nfServer m initial = some b → b = bytes
  unit : ∃ unit, s₀.service = some unit ∧ j.previousUnit = some unit
  target : ∃ l, j.previousTarget = some (.legacy l) ∧ .captured l ∈ s.log

/-- Where an enrollment from `s₀` can stand. -/
inductive Enrolling (m : Machine) (s₀ s : Host) : Prop
  | out : Clean s → Serving s₀ s → Enrolling m s₀ s
  | staging {j} : s.enrollment = some j → j.activationStarted = some false → Backup m s₀ j s →
      Serving s₀ s → Enrolling m s₀ s
  | swapping {j} : s.enrollment = some j → j.activationStarted = some true → Backup m s₀ j s →
      Enrolling m s₀ s
  | finished {path} : s.enrollment = none → .enrolled ∈ s.log → .committed path ∈ s.log →
      Enrolling m s₀ s

/-- The recovery settings stay while their file does and the log grows. -/
lemma DropinKept.mono (h : DropinKept s₀ s) (hdropin : t.dropin = s.dropin) (hlog : s.log ⊆ t.log) :
    DropinKept s₀ t := by
  rcases h with h | ⟨l, help, text, hl, htext, h⟩
  · exact .inl (hdropin.trans h)
  · exact .inr ⟨l, help, text, hlog hl, htext, hdropin.trans h⟩

/-- The server stays in service while its files do and the log grows. -/
lemma Serving.mono (h : Serving s₀ s) (hbinary : t.binary = s.binary) (hservice : t.service = s.service)
    (hdropin : t.dropin = s.dropin) (hlog : s.log ⊆ t.log) : Serving s₀ t :=
  ⟨hbinary.trans h.binary, hservice.trans h.service, h.dropin.mono hdropin hlog⟩

/-- A backup may lose files, but does not change. -/
lemma Backup.mono {j} (h : Backup m s₀ j s)
    (hfile : ∀ b, t.nfServer m initial = some b → s.nfServer m initial = some b)
    (hlog : s.log ⊆ t.log) : Backup m s₀ j t := by
  obtain ⟨bytes, hbytes, hsame⟩ := h.binary
  obtain ⟨l, hl, hcaptured⟩ := h.target
  exact ⟨h.path, ⟨bytes, hbytes, fun b hb => hsame b (hfile b hb)⟩, h.unit, l, hl, hlog hcaptured⟩

/-- A quiet stretch only adds events. -/
lemma Quiet.subset (q : Quiet s t) : s.log ⊆ t.log := by
  obtain ⟨new, hnew, _⟩ := q.log
  rw [hnew]
  exact List.subset_append_left _ _

/-- A quiet stretch leaves the executables alone. -/
lemma Quiet.nfServer (q : Quiet s t) {p} : t.nfServer m p = s.nfServer m p := by
  rw [Host.nfServer, Host.nfServer, q.dir]

/-- Serving is unmoved. -/
lemma Serving.unmoved : Unmoved (Serving s₀) := fun _ _ h q =>
  h.mono (congrArg Host.binary q.files :) q.service q.dropin q.subset

/-- A backup is unmoved. -/
lemma Backup.unmoved {j} : Unmoved (Backup m s₀ j) := fun _ _ h q =>
  h.mono (fun _ hb => q.nfServer ▸ hb) q.subset

section Recovery

variable {j : Enrollment}

/-- The journal of an activation that has begun. -/
structure Swapping (m : Machine) (s₀ : Host) (j : Enrollment) (s : Host) : Prop where
  enrollment : s.enrollment = some j
  backup : Backup m s₀ j s

/-- A swap stays one while the backup's executable does and the log grows. -/
lemma Swapping.mono (h : Swapping m s₀ j s) (henrollment : t.enrollment = s.enrollment)
    (hfile : ∀ b, t.nfServer m initial = some b → s.nfServer m initial = some b)
    (hlog : s.log ⊆ t.log) : Swapping m s₀ j t :=
  ⟨henrollment.trans h.enrollment, h.backup.mono hfile hlog⟩

/-- Events do not matter to a swap. -/
lemma Swapping.emit {e} (h : Swapping m s₀ j s) : Swapping m s₀ j (s.emit e) :=
  h.mono rfl (fun _ hb => hb) (List.subset_append_left _ _)

/-- A swap is unmoved. -/
lemma Swapping.unmoved : Unmoved (Swapping m s₀ j) := fun _ _ h q =>
  h.mono q.enrollment (fun _ hb => q.nfServer ▸ hb) q.subset

/-- The executable and the unit are put back. -/
lemma restoreServer_triple : Triple (Swapping m s₀ j) (Swapping m s₀ j) (restoreServer m j) fun _ s =>
    Swapping m s₀ j s ∧ s.binary = s₀.binary ∧ s.service = s₀.service := by
  refine Triple.keep (systemctl_keeps Swapping.unmoved) (fun _ h => h) fun _ => ?_
  refine Triple.bind (Triple.look fun _ h => h) fun o => ?_
  refine Triple.bind (expect_triple fun _ h => h.1) fun backup => ?_
  refine Triple.seq (fun _ s => Swapping m s₀ j s ∧ s.binary = s₀.binary) (Triple.step ?_) fun _ => ?_
  · intro s hs
    obtain ⟨⟨h, ho⟩, hbackup⟩ := hs
    obtain ⟨bytes, hbytes, hsame⟩ := h.backup.binary
    rw [h.backup.path, List.dropLast_concat] at ho
    have hkept : Swapping m s₀ j { s with binary := some (.file backup) } :=
      h.mono rfl (fun _ hb => hb) fun _ he => he
    obtain rfl := hsame backup (ho.symm.trans hbackup)
    exact ⟨h, ⟨hkept, hbytes.symm⟩, hkept⟩
  · cases hunit : j.previousUnit with
    | none =>
      refine Triple.of_false ?_
      intro s hs
      obtain ⟨unit, _, hsome⟩ := hs.1.backup.unit
      cases hunit.symm.trans hsome
    | some unit =>
      refine Triple.step ?_
      intro s hs
      have hkept : Swapping m s₀ j { s with service := some unit } :=
        hs.1.mono rfl (fun _ hb => hb) fun _ he => he
      obtain ⟨unit', hservice, hunit'⟩ := hs.1.backup.unit
      obtain rfl := Option.some.inj (hunit.symm.trans hunit')
      exact ⟨hs.1, ⟨hkept, hs.2, hservice.symm⟩, hkept⟩

/-- The drop-in is the pin of the captured data directory. -/
lemma restoreServerDropin_triple :
    Triple (Swapping m s₀ j) (fun s => Swapping m s₀ j s ∧ s.binary = s₀.binary ∧ s.service = s₀.service)
      (restoreServerDropin m j) fun _ s => Swapping m s₀ j s ∧ Serving s₀ s := by
  refine Triple.assume (fun s hs => hs.1.backup.target.imp fun _ h => h.1) fun htarget => ?_
  obtain ⟨l, htarget⟩ := htarget
  rw [restoreServerDropin, htarget]
  refine Triple.bind ((legacyDropin_triple ?_).conseq_inv fun _ hs => hs.1) fun text => Triple.step ?_
  · intro s args hs
    exact ⟨hs.1.emit, hs.2⟩
  · intro s hs
    obtain ⟨⟨h, hbinary, hservice⟩, help, htext⟩ := hs
    have hkept : Swapping m s₀ j { s with dropin := some text } :=
      h.mono rfl (fun _ hb => hb) fun _ he => he
    obtain ⟨l', hl', hcaptured⟩ := h.backup.target
    cases htarget.symm.trans hl'
    exact ⟨h, ⟨hkept, hbinary, hservice, .inr ⟨l, help, text, hcaptured, htext, rfl⟩⟩, hkept⟩

/-- Reading the host keeps everything unmoved. -/
lemma init_keeps {P : Host → Prop} (u : Unmoved P) : Keeps P init :=
  Keeps.step fun s hs => u s _ hs ⟨rfl, [], (List.append_nil _).symm, fun _ h => nomatch h⟩

/-- So does waiting for the restored server. -/
lemma waitRestored_keeps {P : Host → Prop} (u : Unmoved P) : Keeps P (waitRestored m j) := by
  rw [waitRestored]
  cases j.previousTarget with
  | none => exact Keeps.pure
  | some target =>
    refine Keeps.bind (init_keeps u) fun _ => Keeps.bind (Keeps.step ?_) fun _ => wait_keeps u
    intro s hs
    exact u s _ hs ⟨rfl, [], (List.append_nil _).symm, fun _ h => nomatch h⟩

/-- The serving path of a host whose activation had begun is restored. -/
lemma restoreActivation_triple : Triple (Swapping m s₀ j) (Swapping m s₀ j) (restoreActivation m j)
    fun _ s => Swapping m s₀ j s ∧ Serving s₀ s := by
  have moved : Unmoved fun s => Swapping m s₀ j s ∧ Serving s₀ s := Swapping.unmoved.and Serving.unmoved
  refine Triple.bind restoreServer_triple fun _ => ?_
  refine Triple.bind restoreServerDropin_triple fun _ => ?_
  refine Triple.keep (startService_keeps moved) (fun _ h => h.1) fun _ => ?_
  exact (waitRestored_keeps moved).conseq_inv fun _ h => h.1

/-- The serving path is the original one and the journal is still there. -/
structure Undone (m : Machine) (s₀ : Host) (j : Enrollment) (s : Host) : Prop where
  journal : Swapping m s₀ j s
  serving : Serving s₀ s

/-- An undone swap stays so while its files do and the log grows. -/
lemma Undone.mono (h : Undone m s₀ j s) (henrollment : t.enrollment = s.enrollment)
    (hdirs : t.dirs = s.dirs) (hbinary : t.binary = s.binary) (hservice : t.service = s.service)
    (hdropin : t.dropin = s.dropin) (hlog : s.log ⊆ t.log) : Undone m s₀ j t := by
  refine ⟨h.journal.mono henrollment ?_ hlog, h.serving.mono hbinary hservice hdropin hlog⟩
  intro b hb
  rw [Host.nfServer, Host.dir, hdirs] at hb
  exact hb

/-- An undone swap is unmoved. -/
lemma Undone.unmoved : Unmoved (Undone m s₀ j) := fun _ _ h q =>
  ⟨Swapping.unmoved _ _ h.journal q, Serving.unmoved _ _ h.serving q⟩

/-- A clean host is unmoved. -/
lemma Clean.unmoved : Unmoved Clean := by
  intro s t h q
  refine ⟨q.enrollment.trans h.enrollment, ?_, q.transaction.trans h.transaction, ?_, ?_⟩
  · exact (congrArg Host.settings q.files :).trans h.settings
  · exact (congrArg Host.updaterService q.files :).trans h.updaterService
  · exact (congrArg Host.updaterTimer q.files :).trans h.updaterTimer

/-- The updater's files are removed, the journal when the others are gone. -/
lemma removeUpdater_triple : Triple (fun s => Undone m s₀ j s ∨ Clean s ∧ Serving s₀ s)
    (Undone m s₀ j) removeUpdater fun _ s => Clean s ∧ Serving s₀ s := by
  refine Triple.keep (systemctl_keeps Undone.unmoved) (fun _ h => .inl h) fun _ => ?_
  refine Triple.seq (fun _ s => Undone m s₀ j s ∧ s.updaterService = none) (Triple.step ?_) fun _ => ?_
  · intro s h
    have kept : Undone m s₀ j { s with updaterService := none } :=
      h.mono rfl rfl rfl rfl rfl fun _ he => he
    exact ⟨.inl h, ⟨kept, rfl⟩, .inl kept⟩
  refine Triple.seq (fun _ s => Undone m s₀ j s ∧ s.updaterService = none ∧ s.updaterTimer = none)
    (Triple.step ?_) fun _ => ?_
  · intro s h
    have kept : Undone m s₀ j { s with updaterTimer := none } :=
      h.1.mono rfl rfl rfl rfl rfl fun _ he => he
    exact ⟨.inl h.1, ⟨kept, h.2, rfl⟩, .inl kept⟩
  refine Triple.keep (Keeps.step ?_) (fun _ h => .inl h.1) fun _ => ?_
  · intro s h
    exact ⟨h.1.mono rfl rfl rfl rfl rfl fun _ he => he, h.2⟩
  refine Triple.seq (fun _ s => Undone m s₀ j s ∧ s.updaterService = none ∧ s.updaterTimer = none ∧
    s.transaction = none) (Triple.step ?_) fun _ => ?_
  · intro s h
    have kept : Undone m s₀ j { s with transaction := none } :=
      h.1.mono rfl rfl rfl rfl rfl fun _ he => he
    exact ⟨.inl h.1, ⟨kept, h.2.1, h.2.2, rfl⟩, .inl kept⟩
  have moved : Unmoved fun s => Undone m s₀ j s ∧ s.updaterService = none ∧ s.updaterTimer = none ∧
      s.transaction = none := by
    intro s t h q
    exact ⟨Undone.unmoved s t h.1 q, (congrArg Host.updaterService q.files :).trans h.2.1,
      (congrArg Host.updaterTimer q.files :).trans h.2.2.1, q.transaction.trans h.2.2.2⟩
  refine Triple.keep (systemctl_keeps moved) (fun _ h => .inl h.1) fun _ => ?_
  refine Triple.keep syncDirectory_keeps (fun _ h => .inl h.1) fun _ => ?_
  refine Triple.keep syncDirectory_keeps (fun _ h => .inl h.1) fun _ => ?_
  refine Triple.seq (fun _ s => (Undone m s₀ j s ∧ s.updaterService = none ∧ s.updaterTimer = none ∧
    s.transaction = none) ∧ s.settings = none) (Triple.step ?_) fun _ => ?_
  · intro s h
    have kept : Undone m s₀ j { s with settings := none } :=
      h.1.mono rfl rfl rfl rfl rfl fun _ he => he
    exact ⟨.inl h.1, ⟨⟨kept, h.2⟩, rfl⟩, .inl kept⟩
  refine Triple.keep syncDirectory_keeps (fun _ h => .inl h.1.1) fun _ => ?_
  -- the journal is the last of the updater's files
  refine Triple.seq (fun _ s => Clean s ∧ Serving s₀ s) (Triple.step ?_) fun _ => ?_
  · intro s h
    obtain ⟨⟨hundone, hservice, htimer, htx⟩, hsettings⟩ := h
    have hclean : Clean { s with enrollment := none } := ⟨rfl, hsettings, htx, hservice, htimer⟩
    have hserving : Serving s₀ { s with enrollment := none } :=
      hundone.serving.mono rfl rfl rfl fun _ he => he
    exact ⟨.inl hundone, ⟨hclean, hserving⟩, .inr ⟨hclean, hserving⟩⟩
  refine Triple.keep syncDirectory_keeps (fun _ h => .inr h) fun _ => ?_
  refine Triple.keep (Keeps.step ?_) (fun _ h => .inr h) fun _ => ?_
  · intro s h
    exact ⟨⟨h.1.enrollment, h.1.settings, h.1.transaction, h.1.updaterService, h.1.updaterTimer⟩,
      h.2.mono rfl rfl rfl fun _ he => he⟩
  · exact syncDirectory_keeps.conseq_inv fun _ h => .inr h

/-- An undone swap is an enrollment that has started. -/
lemma Undone.enrolling {b} (h : Undone m s₀ j s) (hstarted : j.activationStarted = some b) :
    Enrolling m s₀ s := by
  cases b with
  | false => exact .staging h.journal.enrollment hstarted h.journal.backup h.serving
  | true => exact .swapping h.journal.enrollment hstarted h.journal.backup

/-- A journal is undone, whether or not activation had begun. -/
lemma undo_triple {b} (hstarted : j.activationStarted = some b) :
    Triple (Enrolling m s₀) (fun s => Swapping m s₀ j s ∧ (b = false → Serving s₀ s))
      (restoreIfStarted m j >>= fun _ => removeUpdater) fun _ s => Clean s ∧ Serving s₀ s := by
  have restored : Triple (Enrolling m s₀) (fun s => Swapping m s₀ j s ∧ (b = false → Serving s₀ s))
      (restoreIfStarted m j) fun _ => Undone m s₀ j := by
    rw [restoreIfStarted, hstarted]
    cases b with
    | false => exact Triple.pure fun _ hs => ⟨hs.1, hs.2 rfl⟩
    | true =>
      refine restoreActivation_triple.conseq (fun _ hs => hs.1) ?_ fun _ _ hs => ⟨hs.1, hs.2⟩
      intro s h
      exact .swapping h.enrollment hstarted h.backup
  refine Triple.bind restored fun _ => removeUpdater_triple.conseq_inv ?_
  intro s hs
  rcases hs with h | h
  · exact h.enrolling hstarted
  · exact .out h.1 h.2

/-- A recovery leaves the enrollment where it can be recovered, and one that returns has undone it. -/
lemma recoverEnrollment_triple : Triple (Enrolling m s₀) (Enrolling m s₀) (recoverEnrollment m) fun _ s =>
    Clean s ∧ Serving s₀ s ∨ s.enrollment = none ∧ .enrolled ∈ s.log ∧ ∃ path, .committed path ∈ s.log := by
  refine Triple.bind (Triple.look fun _ h => h) fun o => ?_
  cases o with
  | none =>
    refine Triple.pure ?_
    intro s hs
    obtain ⟨h, hnone⟩ := hs
    cases h with
    | out hclean hserving => exact .inl ⟨hclean, hserving⟩
    | staging hj _ _ _ => cases hnone.trans hj
    | swapping hj _ _ => cases hnone.trans hj
    | finished henrollment henrolled hcommitted =>
      exact .inr ⟨henrollment, henrolled, _, hcommitted⟩
  | some j =>
    refine Triple.of_each ?_
    intro s hs
    obtain ⟨h, hj⟩ := hs
    cases h with
    | out hclean _ => cases hj.trans hclean.enrollment
    | finished henrollment _ _ => cases hj.trans henrollment
    | staging hj' hstarted hbackup hserving =>
      obtain rfl := Option.some.inj (hj.trans hj')
      refine (undo_triple hstarted).conseq ?_ (fun _ h => h) fun _ _ h => .inl h
      rintro t rfl
      exact ⟨⟨hj', hbackup⟩, fun _ => hserving⟩
    | swapping hj' hstarted hbackup =>
      obtain rfl := Option.some.inj (hj.trans hj')
      refine (undo_triple hstarted).conseq ?_ (fun _ h => h) fun _ _ h => .inl h
      rintro t rfl
      exact ⟨⟨hj', hbackup⟩, fun h => nomatch h⟩

/-- A recovery never leaves the enrollment it replays. -/
lemma recoverEnrollment_keeps : Keeps (Enrolling m s₀) (recoverEnrollment m) := by
  refine recoverEnrollment_triple.conseq_post ?_
  intro _ s hs
  rcases hs with h | ⟨henrollment, henrolled, path, hcommitted⟩
  · exact .out h.1 h.2
  · exact .finished henrollment henrolled hcommitted

section Unfinished

variable {env : Option Bytes}

/-- The environment file is `env`, and no enrollment has finished. -/
def Unfinished (env : Option Bytes) (s : Host) : Prop := s.env = env ∧ .enrolled ∉ s.log

/-- An unfinished restore is unmoved. -/
lemma Unfinished.unmoved : Unmoved (Unfinished env) := by
  intro s t h q
  obtain ⟨new, hnew, hquiet⟩ := q.log
  refine ⟨q.env.trans h.1, ?_⟩
  rw [hnew]
  intro henrolled
  rcases List.mem_append.mp henrolled with henrolled | henrolled
  · exact h.2 henrolled
  · exact hquiet _ henrolled

/-- Restoring the server leaves it unfinished. -/
lemma restoreServer_unfinished : Keeps (Unfinished env) (restoreServer m j) := by
  refine Keeps.bind (systemctl_keeps Unfinished.unmoved) fun _ => Keeps.bind Keeps.look fun _ => ?_
  refine Keeps.bind expect_keeps fun _ => Keeps.bind (Keeps.step fun _ h => h) fun _ => ?_
  cases j.previousUnit with
  | none => exact Keeps.pure
  | some unit => exact Keeps.step fun _ h => h

/-- Restoring the recovery settings leaves it unfinished. -/
lemma restoreServerDropin_unfinished : Keeps (Unfinished env) (restoreServerDropin m j) := by
  have restored : ∀ d, Keeps (Unfinished env) (restoreDropin d) := fun d =>
    (restoreDropin_triple fun _ _ h => h).conseq_post fun _ _ h => h.1
  rw [restoreServerDropin]
  cases j.previousTarget with
  | none => exact restored _
  | some target =>
    cases target with
    | config c => exact restored _
    | legacy l =>
      refine Triple.bind (legacyDropin_triple ?_) fun text => Triple.step ?_
      · intro s args h
        refine ⟨h.1, ?_⟩
        intro henrolled
        rcases List.mem_append.mp henrolled with henrolled | henrolled
        · exact h.2 henrolled
        · cases List.mem_singleton.mp henrolled
      · intro s h
        exact ⟨h.1, h.1, h.1⟩

/-- Removing the updater leaves it unfinished. -/
lemma removeUpdater_unfinished : Keeps (Unfinished env) removeUpdater := by
  have moved : Unmoved (Unfinished env) := Unfinished.unmoved
  refine Keeps.bind (systemctl_keeps moved) fun _ => Keeps.bind (Keeps.step fun _ h => h) fun _ => ?_
  refine Keeps.bind (Keeps.step fun _ h => h) fun _ => Keeps.bind (Keeps.step fun _ h => h) fun _ => ?_
  refine Keeps.bind (Keeps.step fun _ h => h) fun _ => Keeps.bind (systemctl_keeps moved) fun _ => ?_
  refine Keeps.bind syncDirectory_keeps fun _ => Keeps.bind syncDirectory_keeps fun _ => ?_
  refine Keeps.bind (Keeps.step fun _ h => h) fun _ => Keeps.bind syncDirectory_keeps fun _ => ?_
  refine Keeps.bind (Keeps.step fun _ h => h) fun _ => Keeps.bind syncDirectory_keeps fun _ => ?_
  exact Keeps.bind (Keeps.step fun _ h => h) fun _ => syncDirectory_keeps

/-- Recovery does not touch the environment file. -/
lemma recoverEnrollment_unfinished : Keeps (Unfinished env) (recoverEnrollment m) := by
  have moved : Unmoved (Unfinished env) := Unfinished.unmoved
  refine Keeps.bind Keeps.look fun o => ?_
  cases o with
  | none => exact Keeps.pure
  | some j =>
    refine Keeps.bind (Keeps.ite ?_ Keeps.pure) fun _ => removeUpdater_unfinished
    refine Keeps.bind restoreServer_unfinished fun _ => Keeps.bind restoreServerDropin_unfinished fun _ => ?_
    exact Keeps.bind (startService_keeps moved) fun _ => waitRestored_keeps moved

end Unfinished

end Recovery

section EnvLog

/-- A write of the environment file. -/
def Event.IsEnv : Event → Prop
  | .released _ => True
  | .envRestored => True
  | _ => False

/-- The release the environment file was last pointed at, if it has not been restored since. -/
def pendingRelease (events : List Event) : Option String :=
  events.foldl
    (fun pending e =>
      match e with
      | .released tag => some tag
      | .envRestored => none
      | _ => pending)
    none

/-- Other events leave the pending release alone. -/
lemma pendingRelease_append {events new : List Event} (h : ∀ e ∈ new, ¬ e.IsEnv) :
    pendingRelease (events ++ new) = pendingRelease events := by
  induction new using List.reverseRecOn with
  | nil => rw [List.append_nil]
  | append_singleton new e ih =>
    rw [← List.append_assoc, pendingRelease, List.foldl_append]
    have hnew := ih fun e' he => h e' (List.mem_append_left _ he)
    have he := h e (List.mem_append_right _ List.mem_cons_self)
    rw [pendingRelease] at hnew
    rw [hnew]
    cases e with
    | released tag => exact absurd trivial he
    | envRestored => exact absurd trivial he
    | _ => rfl

/-- The environment file is the one of `s₀`. -/
def EnvKept (s₀ s : Host) : Prop :=
  ∃ new, s.log = s₀.log ++ new ∧ pendingRelease new = none ∧ s.env = s₀.env

/-- The environment file is the one of `s₀`, or that one pointed at a pending release. -/
def EnvTracked (s₀ s : Host) : Prop :=
  ∃ new, s.log = s₀.log ++ new ∧ (pendingRelease new = none ∧ s.env = s₀.env ∨
    ∃ tag env text, pendingRelease new = some tag ∧ s₀.env = some env ∧
      releaseText tag env = some text ∧ s.env = some text)

/-- A kept environment is tracked. -/
lemma EnvKept.tracked (h : EnvKept s₀ s) : EnvTracked s₀ s := by
  obtain ⟨new, hlog, hpending, henv⟩ := h
  exact ⟨new, hlog, .inl ⟨hpending, henv⟩⟩

/-- The log grows by events that do not write the environment file. -/
def EnvQuiet (s t : Host) : Prop := ∃ new, t.log = s.log ++ new ∧ ∀ e ∈ new, ¬ e.IsEnv

/-- Nothing happens without an event. -/
lemma EnvQuiet.refl (hlog : t.log = s.log) : EnvQuiet s t :=
  ⟨[], hlog.trans (List.append_nil _).symm, fun _ h => nomatch h⟩

/-- An event of another kind is quiet for the environment. -/
lemma EnvQuiet.emit {e} (hlog : t.log = s.log ++ [e]) (he : ¬ e.IsEnv) : EnvQuiet s t := by
  refine ⟨[e], hlog, ?_⟩
  intro e' he'
  rw [List.mem_singleton.mp he']
  exact he

/-- A quiet stretch only adds events. -/
lemma EnvQuiet.subset (h : EnvQuiet s t) : s.log ⊆ t.log := by
  obtain ⟨new, hnew, _⟩ := h
  rw [hnew]
  exact List.subset_append_left _ _

/-- A quiet stretch is quiet for the environment. -/
lemma Quiet.envQuiet (q : Quiet s t) : EnvQuiet s t := by
  obtain ⟨new, hlog, hquiet⟩ := q.log
  refine ⟨new, hlog, ?_⟩
  intro e he henv
  have := hquiet e he
  cases e with
  | released _ => exact this
  | envRestored => exact this
  | _ => exact henv

/-- The environment is kept while its file is and nothing touches it. -/
lemma EnvKept.mono (h : EnvKept s₀ s) (hlog : EnvQuiet s t) (henv : t.env = s.env) : EnvKept s₀ t := by
  obtain ⟨new, hnew, hpending, hkept⟩ := h
  obtain ⟨new', hnew', hquiet⟩ := hlog
  refine ⟨new ++ new', ?_, (pendingRelease_append hquiet).trans hpending, henv.trans hkept⟩
  rw [hnew', hnew, List.append_assoc]

/-- It is tracked under the same condition. -/
lemma EnvTracked.mono (h : EnvTracked s₀ s) (hlog : EnvQuiet s t) (henv : t.env = s.env) :
    EnvTracked s₀ t := by
  obtain ⟨new, hnew, hcases⟩ := h
  obtain ⟨new', hnew', hquiet⟩ := hlog
  refine ⟨new ++ new', ?_, ?_⟩
  · rw [hnew', hnew, List.append_assoc]
  · rw [pendingRelease_append hquiet, henv]
    exact hcases

/-- A new release is tracked. -/
lemma EnvKept.release {env text tag} (h : EnvKept s₀ s) (henv : s.env = some env)
    (htext : releaseText tag env = some text) :
    EnvTracked s₀ ({ s with env := some text }.emit (.released tag)) := by
  obtain ⟨new, hnew, _, hkept⟩ := h
  refine ⟨new ++ [.released tag], ?_, .inr ⟨tag, env, text, ?_, hkept.symm.trans henv, htext, rfl⟩⟩
  · rw [Host.emit, hnew, List.append_assoc]
  · rw [pendingRelease, List.foldl_append]
    rfl

/-- So is the environment of before. -/
lemma EnvTracked.restore {env} (h : EnvTracked s₀ s) (henv : s₀.env = some env) :
    EnvTracked s₀ ({ s with env := some env }.emit .envRestored) := by
  obtain ⟨new, hnew, _⟩ := h
  refine ⟨new ++ [.envRestored], ?_, .inl ⟨?_, henv.symm⟩⟩
  · rw [Host.emit, hnew, List.append_assoc]
  · rw [pendingRelease, List.foldl_append]
    rfl

end EnvLog

end NullifierPir.Updater
