import NullifierPir.Updater.Enrollment
import NullifierPir.Updater.Generations

/-!
# Interrupted installations

`install` on a host that is not enrolled goes through four phases: nothing is written (`Idle`), the
journal is written and the candidate staged (`Staging`), the executable is replaced (`Swapped`) and the
candidate is activated (`Activating`). Each phase is one of the places of `Enrolling`, so wherever the
installer stops, `recover_enrollment` finds a host that it can undo.
-/

namespace NullifierPir.Updater
open ByteString Killable
open Killable.Proc (act step look ask raise handle forEach poll)

variable {m : Machine} {s₀ s t : Host} {j : Enrollment}

/-- The enrollment can be undone, and the log tells the state of the environment file. -/
structure Recoverable (m : Machine) (s₀ s : Host) : Prop where
  enrolling : Enrolling m s₀ s
  env : EnvTracked s₀ s

/-- No journal is written yet. -/
structure Idle (s₀ s : Host) : Prop where
  clean : Clean s
  serving : Serving s₀ s
  env : EnvKept s₀ s

/-- The journal is written and the serving path has not changed. -/
structure Staging (m : Machine) (s₀ : Host) (j : Enrollment) (s : Host) : Prop where
  undone : Undone m s₀ j s
  started : j.activationStarted = some false
  env : EnvKept s₀ s

/-- The journal says that activation has begun. -/
structure Swapped (m : Machine) (s₀ : Host) (j : Enrollment) (s : Host) : Prop where
  swapping : Swapping m s₀ j s
  started : j.activationStarted = some true
  env : EnvKept s₀ s

/-- The candidate is being activated, and may have rewritten the environment file. -/
structure Activating (m : Machine) (s₀ : Host) (j : Enrollment) (s : Host) : Prop where
  swapping : Swapping m s₀ j s
  started : j.activationStarted = some true
  env : EnvTracked s₀ s

/-- An idle host can be recovered. -/
lemma Idle.recoverable (h : Idle s₀ s) : Recoverable m s₀ s := ⟨.out h.clean h.serving, h.env.tracked⟩

/-- A host that stages can be recovered. -/
lemma Staging.recoverable (h : Staging m s₀ j s) : Recoverable m s₀ s :=
  ⟨h.undone.enrolling h.started, h.env.tracked⟩

/-- A host that activates can be recovered. -/
lemma Activating.recoverable (h : Activating m s₀ j s) : Recoverable m s₀ s :=
  ⟨.swapping h.swapping.enrollment h.started h.swapping.backup, h.env⟩

/-- A swapped host is activating. -/
lemma Swapped.activating (h : Swapped m s₀ j s) : Activating m s₀ j s :=
  ⟨h.swapping, h.started, h.env.tracked⟩

/-- A swapped host can be recovered. -/
lemma Swapped.recoverable (h : Swapped m s₀ j s) : Recoverable m s₀ s := h.activating.recoverable

section Check

/-- Raising or returning changes nothing. -/
lemma fromExcept_keeps {α : Type} {P : Host → Prop} {r : Except Exn α} : Keeps P (fromExcept r) := by
  cases r with
  | ok a => exact Keeps.pure
  | error e => exact Keeps.raise

/-- The host check changes nothing. -/
lemma checkHost_keeps {P : Host → Prop} {timeout} : Keeps P (checkHost m timeout) := by
  refine Keeps.bind Keeps.ask fun _ => Keeps.bind Keeps.look fun _ => Keeps.bind fromExcept_keeps fun _ => ?_
  refine Keeps.bind fromExcept_keeps fun _ => Keeps.bind Keeps.look fun _ => Keeps.bind expect_keeps fun _ => ?_
  exact Keeps.ite Keeps.pure Keeps.raise

/-- An idle host is unmoved. -/
lemma Idle.unmoved : Unmoved (Idle s₀) := fun _ _ h q =>
  ⟨Clean.unmoved _ _ h.clean q, Serving.unmoved _ _ h.serving q, h.env.mono q.envQuiet q.env⟩

/-- Events do not matter to an idle host. -/
lemma Idle.emit {e} (h : Idle s₀ s) (he : ¬ e.IsEnv) : Idle s₀ (s.emit e) := by
  obtain ⟨henrollment, hsettings, htx, hservice, htimer⟩ := h.clean
  have hlog : EnvQuiet s (s.emit e) := .emit rfl he
  exact ⟨⟨henrollment, hsettings, htx, hservice, htimer⟩, h.serving.mono rfl rfl rfl hlog.subset,
    h.env.mono hlog rfl⟩

/-- Neither do staged directories. -/
lemma Idle.setDir {p g} (h : Idle s₀ s) : Idle s₀ (s.setDir m p g) := by
  obtain ⟨henrollment, hsettings, htx, hservice, htimer⟩ := h.clean
  exact ⟨⟨henrollment, hsettings, htx, hservice, htimer⟩, h.serving.mono rfl rfl rfl fun _ he => he,
    h.env.mono (.refl rfl) rfl⟩

/-- A captured server is a regular file, and the pin is for the captured data directory. -/
lemma captureServer_triple {network data} : Triple (Idle s₀) (Idle s₀) (captureServer m network data)
    fun r s => Idle s₀ s ∧ s₀.binary = some (.file r.1) ∧
      ∃ help, legacyDropinText help r.2.1.dataDir = .ok r.2.2 := by
  refine Triple.keep Keeps.ask (fun _ h => h) fun _ => Triple.keep Keeps.ask (fun _ h => h) fun _ => ?_
  refine Triple.ite (fun _ => ?_) fun _ => Triple.raise fun _ h => h
  refine Triple.bind (Triple.look fun _ h => h) fun binary => ?_
  match binary with
  | none => exact Triple.raise fun _ h => h.1
  | some (.link _) => exact Triple.raise fun _ h => h.1
  | some (.file bytes) =>
    refine Triple.assume (fun s h => h.1.serving.binary.symm.trans h.2.symm) fun hbinary => ?_
    refine Triple.conseq_pre ?_ fun _ h => h.1
    refine Triple.keep Keeps.ask (fun _ h => h) fun _ => Triple.keep Keeps.ask (fun _ h => h) fun _ => ?_
    refine Triple.ite (fun _ => ?_) fun _ => Triple.raise fun _ h => h
    refine Triple.keep Keeps.ask (fun _ h => h) fun _ => ?_
    refine Triple.ite (fun _ => ?_) fun _ => Triple.raise fun _ h => h
    refine Triple.keep Keeps.ask (fun _ h => h) fun _ => ?_
    refine Triple.ite (fun _ => ?_) fun _ => Triple.raise fun _ h => h
    refine Triple.bind (legacyDropin_triple fun _ _ h => h.emit fun h => h) fun pin => ?_
    refine Triple.keep Keeps.look (fun _ h => h.1) fun _ => ?_
    refine Triple.ite (fun _ => Triple.raise fun _ h => h.1) fun _ => ?_
    refine Triple.keep Keeps.ask (fun _ h => h.1) fun _ => Triple.pure ?_
    intro s h
    exact ⟨h.1, hbinary, h.2⟩

/-- The backup in the first generation is of the original executable. -/
def Saved (m : Machine) (s₀ s : Host) : Prop :=
  ∀ b, s.nfServer m initial = some b → s₀.binary = some (.file b)

/-- A change of the first generation that leaves its executable. -/
lemma Saved.modifyDir {f : Generation → Generation} (h : Saved m s₀ s)
    (hf : ∀ g, (f g).nfServer = g.nfServer) : Saved m s₀ (s.modifyDir m initial f) := by
  intro b hb
  refine h b ?_
  rw [Host.nfServer, dir_modifyDir] at hb
  rw [Host.nfServer]
  cases hg : s.dir m initial with
  | none =>
    rw [hg] at hb
    cases hb
  | some g =>
    rw [hg] at hb
    exact (hf g).symm.trans hb

/-- The backup is saved while the host is idle. -/
lemma saveInitial_triple {l} (hfile : ∃ bytes, s₀.binary = some (.file bytes)) :
    Triple (Idle s₀) (Idle s₀) (saveInitial m l) fun _ s => Idle s₀ s ∧ Saved m s₀ s := by
  obtain ⟨bytes, hbytes⟩ := hfile
  refine Triple.keep (Keeps.step ?_) (fun _ h => h) fun _ => ?_
  · intro s h
    by_cases hdir : (s.dir m initial).isSome
    · rw [if_pos hdir]
      exact h
    · rw [if_neg hdir]
      exact h.setDir
  refine Triple.keep syncDirectory_keeps (fun _ h => h) fun _ => ?_
  refine Triple.keep syncDirectory_keeps (fun _ h => h) fun _ => ?_
  refine Triple.bind (Triple.look fun _ h => h) fun o => ?_
  refine Triple.bind (expect_triple fun _ h => h.1) fun copy => ?_
  refine Triple.seq (fun _ s => Idle s₀ s ∧ Saved m s₀ s) (Triple.step ?_) fun _ => ?_
  · intro s hs
    obtain ⟨⟨h, ho⟩, hcopy⟩ := hs
    have hread : s.readBinary m = some bytes := by
      rw [Host.readBinary, h.serving.binary, hbytes]
    obtain rfl := Option.some.inj (hread.symm.trans (ho.symm.trans hcopy))
    refine ⟨h, ⟨h.setDir, ?_⟩, h.setDir⟩
    intro b hb
    rw [Host.nfServer, dir_modifyDir] at hb
    cases hg : s.dir m initial with
    | none =>
      rw [hg] at hb
      cases hb
    | some g =>
      rw [hg] at hb
      cases hb
      exact hbytes
  have changed : ∀ f : Generation → Generation, (∀ g, (f g).nfServer = g.nfServer) →
      Keeps (fun s => Idle s₀ s ∧ Saved m s₀ s)
        (step fun s => s.modifyDir m initial f : HostProc Unit) :=
    fun f hf => Keeps.step fun _ h => ⟨h.1.setDir, h.2.modifyDir hf⟩
  refine Triple.keep (changed _ fun _ => rfl) (fun _ h => h.1) fun _ => ?_
  refine Triple.keep (changed _ fun _ => rfl) (fun _ h => h.1) fun _ => ?_
  exact Triple.conseq_inv (changed _ fun _ => rfl) fun _ h => h.1

/-- The state in which the journal is written. -/
lemma Idle.journaled {unit} (l : LegacyTarget) (timeout : Nat) (h : Idle s₀ s) (hsaved : Saved m s₀ s)
    (hfile : ∃ bytes, s₀.binary = some (.file bytes)) (hunit : s.service = some unit)
    (hj : j = ⟨initial ++ ["nf-server"], some (.legacy l), some unit, none, some false, some timeout⟩) :
    Staging m s₀ j ({ s with enrollment := some j }.emit (.captured l)) := by
  subst hj
  obtain ⟨bytes, hbytes⟩ := hfile
  have hsame : ∀ b, s.nfServer m initial = some b → b = bytes := by
    intro b hb
    cases (hsaved b hb).symm.trans hbytes
    rfl
  refine ⟨⟨⟨rfl, rfl, ⟨bytes, hbytes, hsame⟩, ⟨unit, ?_, rfl⟩, l, rfl, ?_⟩, ?_⟩, rfl, ?_⟩
  · exact h.serving.service.symm.trans hunit
  · exact List.mem_append_right _ List.mem_cons_self
  · exact h.serving.mono rfl rfl rfl (List.subset_append_left _ _)
  · exact h.env.mono (.emit rfl fun h => h) rfl

/-- The journal describes the original server. -/
lemma writeEnrollment_triple {l timeout} (hfile : ∃ bytes, s₀.binary = some (.file bytes)) :
    Triple (Recoverable m s₀) (fun s => Idle s₀ s ∧ Saved m s₀ s) (writeEnrollment l timeout)
      fun j s => Staging m s₀ j s ∧ j.previousTarget = some (.legacy l) := by
  refine Triple.bind (Triple.look fun _ h => h.1.recoverable) fun o => ?_
  refine Triple.bind (expect_triple fun _ h => h.1.1.recoverable) fun unit => ?_
  refine Triple.bind (Triple.step ?_) fun _ => Triple.pure fun _ h => ⟨h, rfl⟩
  intro s hs
  obtain ⟨⟨⟨h, hsaved⟩, ho⟩, hunit⟩ := hs
  have staging := h.journaled l timeout hsaved hfile (ho.symm.trans hunit) rfl
  exact ⟨h.recoverable, staging, staging.recoverable⟩

end Check

section Stage

/-- Staging is unmoved. -/
lemma Staging.unmoved : Unmoved (Staging m s₀ j) := fun _ _ h q =>
  ⟨Undone.unmoved _ _ h.undone q, h.started, h.env.mono q.envQuiet q.env⟩

/-- Staging goes on while its files stay. -/
lemma Staging.mono (h : Staging m s₀ j s) (henrollment : t.enrollment = s.enrollment)
    (hdirs : t.dirs = s.dirs) (hbinary : t.binary = s.binary) (hservice : t.service = s.service)
    (hdropin : t.dropin = s.dropin) (henv : t.env = s.env) (hlog : EnvQuiet s t) : Staging m s₀ j t :=
  ⟨h.undone.mono henrollment hdirs hbinary hservice hdropin hlog.subset, h.started,
    h.env.mono hlog henv⟩

/-- The name of a staged generation is a hash, so it is not `initial`. -/
lemma resolve_ne_initial (v : Verified) : m.resolve (generation (identity m v)) ≠ m.resolve initial := by
  intro h
  have hname : identity m v = "initial" := m.resolve_generation _ _ h
  have hhex := m.sha256_hex (encode (m.dumps v)) 'i'
  rw [identity] at hname
  rw [hname] at hhex
  exact absurd (hhex (by decide)) (by decide)

/-- Staging leaves the backup. -/
lemma Staging.setDir {v g} (h : Staging m s₀ j s) :
    Staging m s₀ j (s.setDir m (generation (identity m v)) g) := by
  have hother : (s.setDir m (generation (identity m v)) g).dir m initial = s.dir m initial :=
    Function.update_of_ne (resolve_ne_initial v).symm _ _
  refine ⟨⟨h.undone.journal.mono rfl ?_ fun _ he => he, ?_⟩, h.started, h.env.mono (.refl rfl) rfl⟩
  · intro b hb
    rw [Host.nfServer, hother] at hb
    exact hb
  · exact h.undone.serving.mono rfl rfl rfl fun _ he => he

/-- Staging another generation goes on. -/
lemma Staging.stageClosed {v} : StageClosed m (generation (identity m v)) v (Staging m s₀ j) where
  unmoved := Staging.unmoved
  dir := fun _ _ h => h.setDir
  run := fun _ _ _ h _ => h.mono rfl rfl rfl rfl rfl rfl (.emit rfl fun h => h)

/-- The original server keeps serving while the target is staged. -/
lemma stageFirst_keeps {settings l} : Keeps (Staging m s₀ j) (stageFirst m settings l) := by
  refine Keeps.bind (Keeps.step ?_) fun _ => Keeps.bind (init_keeps Staging.unmoved) fun _ => ?_
  · intro s h
    exact h.mono rfl rfl rfl rfl rfl rfl (.refl rfl)
  refine Keeps.bind matchesTarget_keeps fun _ => Keeps.ite ?_ Keeps.raise
  refine Keeps.bind (report_keeps Staging.unmoved) fun _ => ?_
  refine Triple.bind (target_triple Staging.unmoved) fun first => ?_
  refine Triple.assume (fun _ h => h.2.2) fun hid => ?_
  refine Triple.conseq_pre ?_ fun _ h => h.1
  refine Keeps.bind (report_keeps Staging.unmoved) fun _ => ?_
  rw [hid]
  refine Triple.bind (stage_triple Staging.stageClosed) fun candidate => ?_
  refine Triple.conseq_pre ?_ fun _ h => h.1
  refine Triple.bind (target_triple Staging.unmoved) fun latest => ?_
  refine Triple.conseq_pre ?_ fun _ h => h.1
  refine Keeps.ite (Keeps.bind matchesTarget_keeps fun _ => ?_) Keeps.raise
  exact Keeps.ite Keeps.pure Keeps.raise

end Stage

section Swap

/-- The original server is pinned to the captured data directory. -/
lemma Staging.pin {l help pin} (h : Staging m s₀ j s) (htarget : j.previousTarget = some (.legacy l))
    (hpin : legacyDropinText help l.dataDir = .ok pin) : Staging m s₀ j { s with dropin := some pin } := by
  obtain ⟨l', htarget', hcaptured⟩ := h.undone.journal.backup.target
  cases htarget.symm.trans htarget'
  refine ⟨⟨h.undone.journal.mono rfl (fun _ hb => hb) fun _ he => he, ?_⟩, h.started,
    h.env.mono (.refl rfl) rfl⟩
  exact ⟨h.undone.serving.binary, h.undone.serving.service, .inr ⟨l, help, pin, hcaptured, hpin, rfl⟩⟩

/-- The journal says that activation begins. -/
lemma Staging.begin (h : Staging m s₀ j s) : Swapped m s₀ { j with activationStarted := some true }
    { s with enrollment := some { j with activationStarted := some true } } := by
  obtain ⟨hpath, hbinary, hunit, htarget⟩ := h.undone.journal.backup
  exact ⟨⟨rfl, hpath, hbinary, hunit, htarget⟩, rfl, h.env.mono (.refl rfl) rfl⟩

/-- Recovery is scheduled and the original server pinned before activation begins. -/
lemma armRecovery_triple {l help pin} (htarget : j.previousTarget = some (.legacy l))
    (hpin : legacyDropinText help l.dataDir = .ok pin) :
    Triple (Recoverable m s₀) (Staging m s₀ j) (armRecovery m j pin) fun _ =>
      Swapped m s₀ { j with activationStarted := some true } := by
  have back : ∀ s, Staging m s₀ j s → Recoverable m s₀ s := fun _ h => h.recoverable
  refine Triple.bind ((switch_triple ?_ ?_).conseq_inv back) fun _ => ?_
  · intro s p h
    exact h.mono rfl rfl rfl rfl rfl rfl (.refl rfl)
  · intro s h
    exact h.mono rfl rfl rfl rfl rfl rfl (.emit rfl fun h => h)
  refine Triple.conseq_pre ?_ fun _ h => h.1
  refine Triple.keep (Keeps.step ?_) back fun _ => ?_
  · intro s h
    exact h.mono rfl rfl rfl rfl rfl rfl (.refl rfl)
  refine Triple.keep (Keeps.step ?_) back fun _ => ?_
  · intro s h
    exact h.mono rfl rfl rfl rfl rfl rfl (.refl rfl)
  refine Triple.keep (systemctl_keeps Staging.unmoved) back fun _ => ?_
  refine Triple.keep (systemctl_keeps Staging.unmoved) back fun _ => ?_
  refine Triple.keep (Keeps.step fun _ h => h.pin htarget hpin) back fun _ => ?_
  refine Triple.keep (systemctl_keeps Staging.unmoved) back fun _ => Triple.step ?_
  intro s h
  exact ⟨h.recoverable, h.begin, h.begin.recoverable⟩

/-- A swapped host is unmoved. -/
lemma Swapped.unmoved : Unmoved (Swapped m s₀ j) := fun _ _ h q =>
  ⟨Swapping.unmoved _ _ h.swapping q, h.started, h.env.mono q.envQuiet q.env⟩

/-- It stays swapped while its files do. -/
lemma Swapped.mono (h : Swapped m s₀ j s) (henrollment : t.enrollment = s.enrollment)
    (hdirs : t.dirs = s.dirs) (henv : t.env = s.env) (hlog : EnvQuiet s t) : Swapped m s₀ j t := by
  refine ⟨h.swapping.mono henrollment ?_ hlog.subset, h.started, h.env.mono hlog henv⟩
  intro b hb
  rw [Host.nfServer, Host.dir, hdirs] at hb
  exact hb

/-- Swapping the executable leaves it swapped. -/
lemma swapExecutable_keeps : Keeps (Swapped m s₀ j) swapExecutable := by
  refine Keeps.bind (Keeps.step ?_) fun _ => Keeps.bind (Keeps.step ?_) fun _ => ?_
  · intro s h
    exact h.mono rfl rfl rfl (.refl rfl)
  · intro s h
    exact h.mono rfl rfl rfl (.refl rfl)
  · refine Keeps.bind (Keeps.step ?_) fun _ => syncDirectory_keeps
    intro s h
    exact h.mono rfl rfl rfl (.refl rfl)

end Swap

section Activation

/-- Activating is unmoved. -/
lemma Activating.unmoved : Unmoved (Activating m s₀ j) := fun _ _ h q =>
  ⟨Swapping.unmoved _ _ h.swapping q, h.started, h.env.mono q.envQuiet q.env⟩

/-- It goes on while its files stay. -/
lemma Activating.mono (h : Activating m s₀ j s) (henrollment : t.enrollment = s.enrollment)
    (hdirs : t.dirs = s.dirs) (henv : t.env = s.env) (hlog : EnvQuiet s t) : Activating m s₀ j t := by
  refine ⟨h.swapping.mono henrollment ?_ hlog.subset, h.started, h.env.mono hlog henv⟩
  intro b hb
  rw [Host.nfServer, Host.dir, hdirs] at hb
  exact hb

/-- The activation is committed and the journal of the enrollment still there. -/
structure Activated (m : Machine) (s₀ : Host) (j : Enrollment) (s : Host) : Prop where
  activating : Activating m s₀ j s
  committed : ∃ path, .committed path ∈ s.log

/-- An activated host is unmoved. -/
lemma Activated.unmoved : Unmoved (Activated m s₀ j) := by
  intro s t h q
  obtain ⟨path, hpath⟩ := h.committed
  exact ⟨Activating.unmoved _ _ h.activating q, path, q.subset hpath⟩

/-- Cleaning up may remove entries of the backup, but does not change them. -/
lemma Activating.remains {name g} (h : Activating m s₀ j s)
    (hg : Remains (s.dir m (generation name)) g) :
    Activating m s₀ j (s.setDir m (generation name) g) := by
  refine ⟨h.swapping.mono rfl ?_ fun _ he => he, h.started, h.env.mono (.refl rfl) rfl⟩
  intro b hb
  by_cases hname : m.resolve initial = m.resolve (generation name)
  · have hdir : (s.setDir m (generation name) g).dir m initial = g := by
      rw [Host.dir, hname]
      exact dir_setDir
    rw [Host.nfServer, hdir] at hb
    rw [Host.nfServer, Host.dir, hname]
    rcases hg with rfl | ⟨k, rfl⟩
    · cases hb
    · rw [Host.dir] at hb
      cases hold : s.dirs (m.resolve (generation name)) with
      | none =>
        rw [hold] at hb
        cases hb
      | some old =>
        rw [hold] at hb
        cases hk : k.nfServer with
        | false => simp [Generation.keep, hk] at hb
        | true => simpa [Generation.keep, hk] using hb
  · have hother : (s.setDir m (generation name) g).dir m initial = s.dir m initial :=
      Function.update_of_ne hname _ _
    rw [Host.nfServer, hother] at hb
    exact hb

/-- The steps of the activation lead from swapped to activating. -/
lemma Swapped.activateClosed {path} : ActivateClosed m path (Swapped m s₀ j) (Activating m s₀ j) where
  unmoved := Swapped.unmoved
  unmoved' := Activating.unmoved
  weaken := fun _ h => h.activating
  link := fun _ _ h => h.mono rfl rfl rfl (.refl rfl)
  switched := fun _ h => h.mono rfl rfl rfl (.emit rfl fun h => h)
  service := fun _ _ h => h.mono rfl rfl rfl (.refl rfl)
  dropin := fun _ _ h => h.mono rfl rfl rfl (.refl rfl)
  release := fun _ _ _ _ h henv htext =>
    ⟨h.swapping.mono rfl (fun _ hb => hb) (List.subset_append_left _ _), h.started,
      h.env.release henv htext⟩

/-- A rollback restores the environment that the activation found, which is the original one. -/
lemma Activating.rollbackClosed {tx : Transaction} (henv : tx.previousEnv = s₀.env) :
    RollbackClosed m tx (Activating m s₀ j) where
  unmoved := Activating.unmoved
  link := fun _ _ h => h.mono rfl rfl rfl (.refl rfl)
  switched := fun _ h => h.mono rfl rfl rfl (.emit rfl fun h => h)
  service := fun _ _ h => h.mono rfl rfl rfl (.refl rfl)
  dropin := fun _ _ h => h.mono rfl rfl rfl (.refl rfl)
  help := fun _ _ h => h.mono rfl rfl rfl (.emit rfl fun h => h)
  env := fun _ _ h he =>
    ⟨h.swapping.mono rfl (fun _ hb => hb) (List.subset_append_left _ _), h.started,
      h.env.restore (henv.symm.trans he)⟩

/-- A kept environment is that of before. -/
lemma EnvKept.env_eq (h : EnvKept s₀ s) : s.env = s₀.env := by
  obtain ⟨_, _, _, henv⟩ := h
  exact henv

/-- The rules of the activation for a swapped host. -/
lemma Swapped.activationRules {path} (h : Swapped m s₀ j s) :
    ActivationRules m s path (Swapped m s₀ j) (Activating m s₀ j) (Activating m s₀ j)
      (Activated m s₀ j) where
  start := by
    intro unit _
    have hactivating : Swapped m s₀ j (s.emit (.activating path s.transaction)) :=
      h.mono rfl rfl rfl (.emit rfl fun h => h)
    exact hactivating.mono rfl rfl rfl (.emit rfl fun h => h)
  body := Swapped.activateClosed
  rollback := fun _ _ => Activating.rollbackClosed h.env.env_eq
  rolledBack := fun _ _ _ h _ _ => h.mono rfl rfl rfl (.refl rfl)
  previousJson := fun _ _ h => h.mono rfl rfl rfl (.refl rfl)
  commit := fun _ _ _ h _ _ _ _ =>
    ⟨h.mono rfl rfl rfl (.emit rfl fun h => h), path, List.mem_append_right _ List.mem_cons_self⟩
  afterRollback := Activating.unmoved
  afterCommit := Activated.unmoved
  cleanup := fun _ _ _ h _ _ hg => ⟨h.activating.remains hg, h.committed⟩

/-- However the first activation ends, the enrollment can be undone. -/
lemma activate_enrolling {path} : Triple (Recoverable m s₀) (Swapped m s₀ j) (activate m path) fun _ =>
    Activated m s₀ j := by
  refine Triple.of_each fun s h => ?_
  refine (activate_triple h.activationRules).conseq_inv ?_
  intro t ht
  rcases ht with rfl | rfl | h' | h' | h'
  · exact h.recoverable
  · have hactivating : Swapped m s₀ j (s.emit (.activating path s.transaction)) :=
      h.mono rfl rfl rfl (.emit rfl fun h => h)
    exact hactivating.recoverable
  · exact h'.recoverable
  · exact h'.recoverable
  · exact h'.activating.recoverable

/-- The journal goes when the activation is committed. -/
lemma Activated.finish (h : Activated m s₀ j s) :
    Recoverable m s₀ ({ s with enrollment := none }.emit .enrolled) := by
  obtain ⟨path, hcommitted⟩ := h.committed
  refine ⟨.finished rfl ?_ (List.mem_append_left _ hcommitted), h.activating.env.mono ?_ rfl⟩
  · exact List.mem_append_right _ List.mem_cons_self
  · exact .emit rfl fun h => h

end Activation

/-- Enrolling a host leaves it recoverable, wherever it stops. -/
lemma enroll_triple {timeout} : Triple (Recoverable m s₀) (Idle s₀) (enroll m timeout) fun _ =>
    Recoverable m s₀ := by
  have idle : ∀ s, Idle s₀ s → Recoverable m s₀ s := fun _ h => h.recoverable
  refine Triple.keep checkHost_keeps idle fun settings => ?_
  refine Triple.bind (captureServer_triple.conseq_inv idle) fun captured => ?_
  refine Triple.assume (fun _ h => h.2) fun hcaptured => ?_
  obtain ⟨hbinary, help, hpin⟩ := hcaptured
  refine Triple.conseq_pre ?_ fun _ h => h.1
  refine Triple.bind ((saveInitial_triple ⟨_, hbinary⟩).conseq_inv idle) fun _ => ?_
  refine Triple.bind (writeEnrollment_triple ⟨_, hbinary⟩) fun tx => ?_
  refine Triple.assume (fun _ h => h.2) fun htarget => ?_
  refine Triple.conseq_pre ?_ fun _ h => h.1
  refine Triple.keep stageFirst_keeps (fun _ h => h.recoverable) fun candidate => ?_
  refine Triple.bind (armRecovery_triple htarget hpin) fun _ => ?_
  refine Triple.keep swapExecutable_keeps (fun _ h => h.recoverable) fun _ => ?_
  refine Triple.bind activate_enrolling fun _ => ?_
  refine Triple.keep (report_keeps Activated.unmoved) (fun _ h => h.activating.recoverable) fun _ => ?_
  refine Triple.seq (fun _ => Recoverable m s₀) (Triple.step ?_) fun _ => syncDirectory_keeps
  intro s h
  exact ⟨h.activating.recoverable, h.finish, h.finish⟩

/-- So does the installer on a host that is not enrolled. -/
lemma install_recoverable {timeout} (h : Idle s₀ s₀) (w) :
    Recoverable m s₀ (install m timeout s₀ w).state := by
  have idle : ∀ s, Idle s₀ s → Recoverable m s₀ s := fun _ h => h.recoverable
  have nothing : Keeps (Idle s₀) (recoverEnrollment m) := by
    refine Triple.bind (Triple.look fun _ h => h) fun o => ?_
    cases o with
    | none => exact Triple.pure fun _ h => h.1
    | some j =>
      refine Triple.of_false ?_
      intro s hs
      cases hs.2.trans hs.1.clean.enrollment
  have run : Triple (Recoverable m s₀) (Idle s₀) (install m timeout) fun _ => Recoverable m s₀ := by
    refine Triple.keep syncDirectory_keeps idle fun _ => Triple.keep syncDirectory_keeps idle fun _ => ?_
    refine Triple.keep nothing idle fun _ => ?_
    refine Triple.bind (Triple.look idle) fun enrolled => ?_
    refine Triple.ite (fun henrolled => Triple.of_false ?_) fun _ => ?_
    · -- without `settings.json` the installer enrolls
      intro s hs
      rw [hs.2, hs.1.clean.settings] at henrolled
      cases henrolled
    · exact enroll_triple.conseq_pre fun _ h => h.1
  exact run.all (fun _ _ h => h) h w

section Original

/-- A host that no installer has touched. -/
structure Unenrolled (s : Host) : Prop where
  clean : Clean s
  binary : s.binary ≠ some (.link managedLink)
  log : s.log = []

/-- The host is as before the installation: none of the updater's files is there, and the executable, the
unit, the environment file and, up to the pin of the captured data directory, the drop-in are the original
ones. -/
structure Original (s₀ s : Host) : Prop where
  clean : Clean s
  serving : Serving s₀ s
  env : s.env = s₀.env

/-- A run with these events stopped while `set_release` had changed the environment file of `s₀`. -/
def ReleaseLeft (s₀ : Host) (events : List Event) : Prop :=
  ∃ tag, pendingRelease events = some tag ∧ s₀.env.bind (releaseText tag) ≠ s₀.env

/-- A host that was never enrolled is idle. -/
lemma Unenrolled.idle (h : Unenrolled s₀) : Idle s₀ s₀ := by
  refine ⟨h.clean, ⟨rfl, rfl, .inl rfl⟩, [], ?_, rfl, rfl⟩
  rw [List.append_nil]

/-- The environment file is the original one unless the run left a release. -/
lemma EnvTracked.env_eq_iff (h : EnvTracked s₀ s) (hlog : s₀.log = []) :
    s.env = s₀.env ↔ ¬ ReleaseLeft s₀ s.log := by
  obtain ⟨new, hnew, hcases⟩ := h
  rw [hlog, List.nil_append] at hnew
  rw [hnew]
  rcases hcases with ⟨hpending, henv⟩ | ⟨tag, env, text, hpending, horiginal, htext, henv⟩
  · refine ⟨?_, fun _ => henv⟩
    rintro - ⟨tag, htag, _⟩
    cases hpending.symm.trans htag
  · have hbind : s₀.env.bind (releaseText tag) = s.env := by
      rw [horiginal, henv]
      exact htext
    constructor
    · rintro hsame ⟨tag', htag', hne⟩
      cases hpending.symm.trans htag'
      exact hne (hbind.trans hsame)
    · intro hnot
      by_contra hne
      exact hnot ⟨tag, hpending, fun h => hne (hbind.symm.trans h)⟩

/-- An installation that returns, raises or is killed at any step on a host that is not enrolled,
followed by any number of recoveries that return, raise or are killed at any step. Without
`enrollment.json` the executable is the managed link only if an activation has committed; and if the
installation stopped before it removed `enrollment.json`, a recovery that completes restores the original
host exactly when the installation was not stopped between its rewrite of the environment file and the
restoration of it. -/
theorem recoverEnrollment_restores_iff {timeout w} (unenrolled : Unenrolled s₀)
    (attempts : Attempts (recoverEnrollment m) (install m timeout s₀ w).state t) :
    (t.enrollment = none → t.binary = some (.link managedLink) → ∃ path, .committed path ∈ t.log) ∧
    ∀ w', .enrolled ∉ (install m timeout s₀ w).state.log → (recoverEnrollment m t w').ending = .ret () →
      (Original s₀ (recoverEnrollment m t w').state ↔
        ¬ ReleaseLeft s₀ (install m timeout s₀ w).state.log) := by
  have installed : Recoverable m s₀ (install m timeout s₀ w).state :=
    install_recoverable unenrolled.idle w
  have enrolling : Enrolling m s₀ t := recoverEnrollment_keeps.attempts installed.enrolling attempts
  refine ⟨?_, ?_⟩
  · intro hnone hlink
    cases enrolling with
    | out _ hserving => exact absurd (hserving.binary.symm.trans hlink) unenrolled.binary
    | staging hj _ _ _ => cases hnone.symm.trans hj
    | swapping hj _ _ => cases hnone.symm.trans hj
    | finished _ _ hcommitted => exact ⟨_, hcommitted⟩
  · intro w' hunfinished hret
    -- recoveries do not touch the environment file, and none of them finishes an enrollment
    have before : Unfinished (install m timeout s₀ w).state.env t :=
      recoverEnrollment_unfinished.attempts ⟨rfl, hunfinished⟩ attempts
    have after : Unfinished (install m timeout s₀ w).state.env (recoverEnrollment m t w').state :=
      recoverEnrollment_unfinished.run before w'
    rw [← installed.env.env_eq_iff unenrolled.log, ← after.1]
    refine ⟨fun h => h.env, ?_⟩
    intro henv
    rcases recoverEnrollment_triple.ret enrolling hret with ⟨hclean, hserving⟩ | ⟨_, henrolled, _⟩
    · exact ⟨hclean, hserving, henv⟩
    · exact absurd henrolled after.2

/-- A host to enroll: a one-byte server under the release unit. -/
def plainHost : Host where
  binary := some (.file [98])
  service := some execStartLine
  env := some (encode "SENTRY_RELEASE=v0\n")

/-- Every answer of an installation of `v1` on it. -/
def firstReply : Reply where
  pid := 1
  exe := [98]
  pirRootHeight := 5
  pirRootNetwork := "main"
  help := "--pir-data-dir --voting-config-url"
  verified := tagUpdate "v1"
  response := ⟨"https://example.com", [[98]]⟩
  releaseTag := "v1"
  pirUpdateProtocol := 1
  diskFree := 2147483648
  defaults := some (encode
    "SVOTE_ZCASH_NETWORK=main\nSVOTE_PIR_CONFIG_URL=https://example.com/prod/pir.json\n")

/-- The host after an installation that is killed at a step. -/
def stoppedHost (steps : Nat) : Host :=
  (install hexMachine 600 plainHost (List.replicate steps (.ok firstReply))).state

/-- A recovery of it. -/
def recoveredHost (steps : Nat) : Result Host Reply Exn Unit :=
  recoverEnrollment hexMachine (stoppedHost steps) (List.replicate 40 (.ok firstReply))

/-- The host of the sample was never enrolled. -/
lemma plainHost_unenrolled : Unenrolled plainHost := by
  refine ⟨⟨rfl, rfl, rfl, rfl, rfl⟩, ?_, rfl⟩
  intro h
  cases h

/-- The installation is killed right after it has replaced the executable, and the recovery puts the
original host back. -/
theorem recoverEnrollment_restores_after_swap :
    (stoppedHost 87).binary = some (.link managedLink) ∧ Original plainHost (recoveredHost 87).state := by
  have hstopped : (stoppedHost 87).binary = some (.link managedLink) ∧
      .enrolled ∉ (stoppedHost 87).log ∧ pendingRelease (stoppedHost 87).log = none ∧
      (recoveredHost 87).ending.isRet = true := by decide +kernel
  unfold recoveredHost stoppedHost at hstopped ⊢
  obtain ⟨hlink, hunfinished, hpending, hret⟩ := hstopped
  have hrun := @recoverEnrollment_restores_iff hexMachine plainHost _ 600
    (List.replicate 87 (.ok firstReply)) plainHost_unenrolled Relation.ReflTransGen.refl
  refine ⟨hlink, (hrun.2 _ hunfinished (End.eq_ret_of_isRet hret)).mpr ?_⟩
  rintro ⟨tag, htag, _⟩
  cases hpending.symm.trans htag

/-- The installation is killed right after `set_release`: the recovery completes, and the environment file
names the release that is not installed. -/
theorem recoverEnrollment_leaves_release : Unenrolled plainHost ∧ .enrolled ∉ (stoppedHost 107).log ∧
    (recoveredHost 107).ending = .ret () ∧ (recoveredHost 107).state.env = some (encode "SENTRY_RELEASE=v1\n") ∧
    ¬ Original plainHost (recoveredHost 107).state := by
  have hstopped : .enrolled ∉ (stoppedHost 107).log ∧ (recoveredHost 107).ending.isRet = true ∧
      (recoveredHost 107).state.env = some (encode "SENTRY_RELEASE=v1\n") := by decide +kernel
  obtain ⟨hunfinished, hret, henv⟩ := hstopped
  refine ⟨plainHost_unenrolled, hunfinished, End.eq_ret_of_isRet hret, henv, ?_⟩
  intro h
  have hsame := henv.symm.trans h.env
  exact absurd hsame (by decide +kernel)

end Original

end NullifierPir.Updater
