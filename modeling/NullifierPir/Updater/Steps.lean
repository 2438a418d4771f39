import NullifierPir.Updater.Reconciler

/-!
# What each procedure changes

`Quiet s t`: between `s` and `t` only the status, the running `Reconciler` and events of no consequence
have changed. Outside calls, reports, waits and downloads of documents are quiet, so they keep every
property that quiet changes keep (`Keeps.of_quiet`).
-/

namespace NullifierPir.Updater
open ByteString Killable
open Killable.Proc (act step look ask raise handle forEach poll)

/-- An outside call, an accepted target or a passed readiness check. -/
def Event.IsQuiet : Event → Prop
  | .systemctl _ => True
  | .accepted _ => True
  | .ready _ => True
  | _ => False

/-- Only the status, the running `Reconciler` and quiet events have changed. -/
structure Quiet (s t : Host) : Prop where
  files : t = { s with
    status := t.status, selfSettings := t.selfSettings, selfStatus := t.selfStatus, log := t.log }
  log : ∃ new, t.log = s.log ++ new ∧ ∀ e ∈ new, e.IsQuiet

namespace Quiet

variable {s t u : Host}

/-- Nothing that happens is quiet. -/
lemma refl (s : Host) : Quiet s s := ⟨rfl, [], (List.append_nil _).symm, fun _ h => nomatch h⟩

/-- Quiet stretches follow each other. -/
lemma trans (h : Quiet s t) (h' : Quiet t u) : Quiet s u := by
  obtain ⟨hfiles, new, hnew, hq⟩ := h
  obtain ⟨hfiles', new', hnew', hq'⟩ := h'
  refine ⟨?_, new ++ new', ?_, ?_⟩
  · rw [hfiles', hfiles]
  · rw [hnew', hnew, List.append_assoc]
  · intro e he
    rcases List.mem_append.mp he with he | he
    · exact hq e he
    · exact hq' e he

/-- A quiet event. -/
lemma emit {e : Event} (h : e.IsQuiet) : Quiet s (s.emit e) := by
  refine ⟨rfl, [e], rfl, ?_⟩
  intro e' he
  rw [List.mem_singleton.mp he]
  exact h

/-- The current link stays. -/
lemma current (h : Quiet s t) : t.current = s.current := (congrArg Host.current h.files :)

/-- The unit stays. -/
lemma service (h : Quiet s t) : t.service = s.service := (congrArg Host.service h.files :)

/-- The recovery settings stay. -/
lemma dropin (h : Quiet s t) : t.dropin = s.dropin := (congrArg Host.dropin h.files :)

/-- The environment stays. -/
lemma env (h : Quiet s t) : t.env = s.env := (congrArg Host.env h.files :)

/-- The journal stays. -/
lemma transaction (h : Quiet s t) : t.transaction = s.transaction :=
  (congrArg Host.transaction h.files :)

/-- The enrollment journal stays. -/
lemma enrollment (h : Quiet s t) : t.enrollment = s.enrollment := (congrArg Host.enrollment h.files :)

/-- The directories stay. -/
lemma dirs (h : Quiet s t) : t.dirs = s.dirs := (congrArg Host.dirs h.files :)

/-- The link resolves as before. -/
lemma resolveCurrent (h : Quiet s t) {m : Machine} : t.resolveCurrent m = s.resolveCurrent m := by
  rw [Host.resolveCurrent, Host.resolveCurrent, h.current]

/-- And so does every path. -/
lemma dir (h : Quiet s t) {m : Machine} {p} : t.dir m p = s.dir m p := by
  rw [Host.dir, Host.dir, h.dirs]

end Quiet

/-- A property that quiet changes keep. -/
def Unmoved (P : Host → Prop) : Prop := ∀ s t, P s → Quiet s t → P t

/-- Two unmoved conditions. -/
lemma Unmoved.and {P Q : Host → Prop} (hP : Unmoved P) (hQ : Unmoved Q) :
    Unmoved fun s => P s ∧ Q s :=
  fun s t h q => ⟨hP s t h.1 q, hQ s t h.2 q⟩

section Procedures

variable {m : Machine} {P : Host → Prop}

/-- An expected value changes nothing. -/
lemma expect_keeps {α : Type} {e : Exn} {o : Option α} : Keeps P (expect e o) := by
  cases o with
  | some a => exact Keeps.pure
  | none => exact Keeps.raise

/-- And it is there. -/
lemma expect_triple {α : Type} {e : Exn} {o : Option α} {inv : Host → Prop} (hinv : ∀ s, P s → inv s) :
    Triple inv P (expect e o) fun a s => P s ∧ o = some a := by
  cases o with
  | some a => exact Triple.pure fun _ hs => ⟨hs, rfl⟩
  | none => exact Triple.raise hinv

/-- Syncing a directory changes nothing. -/
lemma syncDirectory_keeps : Keeps P syncDirectory := Keeps.step fun _ hs => hs

/-- A unit command moves nothing. -/
lemma systemctl_keeps (u : Unmoved P) {args} : Keeps P (systemctl args) :=
  Keeps.step fun s hs => u s _ hs (Quiet.emit trivial)

/-- A report moves nothing. -/
lemma report_keeps (u : Unmoved P) {fields} : Keeps P (report fields) := by
  refine Keeps.bind (Keeps.step ?_) fun _ => Keeps.step ?_
  · intro s hs
    exact u s _ hs ⟨rfl, [], (List.append_nil _).symm, fun _ h => nomatch h⟩
  · intro s hs
    exact u s _ hs ⟨rfl, [], (List.append_nil _).symm, fun _ h => nomatch h⟩

/-- Asking for the metadata changes nothing. -/
lemma metadata_keeps : Keeps P metadata := Keeps.bind Keeps.ask fun _ => Keeps.ite Keeps.ask Keeps.raise

/-- Comparing with the target changes nothing. -/
lemma matchesTarget_keeps {target} : Keeps P (matchesTarget m target) := by
  refine Keeps.handle ?_ fun _ => Keeps.pure
  cases target with
  | legacy l =>
    refine Keeps.bind Keeps.ask fun _ => Keeps.ite ?_ Keeps.pure
    refine Keeps.bind Keeps.ask fun _ => Keeps.bind Keeps.look fun _ => Keeps.bind expect_keeps fun _ => ?_
    exact Keeps.bind Keeps.ask fun _ => Keeps.bind Keeps.ask fun _ => Keeps.pure
  | config c =>
    refine Keeps.bind metadata_keeps fun _ => Keeps.bind Keeps.look fun _ => ?_
    exact Keeps.bind expect_keeps fun _ => Keeps.bind expect_keeps fun _ => Keeps.pure

/-- A wait that returns has seen the server ready. -/
lemma wait_triple (u : Unmoved P) {target} :
    Triple P P (wait m target) fun _ s => ∃ t, P t ∧ Quiet t s ∧ s = t.emit (.ready target) := by
  refine Triple.keep Keeps.ask (fun _ hs => hs) fun _ => ?_
  refine Triple.keep Keeps.look (fun _ hs => hs) fun _ => ?_
  refine Triple.keep expect_keeps (fun _ hs => hs) fun _ => ?_
  refine Triple.poll (fun _ hs => hs) ?_
  refine Triple.keep Keeps.ask (fun _ hs => hs) fun _ => ?_
  refine Triple.ite (fun _ => ?_) fun _ => Triple.raise fun _ hs => hs
  refine Triple.keep matchesTarget_keeps (fun _ hs => hs) fun _ => ?_
  refine Triple.ite (fun _ => ?_) fun _ => Triple.pure fun _ hs => hs
  refine Triple.seq (fun _ s => ∃ t, P t ∧ Quiet t s ∧ s = t.emit (.ready target)) (Triple.step ?_)
    fun _ => Triple.pure fun _ hs => hs
  intro s hs
  have hq : Quiet s (s.emit (.ready target)) := Quiet.emit trivial
  exact ⟨hs, ⟨s, hs, hq, rfl⟩, u s _ hs hq⟩

/-- Waiting moves nothing. -/
lemma wait_keeps (u : Unmoved P) {target} : Keeps P (wait m target) := by
  refine (wait_triple u).conseq_post ?_
  rintro _ s ⟨t, ht, hq, rfl⟩
  exact u t _ ht hq

/-- A request changes nothing. -/
lemma fetch_keeps {url limit} : Keeps P (fetch url limit) := by
  refine Keeps.ite (Keeps.bind Keeps.ask fun _ => Keeps.ite (Keeps.ite Keeps.pure Keeps.raise) Keeps.raise)
    Keeps.raise

/-- Starting the service moves nothing. -/
lemma startService_keeps (u : Unmoved P) : Keeps P startService :=
  Keeps.bind (systemctl_keeps u) fun _ => Keeps.bind (systemctl_keeps u) fun _ => systemctl_keeps u

/-- `switch` leaves the link at `path`; a kill leaves the old link or the new one. -/
lemma switch_triple {path} (link : ∀ s p, P s → P { s with currentNew := p })
    (switched : ∀ s, P s → P ({ s with current := some path, currentNew := none }.emit
      (.switched path (s.dir m path)))) :
    Triple P P (switch m path) fun _ s => P s ∧ s.current = some path := by
  refine Triple.keep (Keeps.step fun s hs => link s none hs) (fun _ hs => hs) fun _ => ?_
  refine Triple.seq (fun _ s => P s ∧ s.currentNew = some path) (Triple.step ?_) fun _ => ?_
  · intro s hs
    exact ⟨hs, ⟨link s _ hs, rfl⟩, link s _ hs⟩
  refine Triple.seq (fun _ s => P s ∧ s.current = some path) (Triple.step ?_) fun _ => ?_
  · intro s hs
    obtain ⟨hP, hnew⟩ := hs
    rw [hnew]
    exact ⟨hP, ⟨switched s hP, rfl⟩, switched s hP⟩
  exact syncDirectory_keeps.conseq_inv fun _ hs => hs.1

end Procedures

section Rewind

variable {m : Machine} {tx : Transaction} {P : Host → Prop}

/-- A property that the file changes of a rollback keep. -/
structure RollbackClosed (m : Machine) (tx : Transaction) (P : Host → Prop) : Prop where
  unmoved : Unmoved P
  link : ∀ s p, P s → P { s with currentNew := p }
  switched : ∀ s, P s → P ({ s with current := some tx.previous, currentNew := none }.emit
    (.switched tx.previous (s.dir m tx.previous)))
  service : ∀ s b, P s → P { s with service := b }
  dropin : ∀ s d, P s → P { s with dropin := d }
  help : ∀ s args, P s → P (s.emit (.run (tx.previous ++ ["nf-server"])
    (s.nfServer m tx.previous) args))
  env : ∀ s e, P s → tx.previousEnv = some e → P ({ s with env := some e }.emit .envRestored)

/-- The files are those of the journal. -/
structure Rewound (tx : Transaction) (s : Host) : Prop where
  current : s.current = some tx.previous
  service : s.service = some tx.previousUnit
  managed : ∀ c d, tx.previousTarget = some (.config c) → tx.previousDropin = some d → s.dropin = d
  legacy : ∀ l, tx.previousTarget = some (.legacy l) →
    ∃ help text, legacyDropinText help l.dataDir = .ok text ∧ s.dropin = some text
  env : ∀ e, tx.previousEnv = some e → s.env = some e

/-- The recovery settings are read off the help text of the program. -/
lemma legacyDropin_triple {program file data}
    (help : ∀ s args, P s → P (s.emit (.run program (file s) args))) :
    Triple P P (legacyDropin program file data) fun text s =>
      P s ∧ ∃ help, legacyDropinText help data = .ok text := by
  refine Triple.keep (Keeps.act fun s _ hs => help s _ hs) (fun _ hs => hs) fun text => ?_
  cases hText : legacyDropinText text data with
  | ok bytes => exact Triple.pure fun _ hs => ⟨hs, text, hText⟩
  | error e => exact Triple.raise fun _ hs => hs

/-- The settings of before are restored or removed. -/
lemma restoreDropin_triple {d} (dropin : ∀ s d, P s → P { s with dropin := d }) :
    Triple P P (restoreDropin d) fun _ s => P s ∧ s.dropin = d := by
  cases d with
  | some bytes => exact Triple.step fun s hs => ⟨hs, ⟨dropin s _ hs, rfl⟩, dropin s _ hs⟩
  | none =>
    refine Triple.seq (fun b s => P s ∧ b = s.dropin.isSome) (Triple.look fun _ hs => hs) fun b => ?_
    refine Triple.ite (fun _ => ?_) fun hb => Triple.pure ?_
    · refine Triple.seq (fun _ s => P s ∧ s.dropin = none) (Triple.step ?_) fun _ => ?_
      · intro s hs
        exact ⟨hs.1, ⟨dropin s _ hs.1, rfl⟩, dropin s _ hs.1⟩
      · exact syncDirectory_keeps.conseq_inv fun _ hs => hs.1
    · intro s hs
      rw [hs.2, Option.not_isSome_iff_eq_none] at hb
      exact ⟨hs.1, hb⟩

/-- A rollback writes the settings of the previous program. -/
lemma rollbackDropin_triple
    (help : ∀ s args, P s → P (s.emit (.run (tx.previous ++ ["nf-server"])
      (s.nfServer m tx.previous) args)))
    (dropin : ∀ s d, P s → P { s with dropin := d }) :
    Triple P P (rollbackDropin m tx) fun _ s => P s ∧
      (∀ c d, tx.previousTarget = some (.config c) → tx.previousDropin = some d → s.dropin = d) ∧
      ∀ l, tx.previousTarget = some (.legacy l) →
        ∃ help text, legacyDropinText help l.dataDir = .ok text ∧ s.dropin = some text := by
  rw [rollbackDropin]
  cases hTarget : tx.previousTarget with
  | none => exact Triple.raise fun _ hs => hs
  | some target =>
    cases target with
    | legacy l =>
      refine Triple.bind (legacyDropin_triple help) fun text => Triple.step ?_
      intro s hs
      obtain ⟨hP, hText⟩ := hs
      refine ⟨hP, ⟨dropin s _ hP, (fun _ _ h => nomatch h), ?_⟩, dropin s _ hP⟩
      intro l' hl
      cases hl
      obtain ⟨help, hText⟩ := hText
      exact ⟨help, text, hText, rfl⟩
    | config c =>
      cases hDropin : tx.previousDropin with
      | none => exact Triple.pure fun _ hs => ⟨hs, (fun _ _ _ h => nomatch h), fun _ h => nomatch h⟩
      | some d =>
        refine (restoreDropin_triple dropin).conseq_post ?_
        intro _ s hs
        refine ⟨hs.1, ?_, fun _ h => nomatch h⟩
        intro _ d' _ hd
        cases hd
        exact hs.2

/-- A rollback restores the environment it saved. -/
lemma rollbackEnv_triple
    (env : ∀ s e, P s → tx.previousEnv = some e → P ({ s with env := some e }.emit .envRestored)) :
    Triple P P (rollbackEnv tx) fun _ s => P s ∧ ∀ e, tx.previousEnv = some e → s.env = some e := by
  rw [rollbackEnv]
  cases hEnv : tx.previousEnv with
  | none => exact Triple.pure fun _ hs => ⟨hs, fun _ h => nomatch h⟩
  | some e =>
    refine Triple.step ?_
    intro s hs
    refine ⟨hs, ⟨env s e hs hEnv, ?_⟩, env s e hs hEnv⟩
    intro e' he
    cases he
    rfl

/-- A rollback that gets through its file changes leaves the files of the journal. -/
lemma restorePrevious_triple (c : RollbackClosed m tx P) :
    Triple P P (restorePrevious m tx) fun _ s => P s ∧ Rewound tx s := by
  refine Triple.bind (switch_triple c.link c.switched) fun _ => ?_
  refine Triple.seq (fun _ s => P s ∧ s.current = some tx.previous ∧ s.service = some tx.previousUnit)
    (Triple.step ?_) fun _ => ?_
  · intro s hs
    exact ⟨hs.1, ⟨c.service s _ hs.1, hs.2, rfl⟩, c.service s _ hs.1⟩
  refine Triple.bind ((rollbackDropin_triple
    (fun s args hs => ⟨c.help s args hs.1, hs.2⟩)
    (fun s d hs => ⟨c.dropin s d hs.1, hs.2⟩)).conseq_inv fun _ hs => hs.1) fun _ => ?_
  refine ((rollbackEnv_triple ?_).conseq_inv fun _ hs => hs.1.1).conseq_post ?_
  · intro s e hs he
    obtain ⟨⟨hP, hrest⟩, hdrop⟩ := hs
    exact ⟨⟨c.env s e hP he, hrest⟩, hdrop⟩
  · intro _ s hs
    obtain ⟨⟨⟨hP, hcur, hsvc⟩, hmanaged, hlegacy⟩, henv⟩ := hs
    exact ⟨hP, hcur, hsvc, hmanaged, hlegacy, henv⟩

/-- A rewound host is unmoved. -/
lemma Rewound.unmoved : Unmoved (Rewound tx) := by
  intro s t h q
  refine ⟨q.current.trans h.current, q.service.trans h.service, ?_, ?_, ?_⟩
  · rw [q.dropin]
    exact h.managed
  · rw [q.dropin]
    exact h.legacy
  · rw [q.env]
    exact h.env

/-- A rollback that completes has rewound the files and then removed the journal. -/
lemma rollback_triple {Q : Host → Prop} (c : RollbackClosed m tx P) (uQ : Unmoved Q)
    (done : ∀ s, P s → Rewound tx s → tx.previousTarget.isSome → Q { s with transaction := none }) :
    Triple (fun s => P s ∨ Q s) P (rollback m tx) fun _ s => Q s := by
  refine Triple.keep (systemctl_keeps c.unmoved) (fun _ hs => .inl hs) fun _ => ?_
  refine Triple.bind ((restorePrevious_triple c).conseq_inv fun _ hs => .inl hs) fun _ => ?_
  have moved : Unmoved fun s => P s ∧ Rewound tx s := c.unmoved.and Rewound.unmoved
  refine Triple.keep (startService_keeps moved) (fun _ hs => .inl hs.1) fun _ => ?_
  refine Triple.bind (expect_triple fun _ hs => .inl hs.1) fun target => ?_
  refine Triple.keep (wait_keeps (moved.and fun _ _ h _ => h)) (fun _ hs => .inl hs.1.1) fun _ => ?_
  refine Triple.seq (fun _ => Q) (Triple.step ?_) fun _ => ?_
  · intro s hs
    obtain ⟨⟨hP, hrew⟩, htarget⟩ := hs
    have hQ := done s hP hrew (Option.isSome_of_eq_some htarget)
    exact ⟨.inl hP, hQ, .inr hQ⟩
  refine Triple.keep syncDirectory_keeps (fun _ hs => .inr hs) fun _ => ?_
  exact (report_keeps uQ).conseq_inv fun _ hs => .inr hs

end Rewind

section Activate

variable {m : Machine} {path : Path} {P P' : Host → Prop}

/-- A property `P` that the file changes of an activation keep until it rewrites the environment, and a
weaker one that holds from then on. -/
structure ActivateClosed (m : Machine) (path : Path) (P P' : Host → Prop) : Prop where
  unmoved : Unmoved P
  unmoved' : Unmoved P'
  weaken : ∀ s, P s → P' s
  link : ∀ s p, P s → P { s with currentNew := p }
  switched : ∀ s, P s → P ({ s with current := some path, currentNew := none }.emit
    (.switched path (s.dir m path)))
  service : ∀ s b, P s → P { s with service := b }
  dropin : ∀ s d, P s → P { s with dropin := d }
  release : ∀ s env text tag, P s → s.env = some env → releaseText tag env = some text →
    P' ({ s with env := some text }.emit (.released tag))

section Release

variable (weaken : ∀ s, P s → P' s)
  (release : ∀ s env text tag, P s → s.env = some env → releaseText tag env = some text →
    P' ({ s with env := some text }.emit (.released tag)))

include weaken release

/-- Setting the release is one step. -/
lemma setRelease_triple {tag} : Triple P' P (setRelease tag) fun _ => P' := by
  refine Triple.seq (fun e s => P s ∧ e = s.env) (Triple.look weaken) fun e => ?_
  cases e with
  | none => exact Triple.pure fun s hs => weaken s hs.1
  | some env =>
    refine Triple.bind (expect_triple fun s hs => weaken s hs.1) fun text => Triple.step ?_
    intro s hs
    obtain ⟨⟨hP, henv⟩, htext⟩ := hs
    have hrelease := release s env text tag hP henv.symm htext
    exact ⟨weaken s hP, hrelease, hrelease⟩

/-- And so is releasing the target. -/
lemma releaseTarget_triple : Triple P' P (releaseTarget m path) fun _ => P' := by
  refine Triple.keep Keeps.look weaken fun target => ?_
  cases target with
  | none => exact Triple.raise weaken
  | some target =>
    cases target with
    | legacy l => exact Triple.raise weaken
    | config c => exact setRelease_triple weaken release

end Release

/-- An activation body that returns has switched, installed its drop-in and seen its target ready. -/
lemma activateBody_triple (c : ActivateClosed m path P P') :
    Triple P' P (activateBody m path) fun _ s => ∃ t target, P' t ∧ t.current = some path ∧
      t.dropin = some managedDropin ∧ s = t.emit (.ready target) := by
  refine Triple.keep (systemctl_keeps c.unmoved) c.weaken fun _ => ?_
  refine Triple.bind ((switch_triple c.link c.switched).conseq_inv c.weaken) fun _ => ?_
  refine Triple.keep Keeps.look (fun s hs => c.weaken s hs.1) fun _ => ?_
  refine Triple.keep expect_keeps (fun s hs => c.weaken s hs.1) fun service => ?_
  refine Triple.seq (fun _ s => P s ∧ s.current = some path) (Triple.step ?_) fun _ => ?_
  · intro s hs
    have hservice := c.service s (some service) hs.1
    exact ⟨c.weaken s hs.1, ⟨hservice, hs.2⟩, c.weaken _ hservice⟩
  refine Triple.seq (fun _ s => P s ∧ s.current = some path ∧ s.dropin = some managedDropin)
    (Triple.step ?_) fun _ => ?_
  · intro s hs
    have hdropin := c.dropin s (some managedDropin) hs.1
    exact ⟨c.weaken s hs.1, ⟨hdropin, hs.2, rfl⟩, c.weaken _ hdropin⟩
  refine Triple.seq (fun _ s => P' s ∧ s.current = some path ∧ s.dropin = some managedDropin)
    ((releaseTarget_triple ?_ ?_).conseq_inv fun _ hs => hs.1) fun _ => ?_
  · intro s hs
    exact ⟨c.weaken s hs.1, hs.2⟩
  · intro s env text tag hs henv htext
    exact ⟨c.release s env text tag hs.1 henv htext, hs.2⟩
  have moved : Unmoved fun s => P' s ∧ s.current = some path ∧ s.dropin = some managedDropin := by
    intro s t hs q
    exact ⟨c.unmoved' s t hs.1 q, q.current.trans hs.2.1, q.dropin.trans hs.2.2⟩
  refine Triple.keep (startService_keeps moved) (fun _ hs => hs.1) fun _ => ?_
  refine Triple.keep Keeps.look (fun _ hs => hs.1) fun _ => ?_
  refine Triple.keep expect_keeps (fun _ hs => hs.1) fun target => ?_
  refine ((wait_triple moved).conseq_inv fun _ hs => hs.1).conseq_post ?_
  intro _ s hs
  obtain ⟨t, ⟨hP, hcur, hdrop⟩, _, rfl⟩ := hs
  exact ⟨t, target, hP, hcur, hdrop, rfl⟩

/-- The host as the journal is written. -/
def Host.journaled (s : Host) (m : Machine) (path : Path) (unit : Bytes) : Host :=
  { s.emit (.activating path s.transaction) with transaction := some (journal m s path unit) }.emit
    (.journaled (journal m s path unit) (s.dir m (s.resolveCurrent m)))

/-- What `rmtree` leaves of a directory: nothing, or some of its entries. -/
def Remains (before after : Option Generation) : Prop :=
  after = none ∨ ∃ k, after = before.map fun g => g.keep k

/-- What is to be shown of an activation from `s₀`: `B` holds while the journal is open and the
environment not yet rewritten, `B'` while the journal is open, `C` after a rollback and `D` after the
commit. -/
structure ActivationRules (m : Machine) (s₀ : Host) (path : Path) (B B' C D : Host → Prop) : Prop where
  start : ∀ unit, s₀.service = some unit → B (s₀.journaled m path unit)
  body : ActivateClosed m path B B'
  rollback : ∀ unit, s₀.service = some unit → RollbackClosed m (journal m s₀ path unit) B'
  rolledBack : ∀ unit s, s₀.service = some unit → B' s → Rewound (journal m s₀ path unit) s →
    (s₀.currentTarget m).isSome → C { s with transaction := none }
  previousJson : ∀ s p, B' s → B' { s with previousJson := p }
  commit : ∀ s t target, B' s → B' t → s.log = t.log ++ [.ready target] → s.current = some path →
    s.dropin = some managedDropin → D ({ s with transaction := none }.emit (.committed path))
  afterRollback : Unmoved C
  afterCommit : Unmoved D
  cleanup : ∀ s name g, D s → generation name ≠ s₀.resolveCurrent m → generation name ≠ path →
    Remains (s.dir m (generation name)) g → D (s.setDir m (generation name) g)

/-- Cleaning up removes generations other than the two. -/
lemma cleanup_keeps {previous} (dir : ∀ s name g, P s → generation name ≠ previous →
      generation name ≠ path → Remains (s.dir m (generation name)) g →
      P (s.setDir m (generation name) g)) : Keeps P (cleanup m previous path) := by
  refine Keeps.bind (Keeps.act fun _ _ hs => hs) fun names => Keeps.forEach fun name _ => ?_
  refine Triple.ite (fun _ => Keeps.pure) fun hne => ?_
  have hprev : generation name ≠ previous := fun h => hne (.inl h)
  have hpath : generation name ≠ path := fun h => hne (.inr h)
  exact Keeps.bind (Keeps.act fun s r hs => dir s name _ hs hprev hpath (.inr ⟨r.kept, rfl⟩)) fun _ =>
    Keeps.step fun s hs => dir s name _ hs hprev hpath (.inl rfl)

/-- Every end of an activation: before its journal, with the journal open, rolled back or committed. -/
lemma activate_triple {s₀ : Host} {B B' C D : Host → Prop} (r : ActivationRules m s₀ path B B' C D) :
    Triple (fun s => s = s₀ ∨ s = s₀.emit (.activating path s₀.transaction) ∨ B' s ∨ C s ∨ D s)
      (fun s => s = s₀) (activate m path) fun _ s => D s := by
  -- the journal is read off one state
  have reading : ∀ s, s = s₀.emit (.activating path s₀.transaction) →
      s = s₀ ∨ s = s₀.emit (.activating path s₀.transaction) ∨ B' s ∨ C s ∨ D s := fun _ h => .inr (.inl h)
  have isOpen : ∀ s, B' s →
      s = s₀ ∨ s = s₀.emit (.activating path s₀.transaction) ∨ B' s ∨ C s ∨ D s :=
    fun _ h => .inr (.inr (.inl h))
  have isDone : ∀ s, D s →
      s = s₀ ∨ s = s₀.emit (.activating path s₀.transaction) ∨ B' s ∨ C s ∨ D s :=
    fun _ h => .inr (.inr (.inr (.inr h)))
  refine Triple.seq (fun previous s => s = s₀.emit (.activating path s₀.transaction) ∧
    previous = s₀.resolveCurrent m) (Triple.act ?_) fun previous => ?_
  · intro s hs
    subst hs
    exact ⟨.inl rfl, fun _ => ⟨⟨rfl, rfl⟩, .inr (.inl rfl)⟩⟩
  refine Triple.bind (Triple.look fun _ hs => reading _ hs.1) fun service => ?_
  refine Triple.bind (expect_triple fun _ hs => reading _ hs.1.1) fun unit => ?_
  refine Triple.bind (Triple.look fun _ hs => reading _ hs.1.1.1) fun previousTarget => ?_
  refine Triple.bind (Triple.look fun _ hs => reading _ hs.1.1.1.1) fun dropin => ?_
  refine Triple.bind (Triple.look fun _ hs => reading _ hs.1.1.1.1.1) fun env => ?_
  refine Triple.seq (fun _ s => B s ∧ s₀.service = some unit ∧
    (⟨previous, path, unit, previousTarget, some dropin, env⟩ : Transaction) = journal m s₀ path unit)
    (Triple.step ?_) fun _ => ?_
  · intro s hs
    obtain ⟨⟨⟨⟨⟨⟨rfl, rfl⟩, hservice⟩, hunit⟩, rfl⟩, rfl⟩, rfl⟩ := hs
    have hservice : s₀.service = some unit := hservice.symm.trans hunit
    have hB := r.start unit hservice
    exact ⟨reading _ rfl, ⟨hB, hservice, rfl⟩, isOpen _ (r.body.weaken _ hB)⟩
  refine Triple.assume (fun _ hs => hs.2) fun hfix => ?_
  obtain ⟨hservice, htx⟩ := hfix
  rw [htx]
  refine Triple.conseq_pre ?_ fun _ hs => hs.1
  refine Triple.keep (report_keeps r.body.unmoved) (fun s hs => isOpen s (r.body.weaken s hs)) fun _ => ?_
  refine Triple.bind (Triple.handle (activateBody_triple r.body) isOpen fun e => ?_) fun _ => ?_
  · -- an exception rolls back and is raised again
    refine Triple.bind ((rollback_triple (r.rollback unit hservice) r.afterRollback
      (fun s => r.rolledBack unit s hservice)).conseq_inv ?_) fun _ => Triple.raise ?_
    · intro s hs
      rcases hs with hs | hs
      · exact isOpen s hs
      · exact .inr (.inr (.inr (.inl hs)))
    · intro s hs
      exact .inr (.inr (.inr (.inl hs)))
  refine Triple.seq (fun _ s => B' s ∧ (∃ t target, B' t ∧ s.log = t.log ++ [.ready target]) ∧
    s.current = some path ∧ s.dropin = some managedDropin) (Triple.step ?_) fun _ => ?_
  · intro s hs
    obtain ⟨t, target, hB, hcur, hdrop, rfl⟩ := hs
    have hready : B' (t.emit (.ready target)) := r.body.unmoved' t _ hB (Quiet.emit trivial)
    have hsaved := r.previousJson _ (some previous) hready
    exact ⟨isOpen _ hready, ⟨hsaved, ⟨t, target, hB, rfl⟩, hcur, hdrop⟩, isOpen _ hsaved⟩
  refine Triple.seq (fun _ s => D s) (Triple.step ?_) fun _ => ?_
  · intro s hs
    obtain ⟨hB, ⟨t, target, ht, hlog⟩, hcur, hdrop⟩ := hs
    have hD := r.commit s t target hB ht hlog hcur hdrop
    exact ⟨isOpen s hB, hD, isDone _ hD⟩
  refine Triple.keep syncDirectory_keeps isDone fun _ => ?_
  obtain rfl : previous = s₀.resolveCurrent m := congrArg Transaction.previous htx
  exact (cleanup_keeps r.cleanup).conseq_inv isDone

end Activate

end NullifierPir.Updater
