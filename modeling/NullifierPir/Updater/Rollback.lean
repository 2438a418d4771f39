import NullifierPir.Updater.Staging

/-!
# Rollback restores the host

An activation that is not committed is undone. `Restored m s₀ s` says that `current`, the unit, the
environment file and, unless the previous generation is a legacy one, the drop-in are those of `s₀`. From
the start of an activation on, and through any number of recoveries, the host is rolled back, or its
journal is open and describes `s₀`, or the activation has been committed (`Settled`); each of the steps in
between keeps this, so it holds wherever the process is killed.

Activations themselves start only without a journal (`runOnce_starts`): `once` begins with `recover`.
-/

namespace NullifierPir.Updater
open ByteString Killable
open Killable.Proc (act step look ask raise handle forEach poll)

variable {m : Machine} {s₀ : Host} {path : Path}

/-- The serving files of `s₀` are back. -/
structure Restored (m : Machine) (s₀ s : Host) : Prop where
  current : s.resolveCurrent m = s₀.resolveCurrent m
  service : s.service = s₀.service
  env : s.env = s₀.env
  dropin : (∀ l, s₀.currentTarget m ≠ some (.legacy l)) → s.dropin = s₀.dropin

/-- The journal is gone and the files are restored. -/
structure RolledBack (m : Machine) (s₀ s : Host) : Prop where
  transaction : s.transaction = none
  restored : Restored m s₀ s

/-- The journal of an activation from `s₀` is open. -/
structure Open (m : Machine) (s₀ : Host) (path : Path) (s : Host) : Prop where
  transaction : ∃ unit, s₀.service = some unit ∧ s.transaction = some (journal m s₀ path unit)
  env : s₀.env = none → s.env = none
  log : s₀.log <+: s.log

/-- The generation at `path` was seen ready and the journal removed. -/
structure Committed (s₀ : Host) (path : Path) (s : Host) : Prop where
  transaction : s.transaction = none
  current : s.current = some path
  dropin : s.dropin = some managedDropin
  log : ∃ new target, s.log = s₀.log ++ new ∧ .ready target ∈ new ∧ .committed path ∈ new

/-- Where an activation from `s₀` can stand. -/
def Settled (m : Machine) (s₀ : Host) (path : Path) (s : Host) : Prop :=
  RolledBack m s₀ s ∨ Open m s₀ path s ∨ Committed s₀ path s

/-- A host that is rolled back is unmoved. -/
lemma RolledBack.unmoved : Unmoved (RolledBack m s₀) := by
  intro s t h q
  refine ⟨q.transaction.trans h.transaction, q.resolveCurrent.trans h.restored.current,
    q.service.trans h.restored.service, q.env.trans h.restored.env, ?_⟩
  intro hl
  exact q.dropin.trans (h.restored.dropin hl)

/-- An open transaction is unmoved. -/
lemma Open.unmoved : Unmoved (Open m s₀ path) := by
  intro s t h q
  obtain ⟨new, hnew, _⟩ := q.log
  refine ⟨?_, ?_, ?_⟩
  · rw [q.transaction]
    exact h.transaction
  · rw [q.env]
    exact h.env
  · rw [hnew]
    exact h.log.trans (List.prefix_append _ _)

/-- A committed one is unmoved. -/
lemma Committed.unmoved : Unmoved (Committed s₀ path) := by
  intro s t h q
  obtain ⟨new, hnew, _⟩ := q.log
  obtain ⟨new', target, hlog, hready, hcommit⟩ := h.log
  refine ⟨q.transaction.trans h.transaction, q.current.trans h.current, q.dropin.trans h.dropin,
    new' ++ new, target, ?_, List.mem_append_left _ hready, List.mem_append_left _ hcommit⟩
  rw [hnew, hlog, List.append_assoc]

/-- Events do not close a transaction. -/
lemma Open.emit {s e} (h : Open m s₀ path s) : Open m s₀ path (s.emit e) :=
  ⟨h.transaction, h.env, h.log.trans (List.prefix_append _ _)⟩

/-- The steps of the rollback leave it open. -/
lemma Open.rollbackClosed {unit} :
    RollbackClosed m (journal m s₀ path unit) (Open m s₀ path) where
  unmoved := Open.unmoved
  link := fun _ _ h => ⟨h.transaction, h.env, h.log⟩
  switched := fun _ h => Open.emit ⟨h.transaction, h.env, h.log⟩
  service := fun _ _ h => ⟨h.transaction, h.env, h.log⟩
  dropin := fun _ _ h => ⟨h.transaction, h.env, h.log⟩
  help := fun _ _ h => h.emit
  env := by
    intro s e h he
    refine Open.emit ⟨h.transaction, ?_, h.log⟩
    intro hnone
    cases hnone.symm.trans he

/-- So do the steps of the activation. -/
lemma Open.activateClosed : ActivateClosed m path (Open m s₀ path) (Open m s₀ path) where
  unmoved := Open.unmoved
  unmoved' := Open.unmoved
  weaken := fun _ h => h
  link := fun _ _ h => ⟨h.transaction, h.env, h.log⟩
  switched := fun _ h => Open.emit ⟨h.transaction, h.env, h.log⟩
  service := fun _ _ h => ⟨h.transaction, h.env, h.log⟩
  dropin := fun _ _ h => ⟨h.transaction, h.env, h.log⟩
  release := by
    intro s env text tag h henv _
    refine Open.emit ⟨h.transaction, ?_, h.log⟩
    -- a missing environment file is not created
    intro hnone
    cases (h.env hnone).symm.trans henv

/-- The files of the journal of `s₀` are those of `s₀`. -/
lemma Open.restored {unit s} (hservice : s₀.service = some unit) (h : Open m s₀ path s)
    (rewound : Rewound (journal m s₀ path unit) s) (htarget : (s₀.currentTarget m).isSome) :
    RolledBack m s₀ { s with transaction := none } := by
  obtain ⟨target, htarget⟩ := Option.isSome_iff_exists.mp htarget
  obtain ⟨p, hp, _⟩ := Option.bind_eq_some_iff.mp htarget
  refine ⟨rfl, ?_, rewound.service.trans hservice.symm, ?_, ?_⟩
  · have hcur : s₀.resolveCurrent m = m.resolve p := by rw [Host.resolveCurrent, hp]
    calc Host.resolveCurrent m { s with transaction := none }
        = m.resolve (s₀.resolveCurrent m) := by
          rw [Host.resolveCurrent, rewound.current]
          rfl
      _ = s₀.resolveCurrent m := by rw [hcur, m.resolve_resolve]
  · cases henv : s₀.env with
    | none => exact h.env henv
    | some e => exact rewound.env e henv
  · intro hlegacy
    cases target with
    | legacy l => exact absurd htarget (hlegacy l)
    | config c => exact rewound.managed c s₀.dropin htarget rfl

/-- The rules of the activation under its journal. -/
lemma activationRules :
    ActivationRules m s₀ path (Open m s₀ path) (Open m s₀ path) (RolledBack m s₀)
      (Committed s₀ path) where
  start := by
    intro unit hservice
    refine ⟨⟨unit, hservice, rfl⟩, fun h => h, ?_⟩
    exact (List.prefix_append _ _).trans (List.prefix_append _ _)
  body := Open.activateClosed
  rollback := fun _ _ => Open.rollbackClosed
  rolledBack := fun _ _ hservice h => h.restored hservice
  previousJson := fun _ _ h => ⟨h.transaction, h.env, h.log⟩
  commit := by
    intro s t target hs ht hlog hcur hdrop
    obtain ⟨new, hnew⟩ := ht.log
    refine ⟨rfl, hcur, hdrop, new ++ [.ready target] ++ [.committed path], target, ?_, by simp, by simp⟩
    rw [Host.emit, hlog, ← hnew]
    simp only [List.append_assoc]
  afterRollback := RolledBack.unmoved
  afterCommit := Committed.unmoved
  cleanup := fun _ _ _ h _ _ _ => ⟨h.transaction, h.current, h.dropin, h.log⟩

/-- Without a journal at the start, every end of an activation is settled. -/
lemma activate_settled (h₀ : s₀.transaction = none) (w) : Settled m s₀ path (activate m path s₀ w).state := by
  have unchanged : Restored m s₀ s₀ := ⟨rfl, rfl, rfl, fun _ => rfl⟩
  refine Triple.all ((activate_triple activationRules).conseq_inv ?_) ?_ rfl w
  · intro s hs
    rcases hs with rfl | rfl | h | h | h
    · exact .inl ⟨h₀, unchanged⟩
    · exact .inl ⟨h₀, ⟨rfl, rfl, rfl, fun _ => rfl⟩⟩
    · exact .inr (.inl h)
    · exact .inl h
    · exact .inr (.inr h)
  · intro _ s h
    exact .inr (.inr h)

/-- A settled host with a journal has an open transaction. -/
lemma Settled.open_of_transaction {s tx} (h : Settled m s₀ path s) (htx : s.transaction = some tx) :
    Open m s₀ path s := by
  rcases h with h | h | h
  · cases h.transaction.symm.trans htx
  · exact h
  · cases h.transaction.symm.trans htx

/-- A recovery that returns with the journal open has rolled back. -/
lemma recover_open : Triple (Settled m s₀ path) (Open m s₀ path) (recover m) fun _ => RolledBack m s₀ := by
  refine Triple.bind (Triple.look fun _ hs => .inr (.inl hs)) fun tx => ?_
  have hopen : ∀ s, Open m s₀ path s ∧ tx = s.transaction →
      ∃ unit, s₀.service = some unit ∧ tx = some (journal m s₀ path unit) := by
    intro s hs
    obtain ⟨unit, hservice, htx⟩ := hs.1.transaction
    exact ⟨unit, hservice, hs.2.trans htx⟩
  refine Triple.assume hopen fun hopen => ?_
  obtain ⟨unit, hservice, rfl⟩ := hopen
  refine ((rollback_triple Open.rollbackClosed RolledBack.unmoved
    fun s h => h.restored hservice).conseq_pre fun _ hs => hs.1).conseq_inv ?_
  intro s hs
  rcases hs with h | h
  · exact .inr (.inl h)
  · exact .inl h

/-- A recovery, however it ends, leaves the activation settled. -/
lemma recover_settled : Keeps (Settled m s₀ path) (recover m) := by
  refine Triple.of_each ?_
  intro s hs
  cases htx : s.transaction with
  | none =>
    refine Triple.seq (fun tx t => t = s ∧ tx = none) ((Triple.look ?_).conseq_post ?_) fun tx => ?_
    · intro t ht
      exact ht ▸ hs
    · intro tx t ht
      obtain ⟨rfl, rfl⟩ := ht
      exact ⟨rfl, htx⟩
    · refine Triple.assume (fun _ h => h.2) fun h => ?_
      subst h
      refine Triple.pure ?_
      intro t ht
      exact ht.1 ▸ hs
  | some tx =>
    refine (recover_open.conseq_pre ?_).conseq_post fun _ _ h => .inl h
    intro t ht
    exact ht ▸ hs.open_of_transaction htx

section Starts

variable {t : Host}

/-- The activations started since `t` have started without a journal. -/
def Starts (t s : Host) : Prop :=
  ∃ new, s.log = t.log ++ new ∧ ∀ p tx, .activating p tx ∈ new → tx = none

/-- An activation starts without a journal. -/
lemma Starts.emit {s e} (h : Starts t s) (he : ∀ p tx, e = .activating p tx → tx = none) :
    Starts t (s.emit e) := by
  obtain ⟨new, hlog, hnew⟩ := h
  refine ⟨new ++ [e], ?_, ?_⟩
  · rw [Host.emit, hlog, List.append_assoc]
  · intro p tx hmem
    rcases List.mem_append.mp hmem with hmem | hmem
    · exact hnew p tx hmem
    · exact he p tx (List.mem_singleton.mp hmem).symm

/-- Starting so is unmoved. -/
lemma Starts.unmoved : Unmoved (Starts t) := by
  intro s u h q
  obtain ⟨new, hlog, hnew⟩ := h
  obtain ⟨new', hlog', hquiet⟩ := q.log
  refine ⟨new ++ new', ?_, ?_⟩
  · rw [hlog', hlog, List.append_assoc]
  · intro p tx hmem
    rcases List.mem_append.mp hmem with hmem | hmem
    · exact hnew p tx hmem
    · exact (hquiet _ hmem).elim

/-- The steps of the rollback start nothing. -/
lemma Starts.rollbackClosed {tx} : RollbackClosed m tx (Starts t) where
  unmoved := Starts.unmoved
  link := fun _ _ h => h
  switched := fun _ h => Starts.emit h fun _ _ h => nomatch h
  service := fun _ _ h => h
  dropin := fun _ _ h => h
  help := fun _ _ h => h.emit fun _ _ h => nomatch h
  env := fun _ _ h _ => Starts.emit h fun _ _ h => nomatch h

/-- The steps of the activation start nothing. -/
lemma Starts.activateClosed : ActivateClosed m path (Starts t) (Starts t) where
  unmoved := Starts.unmoved
  unmoved' := Starts.unmoved
  weaken := fun _ h => h
  link := fun _ _ h => h
  switched := fun _ h => Starts.emit h fun _ _ h => nomatch h
  service := fun _ _ h => h
  dropin := fun _ _ h => h
  release := fun _ _ _ _ h _ _ => Starts.emit h fun _ _ h => nomatch h

/-- An activation without a journal in place starts so. -/
lemma Starts.activationRules {s} (h : Starts t s) (htx : s.transaction = none) :
    ActivationRules m s path (Starts t) (Starts t) (Starts t) (Starts t) where
  start := by
    intro unit _
    have hstart : Starts t (s.emit (.activating path s.transaction)) := h.emit fun p tx he => by
      cases he
      exact htx
    exact Starts.emit hstart fun _ _ h => nomatch h
  body := Starts.activateClosed
  rollback := fun _ _ => Starts.rollbackClosed
  rolledBack := fun _ _ _ h _ _ => h
  previousJson := fun _ _ h => h
  commit := fun _ _ _ h _ _ _ _ => Starts.emit h fun _ _ h => nomatch h
  afterRollback := Starts.unmoved
  afterCommit := Starts.unmoved
  cleanup := fun _ _ _ h _ _ _ => h

/-- A recovery removes the journal. -/
lemma recover_starts : Triple (Starts t) (Starts t) (recover m) fun _ s =>
    Starts t s ∧ s.transaction = none := by
  have moved : Unmoved fun s => Starts t s ∧ s.transaction = none :=
    Starts.unmoved.and fun _ _ h q => q.transaction.trans h
  refine Triple.bind (Triple.look fun _ hs => hs) fun tx => ?_
  cases tx with
  | none => exact Triple.pure fun _ hs => ⟨hs.1, hs.2.symm⟩
  | some tx =>
    refine ((rollback_triple Starts.rollbackClosed moved fun _ h _ _ => ⟨h, rfl⟩).conseq_pre
      fun _ hs => hs.1).conseq_inv ?_
    intro s hs
    rcases hs with h | h
    · exact h
    · exact h.1

/-- An activation behind it starts without one. -/
lemma activate_starts : Triple (Starts t) (fun s => Starts t s ∧ s.transaction = none)
    (activate m path) fun _ => Starts t := by
  refine Triple.of_each fun s hs => (activate_triple (hs.1.activationRules hs.2)).conseq_inv ?_
  intro u hu
  rcases hu with rfl | rfl | h | h | h
  · exact hs.1
  · exact hs.1.emit fun p tx he => by
      cases he
      exact hs.2
  · exact h
  · exact h
  · exact h

/-- Staging writes no journal. -/
lemma stageAndActivate_starts {id v} : Triple (Starts t) (fun s => Starts t s ∧ s.transaction = none)
    (stageAndActivate m id v) fun _ => Starts t := by
  have moved : Unmoved fun s => Starts t s ∧ s.transaction = none :=
    Starts.unmoved.and fun _ _ h q => q.transaction.trans h
  have closed : StageClosed m (generation id) v fun s => Starts t s ∧ s.transaction = none :=
    ⟨moved, fun _ _ h => h, fun _ _ _ h _ => ⟨h.1.emit (fun _ _ h => nomatch h), h.2⟩⟩
  refine Triple.bind ((stage_triple closed).conseq (fun _ hs => hs) (fun _ hs => hs.1)
    fun _ _ hs => hs.1) fun path => ?_
  refine Triple.bind ((target_triple moved).conseq_inv fun _ hs => hs.1) fun latest => ?_
  refine Triple.conseq_pre ?_ fun _ hs => hs.1
  refine Triple.ite (fun _ => ?_) fun _ => ?_
  · exact Triple.bind activate_starts fun _ => Triple.pure fun _ hs => hs
  · refine Triple.conseq_pre (Keeps.bind ?_ fun _ => ?_) fun s (hs : Starts t s ∧ _) => hs.1
    · exact rmtree_triple fun _ _ h => h
    · exact Keeps.bind (report_keeps Starts.unmoved) fun _ => Keeps.pure

/-- No run of the updater starts an activation while a journal is there. -/
lemma runOnce_starts {force w} : Starts t (runOnce m force t w).state := by
  have moved : Unmoved fun s => Starts t s ∧ s.transaction = none :=
    Starts.unmoved.and fun _ _ h q => q.transaction.trans h
  refine Keeps.run (runOnce_keeps Starts.unmoved moved (fun _ h => h.1) recover_starts ?_) ?_ w
  · exact fun id v => stageAndActivate_starts.conseq_pre fun _ hs => hs.1
  · exact ⟨[], (List.append_nil _).symm, fun _ _ h => nomatch h⟩

end Starts

/-- An activation from `s₀` that returns, raises or is killed at any step, followed by any number of
recoveries that return, raise or are killed at any step: the journal, while it is there, is that of `s₀`; it is
removed only with the host restored or the activation committed; a recovery that completes with it
restores the host; and no run of the updater starts an activation while it is there. -/
theorem rollback_restores (h₀ : s₀.transaction = none) {w t}
    (attempts : Attempts (recover m) (activate m path s₀ w).state t) :
    (∀ tx, t.transaction = some tx → ∃ unit, s₀.service = some unit ∧ tx = journal m s₀ path unit) ∧
    (t.transaction = none → Restored m s₀ t ∨ Committed s₀ path t) ∧
    (∀ w', t.transaction ≠ none → (recover m t w').ending = .ret () →
      (recover m t w').state.transaction = none ∧ Restored m s₀ (recover m t w').state) ∧
    ∀ force w', ∃ new, (runOnce m force t w').state.log = t.log ++ new ∧
      ∀ p tx, .activating p tx ∈ new → tx = none := by
  have settled := recover_settled.attempts (activate_settled h₀ w) attempts
  refine ⟨?_, ?_, ?_, fun force w' => runOnce_starts⟩
  · intro tx htx
    obtain ⟨unit, hservice, hopen⟩ := (settled.open_of_transaction htx).transaction
    exact ⟨unit, hservice, Option.some.inj (htx.symm.trans hopen)⟩
  · intro hnone
    rcases settled with h | h | h
    · exact .inl h.restored
    · obtain ⟨_, _, hopen⟩ := h.transaction
      cases hnone.symm.trans hopen
    · exact .inr h
  · intro w' htx hret
    obtain ⟨tx, htx⟩ := Option.ne_none_iff_exists'.mp htx
    have done := recover_open.ret (settled.open_of_transaction htx) hret
    exact ⟨done.transaction, done.restored⟩

/-- A host without further links and with one hash for everything. -/
def sampleMachine : Machine where
  resolve := id
  resolve_resolve := fun _ => rfl
  resolve_generation := fun _ _ h => generation_injective h
  sha256 := fun _ => "00"
  sha256_hex := by
    intro _ c hc
    obtain rfl : c = '0' := by simpa using hc
    decide
  dumps := fun _ => "v"
  manifestSizes := fun _ => none
  machine := "x86_64"

/-- Generation `a` is current, generation `b` is staged. -/
def sampleHost : Host where
  current := some (generation "a")
  service := some [1]
  env := some []
  selfSettings := some { network := some "main" }
  dirs := fun p =>
    if p = generation "a" then some { target := some (.config ⟨1, 5, "v1"⟩) }
    else if p = generation "b" then
      some { service := some [2], target := some (.config ⟨1, 6, "v2"⟩) }
    else none

/-- The activation of `b` is killed right after it has switched, and a recovery that finds the old server
ready restores the host. -/
theorem rollback_restores_after_switch :
    ∃ w w', (activate sampleMachine (generation "b") sampleHost w).state.current = some (generation "b") ∧
      Restored sampleMachine sampleHost
        (recover sampleMachine (activate sampleMachine (generation "b") sampleHost w).state w').state := by
  have hrun := @rollback_restores sampleMachine sampleHost (generation "b") rfl
    (List.replicate 12 (.ok {})) _ Relation.ReflTransGen.refl
  exact ⟨_, List.replicate 23 (.ok { metadata := ⟨"v1", 5, "main"⟩ }), rfl,
    (hrun.2.2.1 _ (by decide) rfl).2⟩

end NullifierPir.Updater
