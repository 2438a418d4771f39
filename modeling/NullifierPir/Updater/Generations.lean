import NullifierPir.Updater.Staging

/-!
# Generations survive and are authentic

Over every sequence of updater runs the generation that `current` points at is on disk with authenticated
artifacts, and while a journal is open so is the generation it would roll back to, with the files it had
when the journal was written (`Alive`). Executed and switched-to files carry the hashes of an accepted
payload (`Vouched`). The three removals (of a stale staging directory, of a staged generation after the
target has changed, of old generations after a commit) are each of a generation that is neither.
-/

namespace NullifierPir.Updater
open ByteString Killable
open Killable.Proc (act step look ask raise handle forEach poll)

/-- The generation is on disk with the artifacts of an accepted update. -/
def Sound (m : Machine) (name : String) (s : Host) : Prop :=
  ∃ v g, .accepted v ∈ s.log ∧ name = identity m v ∧ s.dir m (generation name) = some g ∧
    Authentic m v g

/-- An executed or switched-to file is authentic for an accepted update of that identity. -/
def Vouched (m : Machine) (log : List Event) : Event → Prop
  | .run program file _ => ∃ v bytes, .accepted v ∈ log ∧
      program = generation (identity m v) ++ ["nf-server"] ∧ file = some bytes ∧
      m.linuxSha256 v.payload = some (m.sha256 bytes)
  | .switched path files => ∃ v g, .accepted v ∈ log ∧ path = generation (identity m v) ∧
      files = some g ∧ Authentic m v g
  | _ => True

def Event.IsJournal : Event → Prop
  | .journaled _ _ => True
  | _ => False

/-- The previous generation has the files it had when the journal was written. -/
def Pinned (m : Machine) (tx : Transaction) (s : Host) : Prop :=
  ∃ before g after, s.log = before ++ .journaled tx (some g) :: after ∧
    (∀ e ∈ after, ¬ e.IsJournal) ∧ s.dir m tx.previous = some g

/-- The live and the rollback generation are on disk, and what ran was authentic. -/
structure Alive (m : Machine) (s : Host) : Prop where
  current : ∃ name, s.current = some (generation name) ∧ Sound m name s
  previous : ∀ tx, s.transaction = some tx →
    Pinned m tx s ∧ ∃ name, tx.previous = generation name ∧ Sound m name s
  vouched : ∀ e ∈ s.log, Vouched m s.log e

variable {m : Machine} {s t : Host} {name : String}

/-- A generation stays sound while its directory does and the log grows. -/
lemma Sound.mono (h : Sound m name s) (hlog : s.log ⊆ t.log)
    (hdir : t.dir m (generation name) = s.dir m (generation name)) : Sound m name t := by
  obtain ⟨v, g, haccepted, hname, hg, hauth⟩ := h
  exact ⟨v, g, hlog haccepted, hname, hdir.trans hg, hauth⟩

/-- An event stays vouched for. -/
lemma Vouched.mono {log log' : List Event} {e} (h : Vouched m log e) (hlog : log ⊆ log') :
    Vouched m log' e := by
  cases e with
  | run program file args =>
    obtain ⟨v, bytes, haccepted, hrest⟩ := h
    exact ⟨v, bytes, hlog haccepted, hrest⟩
  | switched path files =>
    obtain ⟨v, g, haccepted, hrest⟩ := h
    exact ⟨v, g, hlog haccepted, hrest⟩
  | _ => trivial

/-- The log grows by events that are vouched for and write no journal. -/
def Harmless (m : Machine) (s t : Host) : Prop :=
  ∃ new, t.log = s.log ++ new ∧ ∀ e ∈ new, Vouched m s.log e ∧ ¬ e.IsJournal

/-- Nothing that happens is harmless. -/
lemma Harmless.refl (hlog : t.log = s.log) : Harmless m s t :=
  ⟨[], hlog.trans (List.append_nil _).symm, fun _ h => nomatch h⟩

/-- A vouched event outside the journal is harmless. -/
lemma Harmless.emit {e} (hlog : t.log = s.log ++ [e]) (hv : Vouched m s.log e) (hj : ¬ e.IsJournal) :
    Harmless m s t := by
  refine ⟨[e], hlog, ?_⟩
  intro e' he
  rw [List.mem_singleton.mp he]
  exact ⟨hv, hj⟩

/-- A harmless stretch only adds events. -/
lemma Harmless.subset (h : Harmless m s t) : s.log ⊆ t.log := by
  obtain ⟨new, hlog, _⟩ := h
  rw [hlog]
  exact List.subset_append_left _ _

/-- A quiet stretch is harmless. -/
lemma Quiet.harmless (q : Quiet s t) : Harmless m s t := by
  obtain ⟨new, hlog, hquiet⟩ := q.log
  refine ⟨new, hlog, ?_⟩
  intro e he
  have := hquiet e he
  cases e with
  | systemctl _ => exact ⟨trivial, fun h => h⟩
  | accepted _ => exact ⟨trivial, fun h => h⟩
  | ready _ => exact ⟨trivial, fun h => h⟩
  | _ => cases this

/-- The generation of the journal stays pinned. -/
lemma Pinned.mono {tx} (h : Pinned m tx s) (harmless : Harmless m s t)
    (hdir : t.dir m tx.previous = s.dir m tx.previous) : Pinned m tx t := by
  obtain ⟨before, g, after, hlog, hafter, hg⟩ := h
  obtain ⟨new, hnew, hev⟩ := harmless
  refine ⟨before, g, after ++ new, ?_, ?_, hdir.trans hg⟩
  · rw [hnew, hlog, List.append_assoc, List.cons_append]
  · intro e he
    rcases List.mem_append.mp he with he | he
    · exact hafter e he
    · exact (hev e he).2

/-- A harmless stretch keeps all events vouched for. -/
lemma Harmless.vouched (harmless : Harmless m s t) (h : ∀ e ∈ s.log, Vouched m s.log e) :
    ∀ e ∈ t.log, Vouched m t.log e := by
  intro e he
  have hsub := harmless.subset
  obtain ⟨new, hlog, hnew⟩ := harmless
  rw [hlog] at he
  rcases List.mem_append.mp he with he | he
  · exact (h e he).mono hsub
  · exact (hnew e he).1.mono hsub

/-- A change outside the generations: the link may move to a sound generation and the journal go. -/
lemma Alive.move (h : Alive m s) (harmless : Harmless m s t) (hdirs : t.dirs = s.dirs)
    (htx : t.transaction = s.transaction ∨ t.transaction = none)
    (hcur : t.current = s.current ∨ ∃ name, t.current = some (generation name) ∧ Sound m name s) :
    Alive m t := by
  have hdir : ∀ p, t.dir m p = s.dir m p := by
    intro p
    rw [Host.dir, Host.dir, hdirs]
  refine ⟨?_, ?_, harmless.vouched h.vouched⟩
  · obtain ⟨name, hname, hsound⟩ : ∃ name, t.current = some (generation name) ∧ Sound m name s := by
      rcases hcur with hcur | hcur
      · rw [hcur]
        exact h.current
      · exact hcur
    exact ⟨name, hname, hsound.mono harmless.subset (hdir _)⟩
  · intro tx hsome
    rcases htx with htx | htx
    · obtain ⟨hpinned, name, hname, hsound⟩ := h.previous tx (htx.symm.trans hsome)
      exact ⟨hpinned.mono harmless (hdir _), name, hname, hsound.mono harmless.subset (hdir _)⟩
    · cases htx.symm.trans hsome

/-- Being alive is unmoved. -/
lemma Alive.unmoved : Unmoved (Alive m) := by
  intro s t h q
  exact h.move q.harmless q.dirs (.inl q.transaction) (.inl q.current)

/-- Being sound is unmoved. -/
lemma Sound.unmoved : Unmoved (Sound m name) := by
  intro s t h q
  have harmless : Harmless m s t := q.harmless
  exact h.mono harmless.subset q.dir

section Links

/-- `ROOT` holds no link besides `current`. -/
def Plain (m : Machine) : Prop := ∀ name, m.resolve (generation name) = generation name

variable (plain : Plain m)

include plain

/-- The current link resolves to its generation. -/
lemma resolveCurrent_eq (hcur : s.current = some (generation name)) :
    s.resolveCurrent m = generation name := by
  rw [Host.resolveCurrent, hcur]
  exact plain name

/-- Writing a generation leaves the others alone. -/
lemma dir_setDir_of_ne {other g} (hne : name ≠ other) :
    (s.setDir m (generation other) g).dir m (generation name) = s.dir m (generation name) := by
  have : generation name ≠ generation other := fun h => hne (generation_injective h)
  rw [Host.dir, Host.dir, Host.setDir, plain name, plain other]
  exact Function.update_of_ne this _ _

/-- And so they stay sound. -/
lemma Sound.setDir {other g} (h : Sound m name s) (hne : name ≠ other) :
    Sound m name (s.setDir m (generation other) g) :=
  h.mono (fun _ he => he) (dir_setDir_of_ne plain hne)

/-- Without a journal every generation but the live one may change. -/
lemma Alive.setDir {other g} (h : Alive m s) (htx : s.transaction = none)
    (hne : ∀ name, s.current = some (generation name) → name ≠ other) :
    Alive m (s.setDir m (generation other) g) := by
  obtain ⟨name, hname, hsound⟩ := h.current
  refine ⟨⟨name, hname, hsound.setDir plain (hne name hname)⟩, ?_, h.vouched⟩
  intro tx hsome
  cases htx.symm.trans hsome

end Links

section Activation

variable {old new : String}

/-- An activation is open between two sound generations. -/
structure Between (m : Machine) (old new : String) (s : Host) : Prop where
  alive : Alive m s
  old : Sound m old s
  new : Sound m new s

/-- The new generation is live and there is no journal. -/
structure Installed (m : Machine) (new : String) (s : Host) : Prop where
  alive : Alive m s
  transaction : s.transaction = none
  current : s.current = some (generation new)

/-- Between two generations a harmless stretch may switch to a sound one. -/
lemma Between.move (h : Between m old new s) (harmless : Harmless m s t) (hdirs : t.dirs = s.dirs)
    (htx : t.transaction = s.transaction)
    (hcur : t.current = s.current ∨ ∃ name, t.current = some (generation name) ∧ Sound m name s) :
    Between m old new t := by
  have hdir : ∀ p, t.dir m p = s.dir m p := by
    intro p
    rw [Host.dir, Host.dir, hdirs]
  exact ⟨h.alive.move harmless hdirs (.inl htx) hcur, h.old.mono harmless.subset (hdir _),
    h.new.mono harmless.subset (hdir _)⟩

/-- A switch to a sound generation is vouched for. -/
lemma Sound.switched (h : Sound m name s) :
    Vouched m s.log (.switched (generation name) (s.dir m (generation name))) := by
  obtain ⟨v, g, haccepted, rfl, hg, hauth⟩ := h
  exact ⟨v, g, haccepted, rfl, hg, hauth⟩

/-- A run of a sound generation is vouched for. -/
lemma Sound.run {args} (h : Sound m name s) : Vouched m s.log (.run (generation name ++ ["nf-server"])
    (s.nfServer m (generation name)) args) := by
  obtain ⟨v, g, haccepted, rfl, hg, hauth⟩ := h
  obtain ⟨bytes, hbytes, hhash⟩ := hauth.nfServer
  refine ⟨v, bytes, haccepted, rfl, ?_, hhash⟩
  rw [Host.nfServer, hg]
  exact hbytes

/-- Being between two generations is unmoved. -/
lemma Between.unmoved : Unmoved (Between m old new) := by
  intro s t h q
  exact h.move q.harmless q.dirs q.transaction (.inl q.current)

/-- The steps of an activation stay between the two. -/
lemma Between.activateClosed : ActivateClosed m (generation new) (Between m old new) (Between m old new) where
  unmoved := Between.unmoved
  unmoved' := Between.unmoved
  weaken := fun _ h => h
  link := fun _ _ h => h.move (.refl rfl) rfl rfl (.inl rfl)
  switched := fun _ h => h.move (.emit rfl h.new.switched fun h => h) rfl rfl (.inr ⟨new, rfl, h.new⟩)
  service := fun _ _ h => h.move (.refl rfl) rfl rfl (.inl rfl)
  dropin := fun _ _ h => h.move (.refl rfl) rfl rfl (.inl rfl)
  release := fun _ _ _ _ h _ _ => h.move (.emit rfl trivial fun h => h) rfl rfl (.inl rfl)

/-- So do the steps of its rollback. -/
lemma Between.rollbackClosed {tx : Transaction} (htx : tx.previous = generation old) :
    RollbackClosed m tx (Between m old new) where
  unmoved := Between.unmoved
  link := fun _ _ h => h.move (.refl rfl) rfl rfl (.inl rfl)
  switched := by
    intro s h
    rw [htx]
    exact h.move (.emit rfl h.old.switched fun h => h) rfl rfl (.inr ⟨old, rfl, h.old⟩)
  service := fun _ _ h => h.move (.refl rfl) rfl rfl (.inl rfl)
  dropin := fun _ _ h => h.move (.refl rfl) rfl rfl (.inl rfl)
  help := by
    intro s args h
    rw [htx]
    exact h.move (.emit rfl h.old.run fun h => h) rfl rfl (.inl rfl)
  env := fun _ _ h _ => h.move (.emit rfl trivial fun h => h) rfl rfl (.inl rfl)

/-- The journal of an activation pins the live generation. -/
lemma Alive.journaled {unit} (plain : Plain m) (h : Alive m s) (hcur : s.current = some (generation old))
    (hold : Sound m old s) (hnew : Sound m new s) :
    Between m old new (s.journaled m (generation new) unit) := by
  have hprev : s.resolveCurrent m = generation old := resolveCurrent_eq plain hcur
  have hsub : s.log ⊆ (s.journaled m (generation new) unit).log := by
    intro e he
    exact List.mem_append_left _ (List.mem_append_left _ he)
  have hold' : Sound m old (s.journaled m (generation new) unit) := hold.mono hsub rfl
  refine ⟨⟨⟨old, hcur, hold'⟩, ?_, ?_⟩, hold', hnew.mono hsub rfl⟩
  · intro tx htx
    obtain rfl := Option.some.inj htx
    obtain ⟨v, g, _, _, hg, _⟩ := hold
    refine ⟨⟨s.log ++ [.activating (generation new) s.transaction], g, [], ?_, (fun _ h => nomatch h), ?_⟩,
      old, hprev, hold'⟩
    · rw [Host.journaled, hprev, hg]
      rfl
    · exact (congrArg (s.dir m) hprev).trans hg
  · intro e he
    rcases List.mem_append.mp he with he | he
    · rcases List.mem_append.mp he with he | he
      · exact (h.vouched e he).mono hsub
      · rw [List.mem_singleton.mp he]
        trivial
    · rw [List.mem_singleton.mp he]
      trivial

/-- The rules of the activation for a host that is alive. -/
lemma Alive.activationRules (plain : Plain m) (h : Alive m s) (hcur : s.current = some (generation old))
    (hold : Sound m old s) (hnew : Sound m new s) :
    ActivationRules m s (generation new) (Between m old new) (Between m old new)
      (fun s => Alive m s ∧ s.transaction = none) (Installed m new) where
  start := fun _ _ => h.journaled plain hcur hold hnew
  body := Between.activateClosed
  rollback := fun _ _ => Between.rollbackClosed (resolveCurrent_eq plain hcur)
  rolledBack := fun _ _ _ h _ _ => ⟨h.alive.move (.refl rfl) rfl (.inr rfl) (.inl rfl), rfl⟩
  previousJson := fun _ _ h => h.move (.refl rfl) rfl rfl (.inl rfl)
  commit := fun _ _ _ h _ _ hcur _ =>
    ⟨h.alive.move (.emit rfl trivial fun h => h) rfl (.inr rfl) (.inl rfl), rfl, hcur⟩
  afterRollback := Alive.unmoved.and fun _ _ h q => q.transaction.trans h
  afterCommit := fun _ _ h q =>
    ⟨Alive.unmoved _ _ h.alive q, q.transaction.trans h.transaction, q.current.trans h.current⟩
  cleanup := by
    intro s name g h _ hname _
    refine ⟨h.alive.setDir plain h.transaction ?_, h.transaction, h.current⟩
    rintro live hlive rfl
    -- the live generation is the one that was activated
    exact hname (Option.some.inj (hlive.symm.trans h.current))

end Activation

section Runs

/-- What an installation of an accepted target needs. -/
structure Installing (m : Machine) (id : String) (v : Verified) (s : Host) : Prop where
  alive : Alive m s
  transaction : s.transaction = none
  wanted : Wanted m id v s

/-- A wanted generation is unmoved. -/
lemma Wanted.unmoved {id v} : Unmoved (Wanted m id v) := by
  intro s t h q
  refine ⟨accepted_unmoved s t h.accepted q, h.identity, ?_⟩
  rw [q.resolveCurrent]
  exact h.other

/-- An installation is unmoved. -/
lemma Installing.unmoved {id v} : Unmoved (Installing m id v) := fun _ _ h q =>
  ⟨Alive.unmoved _ _ h.alive q, q.transaction.trans h.transaction, Wanted.unmoved _ _ h.wanted q⟩

/-- The generation being staged is not the live one. -/
lemma Installing.ne_current {id v} (plain : Plain m) (h : Installing m id v s)
    (hcur : s.current = some (generation name)) : name ≠ id := by
  intro hid
  have hother := h.wanted.other
  rw [resolveCurrent_eq plain hcur] at hother
  exact hother hid

/-- The steps of staging keep the installation. -/
lemma Installing.stageClosed {id v} (plain : Plain m) :
    StageClosed m (generation id) v (Installing m id v) where
  unmoved := Installing.unmoved
  dir := fun _ _ h => ⟨h.alive.setDir plain h.transaction fun _ hcur => h.ne_current plain hcur,
    h.transaction, h.wanted.accepted, h.wanted.identity, h.wanted.other⟩
  run := by
    intro s bytes args h hhash
    have hvouched : Vouched m s.log (.run (generation id ++ ["nf-server"]) (some bytes) args) :=
      ⟨v, bytes, h.wanted.accepted, by rw [← h.wanted.identity], rfl, hhash⟩
    exact ⟨h.alive.move (.emit rfl hvouched fun h => h) rfl (.inl rfl) (.inl rfl), h.transaction,
      List.mem_append_left _ h.wanted.accepted, h.wanted.identity, h.wanted.other⟩

/-- Staging and activating an accepted target keeps the live and the rollback generation. -/
lemma stageAndActivate_alive {id v} (plain : Plain m) :
    Triple (Alive m) (Installing m id v) (stageAndActivate m id v) fun _ => Alive m := by
  refine Triple.bind ((stage_triple (Installing.stageClosed plain)).conseq_inv fun _ h => h.alive)
    fun path => ?_
  have staged : ∀ s, (Installing m id v s ∧ path = generation id ∧ ∃ g, s.dir m (generation id) = some g ∧
      Authentic m v g ∧ g.target = some (.config v.config)) →
      (Installing m id v s ∧ Sound m id s) ∧ path = generation id := by
    intro s hs
    obtain ⟨h, hpath, g, hg, hauth, _⟩ := hs
    exact ⟨⟨h, v, g, h.wanted.accepted, h.wanted.identity, hg, hauth⟩, hpath⟩
  refine Triple.conseq_pre ?_ staged
  refine Triple.assume (fun _ hs => hs.2) fun hpath => ?_
  subst hpath
  refine Triple.conseq_pre ?_ fun _ hs => hs.1
  refine Triple.bind ((target_triple (Installing.unmoved.and Sound.unmoved)).conseq_inv
    fun _ h => h.1.alive) fun latest => ?_
  refine Triple.conseq_pre ?_ fun _ hs => hs.1
  refine Triple.ite (fun _ => ?_) fun _ => ?_
  · refine Triple.seq (fun _ => Alive m) (Triple.of_each fun s hs => ?_) fun _ => Triple.pure fun _ h => h
    obtain ⟨h, hnew⟩ := hs
    obtain ⟨old, hcur, hold⟩ := h.alive.current
    refine (activate_triple (h.alive.activationRules plain hcur hold hnew)).conseq (fun _ h => h) ?_
      fun _ _ h => h.alive
    intro t ht
    rcases ht with rfl | rfl | h' | h' | h'
    · exact h.alive
    · exact h.alive.move (.emit rfl trivial fun h => h) rfl (.inl rfl) (.inl rfl)
    · exact h'.alive
    · exact h'.1
    · exact h'.alive
  · have closed : ∀ s g, Installing m id v s → Installing m id v (s.setDir m (generation id) g) :=
      (Installing.stageClosed plain).dir
    refine Triple.conseq_pre ?_ fun s (hs : Installing m id v s ∧ Sound m id s) => hs.1
    refine Triple.keep (rmtree_triple closed) (fun _ h => h.alive) fun _ => ?_
    refine Triple.keep (report_keeps Installing.unmoved) (fun _ h => h.alive) fun _ => ?_
    exact Triple.pure fun _ h => h.alive

/-- A recovery keeps both generations, and when it returns there is no journal. -/
lemma recover_alive : Triple (Alive m) (Alive m) (recover m) fun _ s =>
    Alive m s ∧ s.transaction = none := by
  have moved : Unmoved fun s => Alive m s ∧ s.transaction = none :=
    Alive.unmoved.and fun _ _ h q => q.transaction.trans h
  refine Triple.bind (Triple.look fun _ hs => hs) fun tx => ?_
  cases tx with
  | none => exact Triple.pure fun _ hs => ⟨hs.1, hs.2.symm⟩
  | some tx =>
    have named : ∀ s, Alive m s ∧ some tx = s.transaction → ∃ old, tx.previous = generation old := by
      intro s hs
      obtain ⟨_, old, hold, _⟩ := hs.1.previous tx hs.2.symm
      exact ⟨old, hold⟩
    refine Triple.assume named fun hold => ?_
    obtain ⟨old, hold⟩ := hold
    -- the journal's generation stands for both ends
    refine (rollback_triple (@Between.rollbackClosed m old old tx hold) moved ?_).conseq ?_ ?_ fun _ _ h => h
    · intro s h _ _
      exact ⟨h.alive.move (.refl rfl) rfl (.inr rfl) (.inl rfl), rfl⟩
    · intro s hs
      obtain ⟨_, name, hname, hsound⟩ := hs.1.previous tx hs.2.symm
      obtain rfl := generation_injective (hname.symm.trans hold)
      exact ⟨hs.1, hsound, hsound⟩
    · intro s hs
      rcases hs with h | h
      · exact h.alive
      · exact h.1

/-- A pass of the updater keeps the host alive. -/
lemma runOnce_alive {force} (plain : Plain m) : Keeps (Alive m) (runOnce m force) := by
  have moved : Unmoved fun s => Alive m s ∧ s.transaction = none :=
    Alive.unmoved.and fun _ _ h q => q.transaction.trans h
  refine runOnce_keeps Alive.unmoved moved (fun _ h => h.1) recover_alive ?_
  intro id v
  exact (stageAndActivate_alive plain).conseq_pre fun _ hs => ⟨hs.1.1, hs.1.2, hs.2⟩

/-- Any number of runs of `once` or `retry-now`, each ended in any way. -/
def UpdaterRuns (m : Machine) : Host → Host → Prop :=
  Relation.ReflTransGen fun s t => ∃ force w, t = (runOnce m force s w).state

/-- An enrolled host: the current generation is sound and no update is open. -/
structure Enrolled (m : Machine) (s : Host) : Prop where
  transaction : s.transaction = none
  current : ∃ name, s.current = some (generation name) ∧ Sound m name s
  vouched : ∀ e ∈ s.log, Vouched m s.log e

/-- And so does any sequence of passes, however they end. -/
lemma UpdaterRuns.alive (plain : Plain m) {s₀ : Host} (enrolled : Enrolled m s₀)
    (runs : UpdaterRuns m s₀ s) : Alive m s := by
  induction runs with
  | refl =>
    refine ⟨enrolled.current, ?_, enrolled.vouched⟩
    intro tx htx
    cases enrolled.transaction.symm.trans htx
  | tail _ hrun ih =>
    obtain ⟨force, w, rfl⟩ := hrun
    exact (runOnce_alive plain).run ih w

/-- In every state that runs of the updater reach from an enrolled host, wherever they are killed and
whatever is signed meanwhile: the generation `current` resolves to is there with its artifacts; while a
journal is open, its previous generation has the files it had when the journal was written; and every
executed candidate, and the binary and unit of every generation switched to, has the hashes of the one
payload the verifier accepted for that identity. -/
theorem generations_survive (plain : Plain m) {s₀ : Host} (enrolled : Enrolled m s₀)
    (runs : UpdaterRuns m s₀ s) (noCollision : Set.InjOn (identity m) { v | .accepted v ∈ s.log }) :
    (∃ name g, s.resolveCurrent m = generation name ∧ s.dir m (s.resolveCurrent m) = some g ∧
      g.nfServer.isSome ∧ g.service.isSome) ∧
    (∀ tx, s.transaction = some tx → ∃ before g after,
      s.log = before ++ .journaled tx (some g) :: after ∧ (∀ e ∈ after, ¬ e.IsJournal) ∧
      s.dir m tx.previous = some g) ∧
    (∀ program file args, .run program file args ∈ s.log → ∃ v bytes, .accepted v ∈ s.log ∧
      program = generation (identity m v) ++ ["nf-server"] ∧ file = some bytes ∧
      m.linuxSha256 v.payload = some (m.sha256 bytes) ∧
      ∀ v', .accepted v' ∈ s.log → identity m v' = identity m v → v' = v) ∧
    ∀ path files, .switched path files ∈ s.log → ∃ v g, .accepted v ∈ s.log ∧
      path = generation (identity m v) ∧ files = some g ∧ Authentic m v g ∧
      ∀ v', .accepted v' ∈ s.log → identity m v' = identity m v → v' = v := by
  have alive := runs.alive plain enrolled
  have unique : ∀ v v', .accepted v ∈ s.log → .accepted v' ∈ s.log → identity m v' = identity m v →
      v' = v := fun v v' hv hv' h => noCollision hv' hv h
  refine ⟨?_, fun tx htx => (alive.previous tx htx).1, ?_, ?_⟩
  · obtain ⟨name, hcur, v, g, _, _, hg, hauth⟩ := alive.current
    obtain ⟨binary, hbinary, _⟩ := hauth.nfServer
    obtain ⟨unit, hunit, _⟩ := hauth.service
    have hresolve := resolveCurrent_eq plain hcur
    refine ⟨name, g, hresolve, ?_, Option.isSome_of_eq_some hbinary, Option.isSome_of_eq_some hunit⟩
    rw [hresolve]
    exact hg
  · intro program file args hrun
    obtain ⟨v, bytes, haccepted, hprogram, hfile, hhash⟩ := alive.vouched _ hrun
    exact ⟨v, bytes, haccepted, hprogram, hfile, hhash, fun v' hv' => unique v v' haccepted hv'⟩
  · intro path files hswitched
    obtain ⟨v, g, haccepted, hpath, hfiles, hauth⟩ := alive.vouched _ hswitched
    exact ⟨v, g, haccepted, hpath, hfiles, hauth, fun v' hv' => unique v v' haccepted hv'⟩

/-- Without links every path resolves to itself. -/
lemma id_resolve (p : Path) : id (id p) = id p := rfl

/-- A host whose hash of a string is the string in hexadecimal. -/
def hexMachine : Machine where
  resolve := id
  resolve_resolve := id_resolve
  resolve_generation := fun _ _ h => generation_injective h
  sha256 := fun bs => String.ofList
    (bs.flatMap fun b => [Nat.digitChar (b.toNat / 16), Nat.digitChar (b.toNat % 16)])
  sha256_hex := by
    intro bs c hc
    have digits : ∀ n < 16, Nat.digitChar n ∈ hexDigits := by decide
    rw [String.toList_ofList] at hc
    obtain ⟨b, _, hb⟩ := List.mem_flatMap.mp hc
    have hlt := b.toNat_lt
    simp only [List.mem_cons, List.not_mem_nil, or_false] at hb
    rcases hb with rfl | rfl
    · exact digits _ (by omega)
    · exact digits _ (by omega)
  dumps := fun v => v.config.binaryTag
  manifestSizes := fun _ => some [1, 1, 1]
  machine := "x86_64"

/-- An update to a tag, with one-byte artifacts. -/
def tagUpdate (tag : String) : Verified := ⟨⟨1, 5, tag⟩, ⟨"63", "62", "62", "62", "62"⟩⟩

/-- A host enrolled at `v0`. -/
def enrolledHost : Host where
  current := some (generation "7630")
  service := some [98]
  settings := some
    { network := some "main"
      configUrl := some "https://example.com/prod/pir.json"
      snapshotBase := some "https://example.com"
      binaryBase := some "https://example.com" }
  dirs := fun p =>
    if p = generation "7630" then
      some { nfServer := some [98], service := some [98], target := some (.config ⟨1, 5, "v0"⟩) }
    else none
  log := [.accepted (tagUpdate "v0")]

/-- Every answer of a run that installs `v1`. -/
def v1Reply : Reply where
  verified := tagUpdate "v1"
  response := ⟨"https://example.com", [[98]]⟩
  releaseTag := "v1"
  pirUpdateProtocol := 1
  diskFree := 2147483648

/-- The host after a run that is killed right after it has switched to `v1`. -/
def killedHost : Host :=
  (runOnce hexMachine false enrolledHost (List.replicate 57 (.ok v1Reply))).state

def Event.acceptedIn (vs : List Verified) : Event → Bool
  | .accepted v => decide (v ∈ vs)
  | _ => true

/-- The host of the sample is enrolled. -/
lemma enrolledHost_enrolled : Enrolled hexMachine enrolledHost where
  transaction := rfl
  current := by
    refine ⟨"7630", rfl, tagUpdate "v0", _, List.mem_cons_self, by decide, rfl, ?_, ?_⟩
    · exact ⟨[98], rfl, by decide⟩
    · exact ⟨[98], rfl, by decide⟩
  vouched := by
    intro e he
    rw [List.mem_singleton.mp he]
    trivial

/-- Its accepted versions have names of their own. -/
lemma killedHost_injOn : Set.InjOn (identity hexMachine) { v | .accepted v ∈ killedHost.log } := by
  have hall : ∀ e ∈ killedHost.log, e.acceptedIn [tagUpdate "v0", tagUpdate "v1"] = true := by
    decide +kernel
  have hmem : ∀ v, .accepted v ∈ killedHost.log → v = tagUpdate "v0" ∨ v = tagUpdate "v1" := by
    intro v hv
    simpa [Event.acceptedIn] using hall _ hv
  have hne : identity hexMachine (tagUpdate "v0") ≠ identity hexMachine (tagUpdate "v1") := by
    decide +kernel
  intro v hv v' hv' h
  rcases hmem v hv with rfl | rfl
  · rcases hmem v' hv' with rfl | rfl
    · rfl
    · exact absurd h hne
  · rcases hmem v' hv' with rfl | rfl
    · exact absurd h.symm hne
    · rfl

/-- The killed run has switched, and the generation to roll back to is still there. -/
theorem generations_survive_killed_run : ∃ tx g, killedHost.current = some (generation "7631") ∧
    killedHost.transaction = some tx ∧ killedHost.dir hexMachine tx.previous = some g := by
  obtain ⟨tx, htx⟩ : ∃ tx, killedHost.transaction = some tx :=
    Option.isSome_iff_exists.mp (by decide +kernel)
  have hrun := generations_survive (fun _ => rfl) enrolledHost_enrolled
    (.single ⟨false, _, rfl⟩) killedHost_injOn
  obtain ⟨_, g, _, _, _, hg⟩ := hrun.2.1 tx htx
  exact ⟨tx, g, by decide +kernel, htx, hg⟩

end Runs

end NullifierPir.Updater
