import NullifierPir.Updater.Steps

/-!
# Staging

What `download` and `stage` guarantee, whatever the network answers: a download returns only with the
bytes of the expected hash on disk, the candidate is executed only after that, and a staged generation
is `Authentic` for the verified payload. Only the directory being staged changes.
-/

namespace NullifierPir.Updater
open ByteString Killable
open Killable.Proc (act step look ask raise handle forEach poll)

variable {m : Machine} {path : Path} {P : Host → Prop} {v : Verified}

/-- The hash of the release binary for this host. -/
def Machine.linuxSha256 (m : Machine) (p : Payload) : Option String :=
  (releaseArch m.machine).map p.linuxSha256

/-- The binary and the unit have the hashes of the payload. -/
structure Authentic (m : Machine) (v : Verified) (g : Generation) : Prop where
  nfServer : ∃ bytes, g.nfServer = some bytes ∧ m.linuxSha256 v.payload = some (m.sha256 bytes)
  service : ∃ bytes, g.service = some bytes ∧ v.payload.serviceSha256 = m.sha256 bytes

/-- A directory that was written reads back. -/
@[simp] lemma dir_setDir {s : Host} {g} : (s.setDir m path g).dir m path = g := by
  simp [Host.dir, Host.setDir]

/-- Events leave the directories alone. -/
@[simp] lemma dir_emit {s : Host} {e} : (s.emit e).dir m path = s.dir m path := rfl

/-- A modified directory reads back modified. -/
@[simp] lemma dir_modifyDir {s : Host} {f} :
    (s.modifyDir m path f).dir m path = (s.dir m path).map f := dir_setDir

/-- The artifact on disk has the expected hash. -/
def Downloaded (m : Machine) (path : Path) (artifact : Artifact) (expected : String) (s : Host) : Prop :=
  ∃ g bytes, s.dir m path = some g ∧ g.artifact artifact = some bytes ∧ expected = m.sha256 bytes

section Download

variable {artifact : Artifact} {expected : String} {maxBytes : Nat}
  (file : ∀ s (f : Generation → Option Bytes), P s →
    P (s.modifyDir m path fun g => g.setArtifact artifact (f g)))

include file

/-- Writing chunks keeps the condition. -/
lemma writeChunks_keeps {total chunks} : Keeps P (writeChunks m path artifact maxBytes total chunks) := by
  induction chunks generalizing total with
  | nil => exact Keeps.pure
  | cons chunk chunks ih =>
    refine Keeps.ite Keeps.pure (Keeps.ite Keeps.raise ?_)
    exact Keeps.bind (Keeps.step fun s hs => file s _ hs) fun _ => ih

/-- A finished download is of the expected digest and size. -/
lemma downloadFrom_triple {url} : Triple P P (downloadFrom m url path artifact expected maxBytes)
    fun _ s => P s ∧ Downloaded m path artifact expected s := by
  refine Triple.ite (fun _ => ?_) fun _ => Triple.raise fun _ hs => hs
  refine Triple.keep Keeps.ask (fun _ hs => hs) fun response => ?_
  refine Triple.keep (Keeps.step fun s hs => file s (fun _ => some []) hs) (fun _ hs => hs) fun _ => ?_
  refine Triple.ite (fun _ => ?_) fun _ => Triple.raise fun _ hs => hs
  refine Triple.keep (writeChunks_keeps file) (fun _ hs => hs) fun _ => ?_
  refine Triple.keep (Keeps.step fun _ hs => hs) (fun _ hs => hs) fun _ => ?_
  refine Triple.bind (Triple.look fun _ hs => hs) fun o => ?_
  refine Triple.bind (expect_triple fun _ hs => hs.1) fun bytes => ?_
  refine Triple.ite (fun hhash => Triple.pure ?_) fun _ => Triple.raise fun _ hs => hs.1.1
  intro s hs
  obtain ⟨⟨hP, ho⟩, hbytes⟩ := hs
  obtain ⟨g, hg, hart⟩ := Option.bind_eq_some_iff.mp (ho.symm.trans hbytes)
  exact ⟨hP, g, bytes, hg, hart, hhash.symm⟩

/-- A download returns only with the expected bytes. -/
lemma download_triple {urls} : Triple P P (download m path artifact expected maxBytes urls)
    fun _ s => P s ∧ Downloaded m path artifact expected s := by
  induction urls with
  | nil => exact Triple.raise fun _ hs => hs
  | cons url urls ih =>
    refine Triple.seq (fun done s => P s ∧ (done = true → Downloaded m path artifact expected s))
      (Triple.handle ?_ (fun _ hs => hs) fun _ => ?_) fun done => ?_
    · refine Triple.bind (downloadFrom_triple file) fun _ => Triple.pure ?_
      intro s hs
      exact ⟨hs.1, fun _ => hs.2⟩
    · refine Triple.bind (Keeps.step fun s hs => file s (fun _ => none) hs) fun _ => Triple.pure ?_
      intro s hs
      exact ⟨hs, fun h => nomatch h⟩
    · refine Triple.ite (fun hd => Triple.pure fun _ hs => ⟨hs.1, hs.2 hd⟩) fun _ => ?_
      exact ih.conseq_pre fun _ hs => hs.1

end Download

/-- A property that staging `v` in `path` keeps. -/
structure StageClosed (m : Machine) (path : Path) (v : Verified) (P : Host → Prop) : Prop where
  unmoved : Unmoved P
  dir : ∀ s g, P s → P (s.setDir m path g)
  run : ∀ s bytes args, P s → m.linuxSha256 v.payload = some (m.sha256 bytes) →
    P (s.emit (.run (path ++ ["nf-server"]) (some bytes) args))

/-- A target that the verifier accepted. -/
lemma target_triple (u : Unmoved P) : Triple P P (target m) fun r s =>
    P s ∧ .accepted r.2 ∈ s.log ∧ r.1 = identity m r.2 := by
  refine Triple.keep Keeps.look (fun _ hs => hs) fun _ => ?_
  refine Triple.keep expect_keeps (fun _ hs => hs) fun _ => ?_
  refine Triple.keep expect_keeps (fun _ hs => hs) fun _ => ?_
  refine Triple.keep fetch_keeps (fun _ hs => hs) fun _ => ?_
  refine Triple.keep fetch_keeps (fun _ hs => hs) fun _ => ?_
  refine Triple.seq (fun v s => P s ∧ .accepted v ∈ s.log) (Triple.act ?_) fun v => Triple.pure ?_
  · intro s hs
    refine ⟨hs, fun r => ?_⟩
    have hq : Quiet s (s.emit (.accepted r.verified)) := Quiet.emit trivial
    exact ⟨⟨u s _ hs hq, List.mem_append_right _ List.mem_cons_self⟩, u s _ hs hq⟩
  · intro s hs
    exact ⟨hs.1, hs.2, rfl⟩

/-- Removing the directory keeps the condition. -/
lemma rmtree_triple (dir : ∀ s g, P s → P (s.setDir m path g)) : Keeps P (rmtree m path) :=
  Keeps.bind (Keeps.act fun s _ hs => dir s _ hs) fun _ => Keeps.step fun s hs => dir s _ hs

/-- A new directory is empty. -/
lemma freshDirectory_triple (c : StageClosed m path v P) :
    Triple P P (freshDirectory m path) fun _ s => P s ∧ s.dir m path = some {} := by
  refine Triple.keep ?_ (fun _ hs => hs) fun _ => ?_
  · exact Keeps.bind Keeps.look fun _ => Keeps.ite (rmtree_triple c.dir) Keeps.pure
  refine Triple.seq (fun _ s => P s ∧ s.dir m path = some {}) (Triple.step ?_) fun _ => ?_
  · intro s hs
    exact ⟨hs, ⟨c.dir s _ hs, dir_setDir⟩, c.dir s _ hs⟩
  · exact syncDirectory_keeps.conseq_inv fun _ hs => hs.1

/-- Checking the manifest changes nothing. -/
lemma checkManifest_keeps {settings} : Keeps P (checkManifest m settings v) := by
  refine Keeps.bind expect_keeps fun _ => Keeps.bind expect_keeps fun _ => Keeps.bind fetch_keeps fun _ => ?_
  refine Keeps.ite (Keeps.bind expect_keeps fun _ => ?_) Keeps.raise
  exact Keeps.ite Keeps.raise (Keeps.bind Keeps.ask fun _ => Keeps.ite Keeps.raise Keeps.pure)

/-- After the downloads the generation is authentic, and nothing else has been run. -/
lemma stageArtifacts_triple (c : StageClosed m path v P) {base arch}
    (harch : releaseArch m.machine = some arch) :
    Triple P P (stageArtifacts m base arch v path) fun _ s =>
      P s ∧ ∃ g, s.dir m path = some g ∧ Authentic m v g := by
  have hsha : m.linuxSha256 v.payload = some (v.payload.linuxSha256 arch) := by
    rw [Machine.linuxSha256, harch]
    rfl
  refine Triple.bind (download_triple fun s f hs => c.dir s _ hs) fun _ => ?_
  refine Triple.keep (Keeps.step fun _ hs => hs) (fun _ hs => hs.1) fun _ => ?_
  -- the executed file is the one whose hash was checked
  refine Triple.seq (fun _ s => P s ∧ Downloaded m path .nfServer (v.payload.linuxSha256 arch) s)
    (Triple.act ?_) fun info => ?_
  · intro s hs
    obtain ⟨hP, g, bytes, hg, hbytes, hhash⟩ := hs
    have hfile : s.nfServer m path = some bytes := by
      rw [Host.nfServer, hg]
      exact hbytes
    rw [hhash] at hsha
    refine ⟨hP, fun r => ?_⟩
    rw [hfile]
    exact ⟨⟨c.run s bytes _ hP hsha, g, bytes, hg, hbytes, hhash⟩, c.run s bytes _ hP hsha⟩
  refine Triple.ite (fun _ => ?_) fun _ => Triple.raise fun _ hs => hs.1
  refine ((download_triple ?_).conseq_inv fun _ hs => hs.1).conseq_post ?_
  · -- the second download leaves the binary
    intro s f hs
    obtain ⟨hP, g, bytes, hg, hbytes, hhash⟩ := hs
    refine ⟨c.dir s _ hP, g.setArtifact .service (f g), bytes, ?_, hbytes, hhash⟩
    rw [dir_modifyDir, hg]
    rfl
  · intro _ s hs
    obtain ⟨⟨hP, g, bytes, hg, hbytes, hhash⟩, g', bytes', hg', hbytes', hhash'⟩ := hs
    obtain rfl := Option.some.inj (hg.symm.trans hg')
    rw [hhash] at hsha
    exact ⟨hP, g, hg, ⟨bytes, hbytes, hsha⟩, bytes', hbytes', hhash'⟩

/-- A staged generation is authentic and carries its target. -/
lemma stage_triple {id} (c : StageClosed m (generation id) v P) :
    Triple P P (stage m id v) fun p s => P s ∧ p = generation id ∧
      ∃ g, s.dir m (generation id) = some g ∧ Authentic m v g ∧ g.target = some (.config v.config) := by
  refine Triple.bind (freshDirectory_triple c) fun _ => ?_
  refine Triple.bind (expect_triple fun _ hs => hs.1) fun arch => ?_
  refine Triple.assume (fun _ hs => hs.2) fun harch => ?_
  refine Triple.conseq_pre ?_ fun _ hs => hs.1.1
  refine Triple.keep Keeps.look (fun _ hs => hs) fun _ => ?_
  refine Triple.keep expect_keeps (fun _ hs => hs) fun _ => ?_
  refine Triple.keep checkManifest_keeps (fun _ hs => hs) fun _ => ?_
  refine Triple.keep expect_keeps (fun _ hs => hs) fun _ => ?_
  refine Triple.bind (stageArtifacts_triple c harch) fun _ => ?_
  refine Triple.seq (fun _ s => P s ∧ ∃ g, s.dir m (generation id) = some g ∧ Authentic m v g)
    (Triple.act ?_) fun _ => ?_
  · intro s hs
    obtain ⟨hP, g, hg, hauth⟩ := hs
    obtain ⟨bytes, hbytes, hhash⟩ := hauth.nfServer
    have hfile : s.nfServer m (generation id) = some bytes := by
      rw [Host.nfServer, hg]
      exact hbytes
    refine ⟨hP, fun r => ?_⟩
    rw [hfile]
    have hkeep := c.dir _ (some { g with data := some r.snapshot })
      (c.run s bytes ["snapshot-stage"] hP hhash)
    rw [Host.modifyDir, dir_emit, hg]
    exact ⟨⟨hkeep, _, dir_setDir, hauth.nfServer, hauth.service⟩, hkeep⟩
  refine Triple.seq (fun _ s => P s ∧ ∃ g, s.dir m (generation id) = some g ∧ Authentic m v g ∧
    g.target = some (.config v.config)) (Triple.step ?_) fun _ => ?_
  · intro s hs
    obtain ⟨hP, g, hg, hauth⟩ := hs
    have hkeep := c.dir s (some { g with target := some (.config v.config) }) hP
    rw [Host.modifyDir, hg]
    exact ⟨hP, ⟨hkeep, _, dir_setDir, ⟨hauth.nfServer, hauth.service⟩, rfl⟩, hkeep⟩
  refine Triple.keep syncDirectory_keeps (fun _ hs => hs.1) fun _ => ?_
  refine Triple.keep syncDirectory_keeps (fun _ hs => hs.1) fun _ => ?_
  exact Triple.pure fun _ hs => ⟨hs.1, rfl, hs.2⟩

section Once

variable {I J : Host → Prop}

/-- The target is accepted and is not the current generation. -/
structure Wanted (m : Machine) (id : String) (v : Verified) (s : Host) : Prop where
  accepted : .accepted v ∈ s.log
  identity : id = identity m v
  other : (s.resolveCurrent m).name ≠ id

/-- Acceptance is unmoved. -/
lemma accepted_unmoved : Unmoved fun s => .accepted v ∈ s.log := by
  intro s t h q
  obtain ⟨new, hnew, _⟩ := q.log
  rw [hnew]
  exact List.mem_append_left _ h

/-- After the target is known, only an activation of another generation can change the host. -/
lemma decideTarget_triple {id force} (uJ : Unmoved J) (hJ : ∀ s, J s → I s) (uI : Unmoved I)
    (install : Triple I (fun s => J s ∧ Wanted m id v s) (stageAndActivate m id v) fun _ => I) :
    Triple I (fun s => J s ∧ .accepted v ∈ s.log ∧ id = identity m v) (decideTarget m force id v)
      fun _ => I := by
  have moved : Unmoved fun s => J s ∧ .accepted v ∈ s.log ∧ id = identity m v :=
    uJ.and (accepted_unmoved.and fun _ _ h _ => h)
  have reported : ∀ fields, Triple I (fun s => J s ∧ .accepted v ∈ s.log ∧ id = identity m v)
      (report fields) fun _ => I :=
    fun fields => (report_keeps moved).conseq (fun _ hs => hs) (fun s hs => hJ s hs.1)
      fun _ s hs => hJ s hs.1
  refine Triple.bind (Triple.look fun s hs => hJ s hs.1) fun current => ?_
  refine Triple.keep ?_ (fun s hs => hJ s hs.1.1) fun running => ?_
  · exact Triple.ite (fun _ => matchesTarget_keeps) fun _ => Keeps.pure
  refine Triple.ite (fun _ => (reported _).conseq_pre fun _ hs => hs.1) fun _ => ?_
  refine Triple.keep Keeps.ask (fun s hs => hJ s hs.1.1) fun _ => ?_
  refine Triple.keep Keeps.look (fun s hs => hJ s hs.1.1) fun _ => ?_
  refine Triple.ite (fun _ => (reported _).conseq_pre fun _ hs => hs.1) fun _ => ?_
  have movedCurrent : Unmoved fun s => (J s ∧ .accepted v ∈ s.log ∧ id = identity m v) ∧
      current = s.resolveCurrent m := moved.and fun _ _ h q => h.trans q.resolveCurrent.symm
  refine Triple.keep (report_keeps movedCurrent) (fun s hs => hJ s hs.1.1) fun _ => ?_
  refine Triple.seq (fun _ => I) (Triple.ite (fun _ => ?_) fun hne => ?_) fun finished => ?_
  · refine Triple.keep (systemctl_keeps movedCurrent) (fun s hs => hJ s hs.1.1) fun _ => ?_
    refine Triple.keep (wait_keeps movedCurrent) (fun s hs => hJ s hs.1.1) fun _ => ?_
    exact Triple.pure fun s hs => hJ s hs.1.1
  · refine install.conseq_pre ?_
    intro s hs
    obtain ⟨⟨hs, haccepted, hid⟩, rfl⟩ := hs
    exact ⟨hs, haccepted, hid, hne⟩
  · exact Triple.ite (fun _ => report_keeps uI) fun _ => Keeps.pure

/-- What `recover` re-establishes and an installation keeps, every run of the updater keeps. -/
lemma runOnce_keeps {force} (uI : Unmoved I) (uJ : Unmoved J) (hJ : ∀ s, J s → I s)
    (recovered : Triple I I (recover m) fun _ => J)
    (install : ∀ id v, Triple I (fun s => J s ∧ Wanted m id v s) (stageAndActivate m id v) fun _ => I) :
    Keeps I (runOnce m force) := by
  refine Keeps.bind (Keeps.step ?_) fun _ => Keeps.handle ?_ fun e => ?_
  · intro s hs
    exact uI s _ hs ⟨rfl, [], (List.append_nil _).symm, fun _ h => nomatch h⟩
  · refine Triple.keep Keeps.look (fun _ hs => hs) fun _ => ?_
    refine Triple.ite (fun _ => Triple.raise fun _ hs => hs) fun _ => ?_
    refine Triple.bind recovered fun _ => ?_
    refine Triple.keep (report_keeps uJ) hJ fun _ => ?_
    refine Triple.bind ((target_triple uJ).conseq_inv hJ) fun latest => ?_
    have moved : Unmoved fun s => J s ∧ .accepted latest.2 ∈ s.log ∧ latest.1 = identity m latest.2 :=
      uJ.and (accepted_unmoved.and fun _ _ h _ => h)
    refine Triple.keep Keeps.look (fun s hs => hJ s hs.1) fun _ => ?_
    refine Triple.keep (report_keeps moved) (fun s hs => hJ s hs.1) fun _ => ?_
    refine Triple.keep ?_ (fun s hs => hJ s hs.1) fun _ => ?_
    · exact Triple.ite (fun _ => report_keeps moved) fun _ => Keeps.pure
    · exact decideTarget_triple uJ hJ uI (install _ _)
  · exact Keeps.bind Keeps.ask fun _ => Keeps.bind (report_keeps uI) fun _ => Keeps.raise

end Once

end NullifierPir.Updater
