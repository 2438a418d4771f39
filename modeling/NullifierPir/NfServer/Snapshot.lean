import NullifierPir.NfServer.Bootstrap

/-!
# Fetching a snapshot

A fetch is all or nothing up to its install, and what it installs is authenticated, whatever the
server sends and whatever an earlier run left behind. `stageSnapshot` never writes a live file
(`stageSnapshot_avoids_live`). Once the staging directory is clean every staged file stays within the
size the manifest gives for it (`WithinSizes`), also where the process is killed; the triples of this
file carry that invariant together with the contents that were hashed.
-/

namespace NullifierPir.NfServer
open Rust ByteString Crash Hex NullifierPir.Types

section Spec

variable (env : Outside)

/-- The server published the manifest, with the digest asked for. -/
structure Published (cfg : Config) (height : Nat) (manifestSha256 : Option String)
    (response : Response) (manifest : PublishedManifest) : Prop where
  sent : env.send (manifestUrl cfg height) = .ok response
  whole : response.broken = none
  digest : ∀ expected, manifestSha256 = some expected →
    hexEncode (env.sha256 response.chunks.flatten) = expected
  decoded : env.decodeManifest response.chunks.flatten = .ok manifest
  height : manifest.height = height

/-- The content has the size and the digest of its entry. -/
structure MatchesEntry (entry : ManifestFile) (content : Bytes) : Prop where
  size : content.length = entry.size
  digest : eqIgnoreAsciiCase (hexEncode (env.sha256 content)) entry.sha256 = true

/-- The metadata describes a consistent snapshot of the network and height. -/
structure ValidRoot (network : ZcashNetwork) (height : Nat) (root : PirMetadata) : Prop where
  network : root.zcashNetwork = network
  dataset : isCurrentDataset root.nullifierPool root.datasetVersion = true
  layout : root.pirLayout.Supported
  depth : root.pirDepth = root.pirLayout.pirDepth
  rows : root.pirLayout.tier1Rows = .ok root.tier1Rows
  rowBytes : root.pirLayout.tier1RowBytes = .ok root.tier1RowBytes
  tier0Bytes : root.pirLayout.tier0Bytes = .ok root.tier0Bytes
  height : root.height = some height

/-- The snapshot files at `place` are those of the manifest, and the metadata is valid. -/
structure Complete (cfg : Config) (height : Nat) (manifest : PublishedManifest)
    (place : DataFile → BootFile) (s : BootDir) : Prop where
  files : ∀ n ∈ SNAPSHOT_FILES, ∃ entry content, manifest.files n.name = some entry ∧
    s (place n) = some content ∧ MatchesEntry env entry content
  root : ∃ content root, s (place .pirRoot) = some content ∧
    env.decodeMetadata content = .ok root ∧ ValidRoot cfg.zcashNetwork height root

/-- Total size of the named files at `place`. -/
def sizeOf (place : DataFile → BootFile) (names : List DataFile) (s : BootDir) : Nat :=
  (names.map fun n => ((s (place n)).getD []).length).sum

/-- No staged file exceeds the size of its entry. -/
def WithinSizes (manifest : PublishedManifest) (s : BootDir) : Prop :=
  ∀ n content, s (.staged n) = some content →
    ∃ entry, manifest.files n.name = some entry ∧ content.length ≤ entry.size

/-- The operation keeps the staged files within their sizes, also when it is torn. -/
abbrev KeepsSizes (manifest : PublishedManifest) (s : BootDir) (o : BootOp) : Prop :=
  Keeps (WithinSizes manifest) s o

/-- Each operation of a run leaves the staging directory alone, removes a file from it, or is one from
which on no staged file exceeds its authenticated size, wherever the run is cut. -/
def StagedWithin (cfg : Config) (height : Nat) (manifestSha256 : Option String) (s : BootDir)
    (ops : List (BootOp)) : Prop :=
  ∀ pre o rest, ops = pre ++ o :: rest →
    (∀ n, o.Avoids (.staged n)) ∨ (∃ n, o = .remove (.staged n)) ∨
      ∃ response manifest, Published env cfg height manifestSha256 response manifest ∧
        ∀ s', Interrupted (exec s pre) (o :: rest) s' → WithinSizes manifest s'

end Spec

section Manifest

variable {env : Outside} {cfg : Config} {height : Nat} {manifestSha256 : Option String} {s : BootDir}

/-- A manifest that is read is the whole body. -/
lemma readManifest_ok {broken chunks bytes body} (ok : readManifest broken chunks bytes = .ok body) :
    broken = none ∧ body = bytes ++ chunks.flatten := by
  induction chunks generalizing bytes with
  | nil =>
    cases broken with
    | none =>
      cases ok
      exact ⟨rfl, (List.append_nil _).symm⟩
    | some e => cases ok
  | cons chunk chunks ih =>
    obtain ⟨_, _, ok⟩ := bind_eq_ok.mp ok
    obtain ⟨hbroken, hbody⟩ := ih ok
    exact ⟨hbroken, by rw [hbody, List.flatten_cons, List.append_assoc]⟩

/-- An accepted manifest is of the height and lists the snapshot files. -/
lemma checkManifest_ok {manifest u} (ok : checkManifest height manifest = .ok u) :
    manifest.height = height ∧ ∀ n ∈ SNAPSHOT_FILES, ∃ entry, manifest.files n.name = some entry := by
  obtain ⟨_, _, ok⟩ := bind_eq_ok.mp ok
  obtain ⟨_, _, ok⟩ := bind_eq_ok.mp ok
  obtain ⟨_, hheight, ok⟩ := bind_eq_ok.mp ok
  refine ⟨beq_iff_eq.mp (ensure_eq_ok.mp hheight), ?_⟩
  intro n hn
  exact Option.isSome_iff_exists.mp (ensure_eq_ok.mp (forEach_eq_ok.mp ok n hn))

/-- A fetched manifest is published. -/
lemma fetchManifest_ok {manifest}
    (ok : (fetchManifest env cfg height manifestSha256 s).2 = .ok manifest) :
    (∃ response, Published env cfg height manifestSha256 response manifest) ∧
      ∀ n ∈ SNAPSHOT_FILES, ∃ entry, manifest.files n.name = some entry := by
  obtain ⟨_, _, ok, _⟩ := Prog.bind_ok ok
  obtain ⟨_, _, ok, _⟩ := Prog.bind_ok ok
  obtain ⟨response, hsent, ok, _⟩ := Prog.bind_ok ok
  obtain ⟨_, _, ok, _⟩ := Prog.bind_ok ok
  obtain ⟨_, _, ok, _⟩ := Prog.bind_ok ok
  obtain ⟨body, hbody, ok, _⟩ := Prog.bind_ok ok
  obtain ⟨_, hdigest, ok, _⟩ := Prog.bind_ok ok
  obtain ⟨_, hdecoded, ok, _⟩ := Prog.bind_ok ok
  obtain ⟨_, hcheck, ok, _⟩ := Prog.bind_ok ok
  cases ok
  obtain ⟨hwhole, rfl⟩ := readManifest_ok hbody
  obtain ⟨hheight, hfiles⟩ := checkManifest_ok hcheck
  refine ⟨⟨response, ofResult_eq_ok.mp hsent, hwhole, ?_, ?_, hheight⟩, hfiles⟩
  · rintro expected rfl
    exact beq_iff_eq.mp (ensure_eq_ok.mp hdigest)
  · exact ofResult_eq_ok.mp (context_eq_ok.mp hdecoded)

end Manifest

section Ops

variable {env : Outside} {cfg : Config} {height : Nat} {manifestSha256 : Option String}

/-- What happens in front of the downloads. -/
inductive CleanOp : BootOp → Prop
  | call {url} : CleanOp (.call url)
  | remove {n} : CleanOp (.remove (.staged n))

/-- What happens in front of the install. -/
inductive StageOp : BootOp → Prop
  | call {url} : StageOp (.call url)
  | read {f} : StageOp (.read f)
  | create {n bs} : StageOp (.create (.staged n) bs)
  | append {n bs} : StageOp (.append (.staged n) bs)
  | remove {n} : StageOp (.remove (.staged n))

/-- Cleaning is part of staging. -/
lemma CleanOp.stageOp {o} (h : CleanOp o) : StageOp o := by
  cases h with
  | call => exact .call
  | remove => exact .remove

/-- Staging leaves the files in place alone. -/
lemma StageOp.avoids_live {o n} (h : StageOp o) : o.Avoids (.live n) := by
  cases h with
  | call => trivial
  | read => trivial
  | create => simp [Op.Avoids]
  | append => simp [Op.Avoids]
  | remove => simp [Op.Avoids]

/-- The status check ends. -/
lemma errorForStatus_ends {url response} : Ends (errorForStatus url response) :=
  .bind Ends.ensure fun _ => Ends.ensure

/-- Reading the manifest ends. -/
lemma readManifest_ends {broken chunks bytes} : Ends (readManifest broken chunks bytes) := by
  induction chunks generalizing bytes with
  | nil =>
    cases broken with
    | none => exact Ends.ok
    | some e => exact Ends.bail
  | cons chunk chunks ih => exact .bind Ends.ensure fun _ => ih

/-- Checking the manifest ends. -/
lemma checkManifest_ends {manifest} : Ends (checkManifest height manifest) :=
  .bind Ends.ensure fun _ => .bind Ends.ensure fun _ => .bind Ends.ensure fun _ =>
    Ends.forEach fun _ _ => Ends.ensure

/-- Fetching the manifest only cleans. -/
lemma fetchManifest_ops :
    (fetchManifest env cfg height manifestSha256).Within CleanOp .diverge := by
  refine .bind (.lift (Ends.context Ends.ofResult)) fun _ => .bind (.perform .call) fun _ =>
    .bind (.lift Ends.ofResult) fun _ => .bind (.lift errorForStatus_ends) fun _ =>
    .bind (.lift Ends.ensure) fun _ => .bind (.lift readManifest_ends) fun _ => .bind (.lift ?_)
    fun _ => .bind (.lift (Ends.context Ends.ofResult)) fun _ => .bind (.lift checkManifest_ends)
    fun _ => .pure
  cases manifestSha256 with
  | none => exact Ends.ok
  | some expected => exact Ends.ensure

/-- Removing a file performs one operation at most. -/
lemma removeFile_ops {f} {φ : BootOp → Prop} (remove : φ (.remove f)) :
    (Boot.removeFile f).Within φ .diverge := by
  refine .bind .inspect ?_
  intro b
  cases b with
  | false => exact .pure
  | true => exact .perform remove

/-- Cleaning the staging directory only cleans. -/
lemma cleanStaging_ops : (cleanStaging env).Within CleanOp .diverge :=
  .bind (.lift (Ends.context Ends.ofResult)) fun _ =>
    .bind (.forEach fun _ _ => removeFile_ops .remove) fun _ =>
    .lift (Ends.context Ends.ofResult)

/-- Writing chunks stages. -/
lemma writeChunks_ops {url n size used broken chunks written hasher} :
    (writeChunks env url n size used broken chunks written hasher).Within StageOp .diverge := by
  induction chunks generalizing written hasher with
  | nil =>
    cases broken with
    | none => exact .lift Ends.ok
    | some e => exact .lift Ends.bail
  | cons chunk chunks ih =>
    rw [writeChunks]
    split
    · exact .bind (removeFile_ops .remove) fun _ => .lift Ends.bail
    · split
      · exact .bind (.perform .append) fun _ => .lift Ends.bail
      · exact .bind (.perform .append) fun _ => ih

/-- A download stages. -/
lemma downloadAndVerify_ops {url n sha size used} :
    (downloadAndVerify env url n sha size used).Within StageOp .diverge := by
  refine .bind (.perform .call) fun _ => .bind (.lift (Ends.context Ends.ofResult)) fun _ =>
    .bind (.lift (Ends.context errorForStatus_ends)) fun _ =>
    .bind (.lift (Ends.context Ends.ofResult)) fun _ => .bind (.perform .create) fun _ =>
    .bind writeChunks_ops fun _ => .bind (.lift (Ends.context Ends.ofResult)) fun _ =>
    .bind (.lift (Ends.context Ends.ofResult)) fun _ => ?_
  split
  · exact .bind (removeFile_ops .remove) fun _ => .lift Ends.bail
  · dsimp only
    split
    · exact .pure
    · exact .bind (removeFile_ops .remove) fun _ => .lift Ends.bail

/-- All downloads stage. -/
lemma downloadAll_ops {dir manifest names total} :
    (downloadAll env dir manifest names total).Within StageOp .diverge := by
  induction names generalizing total with
  | nil => exact .pure
  | cons n names ih =>
    refine .bind (.lift ?_) fun _ => .bind downloadAndVerify_ops fun _ => ih
    cases manifest.files n.name with
    | none => exact Ends.panicked
    | some entry => exact Ends.ok

/-- Checking the metadata ends. -/
lemma checkPirMetadata_ends {path network root} : Ends (checkPirMetadata path network root) :=
  .bind Ends.ensure fun _ => .bind Ends.ensure fun _ =>
    .bind (Ends.context PirLayout.validateSupported_ends) fun _ =>
    .bind PirLayout.tier1Rows_ends fun _ => .bind PirLayout.tier1RowBytes_ends fun _ =>
    .bind PirLayout.tier0Bytes_ends fun _ => Ends.ensure

/-- Reading a file stages. -/
lemma readFile_ops {f} : (Boot.readFile f).Within StageOp .diverge := by
  refine .bind (.read .read) ?_
  intro r
  cases r with
  | none => exact .lift Ends.bail
  | some bs => exact .pure

/-- Validating the staged metadata stages. -/
lemma validatePirRoot_ops {f network} :
    (validatePirRoot env f network height).Within StageOp .diverge :=
  .bind (.bind readFile_ops fun _ => .bind (.lift (Ends.context Ends.ofResult)) fun _ =>
    .bind (.lift checkPirMetadata_ends) fun _ => .pure) fun _ => .lift Ends.ensure

/-- Nothing in front of the install writes a live file. -/
lemma stageSnapshot_ops :
    (stageSnapshot env cfg height manifestSha256).Within StageOp .diverge :=
  .bind (fetchManifest_ops.mono fun _ => CleanOp.stageOp) fun _ =>
    .bind (cleanStaging_ops.mono fun _ => CleanOp.stageOp) fun _ =>
    .bind downloadAll_ops fun _ => .bind validatePirRoot_ops fun _ => .pure

end Ops

section Download

variable {env : Outside} {manifest : PublishedManifest} {s : BootDir} {o : BootOp}

/-- A step that at most takes staged files away. -/
lemma keeps_of_shrinks (whole : ∀ s', ¬ Torn s o s')
    (shrinks : ∀ n, o.apply s (.staged n) = s (.staged n) ∨ o.apply s (.staged n) = none) :
    KeepsSizes manifest s o := by
  intro within
  refine ⟨?_, fun s' ht => absurd ht (whole s')⟩
  intro n content hcontent
  rcases shrinks n with h | h
  · exact within n content (h ▸ hcontent)
  · rw [h] at hcontent
    cases hcontent

/-- A request keeps the sizes. -/
lemma keeps_call {url} : KeepsSizes manifest s (.call url) :=
  keeps_of_shrinks (fun _ ht => by cases ht) fun _ => .inl rfl

/-- A read keeps the sizes. -/
lemma keeps_read {f} : KeepsSizes manifest s (.read f) :=
  keeps_of_shrinks (fun _ ht => by cases ht) fun _ => .inl rfl

/-- A removal keeps the sizes. -/
lemma keeps_remove {f} : KeepsSizes manifest s (.remove f) := by
  refine keeps_of_shrinks (fun _ ht => by cases ht) ?_
  intro n
  rw [apply_remove]
  split
  · exact .inr rfl
  · exact .inl rfl

/-- A move into place keeps the sizes. -/
lemma keeps_rename {n} : KeepsSizes manifest s (.rename (.staged n) (.live n)) := by
  refine keeps_of_shrinks (fun _ ht => by cases ht) ?_
  intro m
  cases hsrc : s (.staged n) with
  | none =>
    simp only [Op.apply, hsrc]
    exact .inl trivial
  | some bs =>
    rw [apply_rename hsrc]
    split
    · exact .inr rfl
    · rw [if_neg (by simp)]
      exact .inl rfl

/-- A staged file with at most the bytes of its entry. -/
lemma WithinSizes.update {s' n entry content} (within : WithinSizes manifest s)
    (hentry : manifest.files n.name = some entry) (hlen : content.length ≤ entry.size)
    (hfile : s' (.staged n) = some content) (hothers : ∀ f, f ≠ .staged n → s' f = s f) :
    WithinSizes manifest s' := by
  intro m bs hbs
  by_cases hm : m = n
  · subst hm
    rw [hfile] at hbs
    cases hbs
    exact ⟨entry, hentry, hlen⟩
  · rw [hothers _ (by simp [hm])] at hbs
    exact within m bs hbs

/-- A new file is empty. -/
lemma keeps_create {n entry} (hentry : manifest.files n.name = some entry) :
    KeepsSizes manifest s (.create (.staged n) []) := by
  intro within
  refine ⟨@WithinSizes.update _ _ _ _ _ [] within hentry (Nat.zero_le _) (by simp)
    fun f hf => by simp [hf], ?_⟩
  intro s' ht
  cases ht with
  | create hp =>
    obtain rfl := List.prefix_nil.mp hp
    exact @WithinSizes.update _ _ _ _ _ [] within hentry (Nat.zero_le _) (by simp)
      fun f hf => by simp [hf]

/-- Bytes that fit the entry may be appended. -/
lemma keeps_append {n entry content bs} (hentry : manifest.files n.name = some entry)
    (hfile : s (.staged n) = some content) (hlen : content.length + bs.length ≤ entry.size) :
    KeepsSizes manifest s (.append (.staged n) bs) := by
  intro within
  refine ⟨@WithinSizes.update _ _ _ _ _ (content ++ bs) within hentry ?_ ?_ fun f hf => by simp [hf],
    ?_⟩
  · rw [List.length_append]
    exact hlen
  · rw [apply_append, if_pos rfl, hfile]
    rfl
  · intro s' ht
    cases ht with
    | @append _ _ p hp =>
      refine @WithinSizes.update _ _ _ _ _ (content ++ p) within hentry ?_ ?_ fun f hf => by simp [hf]
      · rw [List.length_append]
        exact (Nat.add_le_add_left hp.length_le _).trans hlen
      · rw [Function.update_self, hfile]
        rfl

/-- The property does not depend on the `n`-th staged file. -/
def OffStaged (n : DataFile) (other : BootDir → Prop) : Prop :=
  ∀ s s', (∀ f, f ≠ .staged n → s' f = s f) → other s → other s'

/-- A file is removed if it is there. -/
lemma removeFile_triple {f} {pre : BootDir → Prop} {post : Unit → BootDir → Prop}
    (kept : ∀ s, pre s → s f = none → post () s)
    (removed : ∀ s, pre s → post () ((.remove f : BootOp).apply s)) :
    Triple (KeepsSizes manifest) pre (Boot.removeFile f) post := by
  refine Triple.bind Triple.inspect_eq ?_
  intro b
  cases b with
  | false => exact Triple.pure fun s hs => kept s hs.1 (eq_none_of_isSome hs.2)
  | true => exact Triple.perform fun s hs => ⟨keeps_remove, removed s hs.1⟩

/-- Removing a file and failing. -/
lemma removeFile_fails {α : Type} {f msg} {pre : BootDir → Prop} {post : α → BootDir → Prop} :
    Triple (KeepsSizes manifest) pre
      (do Boot.removeFile f; Prog.lift (bail msg) : Boot α) post := by
  refine Triple.seq (fun _ _ => True) (removeFile_triple (fun _ _ _ => trivial) fun _ _ => trivial) ?_
  intro _
  exact Triple.lift fun _ _ h => nomatch h

/-- What is written is what is hashed, within the authenticated size and the free space. -/
lemma writeChunks_triple {url n entry used broken chunks written hasher} {other : BootDir → Prop}
    (hentry : manifest.files n.name = some entry) (hother : OffStaged n other)
    (hwritten : written = hasher.length) (hsize : written ≤ entry.size)
    (hfree : used + written ≤ env.free) :
    Triple (KeepsSizes manifest)
      (fun s => other s ∧ s (.staged n) = some hasher)
      (writeChunks env url n entry.size used broken chunks written hasher)
      fun r s => (other s ∧ s (.staged n) = some r.2) ∧ r.1 = r.2.length ∧ used + r.1 ≤ env.free := by
  induction chunks generalizing written hasher with
  | nil =>
    refine Triple.lift ?_
    intro r s ok hs
    cases broken with
    | none =>
      cases ok
      exact ⟨hs, hwritten, hfree⟩
    | some e => cases ok
  | cons chunk chunks ih =>
    rw [writeChunks]
    split
    · exact removeFile_fails
    · rename_i hfits
      have hlen : hasher.length + chunk.length ≤ entry.size := by omega
      split
      · refine Triple.seq (fun _ _ => True) (Triple.perform fun s hs => ⟨?_, trivial⟩) ?_
        · refine keeps_append hentry hs.2 ((Nat.add_le_add_left ?_ _).trans hlen)
          exact List.length_take_le' _ _
        · intro _
          exact Triple.lift fun _ _ h => nomatch h
      · rename_i hroom
        have hadd : saturatingAdd written chunk.length = written + chunk.length :=
          saturatingAdd_eq (by have := env.free_lt; omega)
        rw [hadd]
        refine Triple.seq (fun _ s => other s ∧ s (.staged n) = some (hasher ++ chunk))
          (Triple.perform fun s hs => ⟨keeps_append hentry hs.2 hlen, ?_, ?_⟩) ?_
        · exact hother s _ (fun f hf => by simp [hf]) hs.1
        · rw [apply_append, if_pos rfl, hs.2]
          rfl
        · intro _
          exact ih (by rw [hwritten, List.length_append]) (by omega) (by omega)

/-- A verified download leaves an authentic file of the returned size. -/
lemma downloadAndVerify_triple {url n entry used} {other : BootDir → Prop}
    (hentry : manifest.files n.name = some entry) (hother : OffStaged n other)
    (hfree : used ≤ env.free) :
    Triple (KeepsSizes manifest) other
      (downloadAndVerify env url n entry.sha256 entry.size used)
      fun written s => other s ∧ used + written ≤ env.free ∧
        ∃ content, s (.staged n) = some content ∧ content.length = written ∧
          MatchesEntry env entry content := by
  refine Triple.seq (fun _ => other) (Triple.perform fun s hs => ⟨keeps_call, hs⟩) ?_
  intro _
  refine Triple.bind Triple.lift_ok ?_
  intro response
  refine Triple.bind Triple.lift_ok ?_
  intro _
  refine Triple.bind Triple.lift_ok ?_
  intro _
  refine Triple.seq (fun _ s => other s ∧ s (.staged n) = some [])
    (Triple.perform fun s hs => ⟨keeps_create hentry, ?_, by simp⟩) ?_
  · exact hother s _ (fun f hf => by simp [hf]) hs.1.1.1
  · intro _
    refine Triple.bind (writeChunks_triple hentry hother rfl (Nat.zero_le _) hfree) ?_
    rintro ⟨written, hasher⟩
    refine Triple.bind Triple.lift_ok ?_
    intro _
    refine Triple.bind Triple.lift_ok ?_
    intro _
    dsimp only
    split
    · exact removeFile_fails
    · rename_i hsize
      split
      · rename_i hdigest
        refine Triple.pure fun s hs => ?_
        obtain ⟨⟨⟨⟨hs, hfile⟩, hlen, hroom⟩, _⟩, _⟩ := hs
        refine ⟨hs, hroom, hasher, hfile, hlen.symm, ?_, hdigest⟩
        exact hlen.symm.trans (not_not.mp hsize)
      · exact removeFile_fails

/-- The named staged files are those of the manifest. -/
def Verified (env : Outside) (manifest : PublishedManifest) (names : List DataFile) (s : BootDir) :
    Prop :=
  ∀ n ∈ names, ∃ entry content, manifest.files n.name = some entry ∧
    s (.staged n) = some content ∧ MatchesEntry env entry content

/-- What is verified does not depend on the file being downloaded. -/
lemma offStaged_verified {n names total} (hn : n ∉ names) :
    OffStaged n fun s => Verified env manifest names s ∧ total = sizeOf .staged names s := by
  rintro s s' hsame ⟨verified, htotal⟩
  have hfile : ∀ m ∈ names, s' (.staged m) = s (.staged m) := by
    intro m hm
    refine hsame _ ?_
    rintro h
    cases h
    exact hn hm
  constructor
  · intro m hm
    rw [hfile m hm]
    exact verified m hm
  · rw [htotal, sizeOf, sizeOf]
    refine congrArg List.sum (List.map_congr_left ?_)
    intro m hm
    rw [hfile m hm]

/-- The downloads leave every file verified and return the total of the sizes. -/
lemma downloadAll_triple {dir names done total}
    (hentries : ∀ n ∈ names, ∃ entry, manifest.files n.name = some entry)
    (hnodup : (done ++ names).Nodup) (hfree : total ≤ env.free) :
    Triple (KeepsSizes manifest)
      (fun s => Verified env manifest done s ∧ total = sizeOf .staged done s)
      (downloadAll env dir manifest names total)
      fun total s => Verified env manifest (done ++ names) s ∧
        total = sizeOf .staged (done ++ names) s := by
  induction names generalizing done total with
  | nil =>
    rw [List.append_nil]
    exact Triple.pure fun s hs => hs
  | cons n names ih =>
    obtain ⟨entry, hentry⟩ := hentries n List.mem_cons_self
    have hn : n ∉ done := fun h =>
      (List.nodup_append.mp hnodup).2.2 n h n List.mem_cons_self rfl
    rw [downloadAll, hentry]
    refine Triple.seq (fun e s => (Verified env manifest done s ∧ total = sizeOf .staged done s) ∧
      e = entry) (Triple.lift fun e s he hs => ⟨hs, by cases he; rfl⟩) ?_
    intro e
    refine Triple.assume (fun s hs => hs.2) ?_
    rintro rfl
    refine Triple.seq _ ((downloadAndVerify_triple hentry (offStaged_verified hn) hfree).conseq
      (fun s hs => hs.1) fun _ _ hs => hs) ?_
    intro written
    refine Triple.assume (fun s hs => hs.2.1) ?_
    intro hroom
    rw [saturatingAdd_eq (hroom.trans_lt env.free_lt), List.append_cons]
    refine (ih (fun m hm => hentries m (List.mem_cons_of_mem n hm)) ?_ hroom).conseq ?_
      fun _ _ hs => hs
    · rw [← List.append_cons]
      exact hnodup
    · rintro s ⟨⟨verified, htotal⟩, _, content, hfile, hlen, authentic⟩
      constructor
      · intro m hm
        rcases List.mem_append.mp hm with hm | hm
        · exact verified m hm
        · obtain rfl := List.mem_singleton.mp hm
          exact ⟨_, content, hentry, hfile, authentic⟩
      · rw [htotal, sizeOf, sizeOf, List.map_append, List.sum_append, List.map_singleton,
          List.sum_singleton, hfile, Option.getD_some, hlen]

end Download

section Install

variable {env : Outside} {cfg : Config} {height : Nat} {manifest : PublishedManifest}

/-- Metadata that passes the checks is valid. -/
lemma checkPirMetadata_ok {path network root u} (ok : checkPirMetadata path network root = .ok u)
    (hheight : root.height = some height) : ValidRoot network height root := by
  obtain ⟨_, hnetwork, ok⟩ := bind_eq_ok.mp ok
  obtain ⟨_, hdataset, ok⟩ := bind_eq_ok.mp ok
  obtain ⟨_, hlayout, ok⟩ := bind_eq_ok.mp ok
  obtain ⟨rows, hrows, ok⟩ := bind_eq_ok.mp ok
  obtain ⟨rowBytes, hrowBytes, ok⟩ := bind_eq_ok.mp ok
  obtain ⟨tier0Bytes, htier0, ok⟩ := bind_eq_ok.mp ok
  have hsame := ensure_eq_ok.mp ok
  simp only [Bool.and_eq_true, beq_iff_eq] at hsame
  obtain ⟨⟨⟨hdepth, rfl⟩, rfl⟩, rfl⟩ := hsame
  exact ⟨of_decide_eq_true (ensure_eq_ok.mp hnetwork), ensure_eq_ok.mp hdataset,
    PirLayout.validateSupported_ok (context_eq_ok.mp hlayout), hdepth, hrows, hrowBytes, htier0,
    hheight⟩

/-- The metadata that passes is valid. -/
lemma validatePirRoot_triple {f network} {pre : BootDir → Prop} :
    Triple (KeepsSizes manifest) pre (validatePirRoot env f network height) fun _ s => pre s ∧
      ∃ content root, s f = some content ∧ env.decodeMetadata content = .ok root ∧
        ValidRoot network height root := by
  refine Triple.seq (fun root s => pre s ∧ ∃ content, s f = some content ∧
    env.decodeMetadata content = .ok root ∧ checkPirMetadata f.path network root = .ok ()) ?_ ?_
  · refine Triple.seq (fun raw s => pre s ∧ s f = some raw) ?_ ?_
    · refine Triple.seq (fun r s => pre s ∧ r = s f)
        (Triple.read fun s hs => ⟨keeps_read, hs, rfl⟩) ?_
      intro r
      cases r with
      | none => exact Triple.lift fun _ _ h => nomatch h
      | some bs => exact Triple.pure fun s hs => ⟨hs.1, hs.2.symm⟩
    · intro raw
      refine Triple.bind Triple.lift_ok ?_
      intro root
      refine Triple.bind Triple.lift_ok ?_
      intro _
      refine Triple.pure fun s hs => ?_
      obtain ⟨⟨⟨hs, hfile⟩, hdecoded⟩, hcheck⟩ := hs
      exact ⟨hs, raw, hfile, ofResult_eq_ok.mp (context_eq_ok.mp hdecoded), hcheck⟩
  · intro root
    refine Triple.lift fun _ s hheight hs => ?_
    obtain ⟨hs, content, hfile, hdecoded, hcheck⟩ := hs
    have hheight := of_decide_eq_true (ensure_eq_ok.mp hheight)
    exact ⟨hs, content, root, hfile, hdecoded, checkPirMetadata_ok hcheck hheight⟩

/-- Evicting a cache leaves the snapshot files. -/
lemma precomputeFiles_disjoint {n m cache} (hm : m ∈ SNAPSHOT_FILES)
    (hcache : cache ∈ precomputeFiles n) : m ≠ cache := by
  rintro rfl
  cases n <;> simp [precomputeFiles] at hcache <;>
    rcases hcache with rfl | rfl <;> simp [SNAPSHOT_FILES] at hm

/-- Removing files that a property does not depend on. -/
lemma removeFiles_triple {names : List DataFile} {place : DataFile → BootFile}
    {pre : BootDir → Prop}
    (stable : ∀ n ∈ names, ∀ s, pre s → pre ((.remove (place n) : BootOp).apply s)) :
    Triple (KeepsSizes manifest) pre
      (Prog.forEach names fun n => Boot.removeFile (place n) : Boot Unit) fun _ => pre :=
  Triple.forEach fun n hn => removeFile_triple (fun _ hs _ => hs) fun s hs => stable n hn s hs

variable {contents : DataFile → Option Bytes}

/-- The files of `done` are in place, those of `names` still staged. -/
structure Installing (contents : DataFile → Option Bytes) (done names : List DataFile) (s : BootDir) :
    Prop where
  live : ∀ n ∈ done, s (.live n) = contents n
  staged : ∀ n ∈ names, s (.staged n) = contents n

/-- One file is moved into place. -/
lemma installFile_triple {n done names} (hdone : ∀ m ∈ n :: done, m ∈ SNAPSHOT_FILES)
    (hn : n ∉ names) :
    Triple (KeepsSizes manifest) (Installing contents done (n :: names)) (installFile env n)
      fun _ => Installing contents (n :: done) names := by
  refine Triple.bind Triple.lift_ok ?_
  intro _
  refine Triple.bind Triple.inspect_eq ?_
  intro b
  cases b with
  | false => exact Triple.lift fun _ _ h => nomatch h
  | true =>
    refine Triple.seq (fun _ => Installing contents (n :: done) names)
      (Triple.perform fun s hs => ⟨keeps_rename, ?_⟩) ?_
    · obtain ⟨⟨installing, _⟩, hex⟩ := hs
      obtain ⟨content, hcontent⟩ := Option.isSome_iff_exists.mp hex.symm
      have hmoved : contents n = some content :=
        (installing.staged n List.mem_cons_self).symm.trans hcontent
      constructor
      · intro m hm
        rw [apply_rename hcontent, if_neg (by simp)]
        by_cases hmn : m = n
        · rw [hmn, if_pos rfl, hmoved]
        · rw [if_neg (by simp [hmn])]
          exact installing.live m ((List.mem_cons.mp hm).resolve_left hmn)
      · intro m hm
        have hmn : m ≠ n := fun h => hn (h ▸ hm)
        rw [apply_rename hcontent, if_neg (by simp [hmn]), if_neg (by simp)]
        exact installing.staged m (List.mem_cons_of_mem n hm)
    · intro _
      refine removeFiles_triple ?_
      intro cache hcache s hs
      constructor
      · intro m hm
        rw [apply_remove, if_neg]
        · exact hs.live m hm
        · intro h
          cases h
          exact precomputeFiles_disjoint (hdone _ hm) hcache rfl
      · intro m hm
        rw [apply_remove, if_neg (by simp)]
        exact hs.staged m hm

/-- Every staged file is moved into place. -/
lemma installFiles_triple {done names} (hfiles : ∀ m ∈ names ++ done, m ∈ SNAPSHOT_FILES)
    (hnodup : names.Nodup) :
    Triple (KeepsSizes manifest) (Installing contents done names)
      (Prog.forEach names (installFile env))
      fun _ s => ∀ n ∈ names ++ done, s (.live n) = contents n := by
  induction names generalizing done with
  | nil => exact Triple.pure fun s hs => hs.live
  | cons n names ih =>
    obtain ⟨hn, hnodup⟩ := List.nodup_cons.mp hnodup
    refine Triple.bind (installFile_triple ?_ hn) ?_
    · intro m hm
      refine hfiles m ?_
      rcases List.mem_cons.mp hm with rfl | hm
      · exact List.mem_cons_self
      · exact List.mem_append_right _ hm
    · intro _
      refine (ih ?_ hnodup).conseq (fun s hs => hs) fun _ s hs m hm => hs m ?_
      · intro m hm
        refine hfiles m ?_
        simp only [List.mem_append, List.mem_cons] at hm ⊢
        tauto
      · simp only [List.mem_append, List.mem_cons] at hm ⊢
        tauto

/-- The install puts the staged contents into place. -/
lemma installFromStaging_triple :
    Triple (KeepsSizes manifest) (fun s => ∀ n ∈ SNAPSHOT_FILES, s (.staged n) = contents n)
      (installFromStaging env) fun _ s => ∀ n ∈ SNAPSHOT_FILES, s (.live n) = contents n := by
  refine Triple.seq (fun _ s => ∀ n ∈ SNAPSHOT_FILES, s (.live n) = contents n) ?_ ?_
  · refine (@installFiles_triple env manifest contents [] SNAPSHOT_FILES ?_ (by decide)).conseq ?_ ?_
    · intro m hm
      simpa using hm
    · intro s hs
      exact ⟨fun _ h => absurd h List.not_mem_nil, hs⟩
    · intro _ s hs n hn
      exact hs n (by simpa using hn)
  · intro _
    refine removeFiles_triple ?_
    intro legacy hlegacy s hs n hn
    rw [apply_remove, if_neg]
    · exact hs n hn
    · intro h
      cases h
      have hdisjoint : ∀ m ∈ LEGACY_TIER2, m ∉ SNAPSHOT_FILES := by decide
      exact hdisjoint _ hlegacy hn

/-- Removing staged files leaves none of them. -/
lemma removeStaged_triple {done names : List DataFile} :
    Triple (KeepsSizes manifest) (fun s => ∀ n ∈ done, s (.staged n) = none)
      (Prog.forEach names fun n => Boot.removeFile (.staged n) : Boot Unit)
      fun _ s => ∀ n ∈ names ++ done, s (.staged n) = none := by
  induction names generalizing done with
  | nil => exact Triple.pure fun s hs => hs
  | cons n names ih =>
    refine Triple.seq (fun _ s => ∀ m ∈ n :: done, s (.staged m) = none)
      (removeFile_triple ?_ ?_) fun _ => ih.conseq (fun s hs => hs) fun _ s hs m hm => hs m ?_
    · intro s hs hnone m hm
      rcases List.mem_cons.mp hm with rfl | hm
      · exact hnone
      · exact hs m hm
    · intro s hs m hm
      rw [apply_remove]
      split
      · rfl
      · rename_i hmn
        exact hs m ((List.mem_cons.mp hm).resolve_left fun h => hmn (by rw [h]))
    · simp only [List.mem_append, List.mem_cons] at hm ⊢
      tauto

/-- Every file is in the list. -/
lemma DataFile.mem_all {n} : n ∈ DataFile.all := by
  cases n <;> simp [DataFile.all]

/-- The staging directory is empty after the cleaning. -/
lemma cleanStaging_triple :
    Triple (KeepsSizes manifest) (fun _ => True) (cleanStaging env)
      fun _ s => ∀ n, s (.staged n) = none := by
  refine Triple.bind Triple.lift_ok ?_
  intro _
  refine Triple.seq (fun _ s => ∀ n, s (.staged n) = none)
    ((@removeStaged_triple manifest [] DataFile.all).conseq
      (fun _ _ _ h => absurd h List.not_mem_nil)
      fun _ s hs n => hs n (List.mem_append_left _ DataFile.mem_all)) ?_
  intro _
  exact Triple.lift fun _ _ _ hs => hs

/-- What follows the cleaning in `fetchAuthenticated`. -/
def finishFetch (env : Outside) (cfg : Config) (height : Nat) (manifest : PublishedManifest) :
    Boot Nat := do
  let totalBytes ← downloadAll env (snapshotDir cfg height) manifest SNAPSHOT_FILES 0
  validatePirRoot env (.staged .pirRoot) cfg.zcashNetwork height
  installFromStaging env
  Prog.lift (ofResult (env.io .syncDataDir))
  Prog.forEach DataFile.all fun n => Boot.removeFile (.staged n)
  return totalBytes

/-- The three stages of a fetch. -/
lemma fetchAuthenticated_eq {manifestSha256} :
    fetchAuthenticated env cfg height manifestSha256 =
      fetchManifest env cfg height manifestSha256 >>= fun manifest =>
        cleanStaging env >>= fun _ => finishFetch env cfg height manifest := by
  simp only [fetchAuthenticated, stageSnapshot, finishFetch, Prog.bind_assoc, Prog.pure_bind]

/-- Complete files stay complete when they are moved. -/
lemma Complete.move {s s' : BootDir} (complete : Complete env cfg height manifest .staged s)
    (hmoved : ∀ n ∈ SNAPSHOT_FILES, s' (.live n) = s (.staged n)) :
    Complete env cfg height manifest .live s' := by
  constructor
  · intro n hn
    rw [hmoved n hn]
    exact complete.files n hn
  · rw [hmoved _ (by simp [SNAPSHOT_FILES])]
    exact complete.root

/-- A fetch that succeeds has installed the published snapshot. -/
lemma finishFetch_triple
    (hentries : ∀ n ∈ SNAPSHOT_FILES, ∃ entry, manifest.files n.name = some entry) :
    Triple (KeepsSizes manifest) (fun _ => True) (finishFetch env cfg height manifest)
      fun count s => Complete env cfg height manifest .live s ∧
        count = sizeOf .live SNAPSHOT_FILES s := by
  refine Triple.bind ((@downloadAll_triple env manifest (snapshotDir cfg height) SNAPSHOT_FILES [] 0
    hentries (by decide) (Nat.zero_le _)).conseq
      (fun _ _ => ⟨fun _ h => absurd h List.not_mem_nil, rfl⟩) fun _ _ hs => hs) ?_
  intro total
  refine Triple.bind validatePirRoot_triple ?_
  intro _
  refine Triple.fix ?_
  rintro s₀ ⟨⟨verified, htotal⟩, root⟩
  -- from here on the contents staged in `s₀` only move
  refine Triple.bind ((@installFromStaging_triple env manifest fun n => s₀ (.staged n)).conseq ?_
    fun _ _ hs => hs) ?_
  · rintro s rfl n _
    rfl
  · intro _
    refine Triple.bind Triple.lift_ok ?_
    intro _
    refine Triple.seq (fun _ s => ∀ n ∈ SNAPSHOT_FILES, s (.live n) = s₀ (.staged n))
      ((removeFiles_triple ?_).conseq (fun _ hs => hs.1) fun _ _ hs => hs) ?_
    · intro n _ s hs m hm
      rw [apply_remove, if_neg (by simp)]
      exact hs m hm
    · intro _
      refine Triple.pure fun s hs => ⟨Complete.move ⟨verified, root⟩ hs, ?_⟩
      rw [htotal, sizeOf, sizeOf]
      refine congrArg List.sum (List.map_congr_left ?_)
      intro n hn
      rw [hs n hn]

end Install

section Fetch

variable {env : Outside} {cfg : Config} {height : Nat} {manifestSha256 : Option String} {s : BootDir}

/-- Cleaning in front of a run writes no staged file. -/
lemma StagedWithin.append {ops rest : List BootOp} (clean : ∀ o ∈ ops, CleanOp o)
    (h : StagedWithin env cfg height manifestSha256 (exec s ops) rest) :
    StagedWithin env cfg height manifestSha256 s (ops ++ rest) := by
  intro pre o post hops
  have hclean : o ∈ ops → (∀ n, o.Avoids (.staged n)) ∨ ∃ n, o = .remove (.staged n) := by
    intro ho
    cases clean o ho with
    | call => exact .inl fun _ => trivial
    | remove => exact .inr ⟨_, rfl⟩
  rcases List.append_eq_append_iff.mp hops with ⟨mid, rfl, hrest⟩ | ⟨mid, rfl, hmid⟩
  · rw [exec_append]
    exact h mid o post hrest
  · cases mid with
    | nil =>
      have := h [] o post (by simpa using hmid.symm)
      simpa using this
    | cons x mid =>
      cases hmid
      rcases hclean (by simp) with h | h
      · exact .inl h
      · exact .inr (.inl h)

/-- Cleaning stages nothing. -/
lemma stagedWithin_of_clean {ops : List BootOp} (clean : ∀ o ∈ ops, CleanOp o) :
    StagedWithin env cfg height manifestSha256 s ops := by
  rw [← List.append_nil ops]
  refine StagedWithin.append clean ?_
  intro pre o rest h
  simp at h

/-- From an empty staging directory on, the invariant bounds every staged file. -/
lemma stagedWithin_of_steps {response manifest} {ops : List BootOp}
    (published : Published env cfg height manifestSha256 response manifest)
    (empty : ∀ n, s (.staged n) = none) (steps : Steps (KeepsSizes manifest) s ops) :
    StagedWithin env cfg height manifestSha256 s ops := by
  rintro pre o rest rfl
  obtain ⟨before, after⟩ := steps_append.mp steps
  refine .inr (.inr ⟨response, manifest, published, fun s' cut => ?_⟩)
  refine Steps.interrupted after (before.exec ?_) cut
  intro n content hcontent
  rw [empty n] at hcontent
  cases hcontent

/-- A fetch never stages more than the manifest says. -/
lemma fetchAuthenticated_stagedWithin :
    StagedWithin env cfg height manifestSha256 s
      (fetchAuthenticated env cfg height manifestSha256 s).1 := by
  rw [fetchAuthenticated_eq]
  have hclean := (@fetchManifest_ops env cfg height manifestSha256 s).1
  cases hmanifest : (fetchManifest env cfg height manifestSha256 s).2 with
  | error e =>
    rw [Prog.bind_of_error hmanifest]
    exact stagedWithin_of_clean hclean
  | ok manifest =>
    obtain ⟨⟨response, published⟩, hentries⟩ := fetchManifest_ok hmanifest
    rw [Prog.bind_of_ok hmanifest]
    refine StagedWithin.append hclean ?_
    change StagedWithin env cfg height manifestSha256
      ((fetchManifest env cfg height manifestSha256).after s) _
    generalize (fetchManifest env cfg height manifestSha256).after s = s₁
    have hclean := (@cleanStaging_ops env s₁).1
    cases hstaging : (cleanStaging env s₁).2 with
    | error e =>
      rw [Prog.bind_of_error hstaging]
      exact stagedWithin_of_clean hclean
    | ok u =>
      rw [Prog.bind_of_ok hstaging]
      refine StagedWithin.append hclean (stagedWithin_of_steps published ?_ ?_)
      · exact (@cleanStaging_triple env manifest s₁ trivial).2 u hstaging
      · exact (finishFetch_triple hentries _ trivial).1

/-- A fetch is all or nothing up to its install, installs only the authenticated files, and stages no
more than their sizes. -/
theorem fetchAuthenticated_authenticates :
    (∀ e, (stageSnapshot env cfg height manifestSha256 s).2 = .error e →
      (fetchAuthenticated env cfg height manifestSha256 s).2 = .error e ∧
      ∀ s', Interrupted s (fetchAuthenticated env cfg height manifestSha256 s).1 s' →
        ∀ n, s' (.live n) = s (.live n)) ∧
    (∀ count, (fetchAuthenticated env cfg height manifestSha256 s).2 = .ok count →
      ∃ response manifest, Published env cfg height manifestSha256 response manifest ∧
        Complete env cfg height manifest .live
          ((fetchAuthenticated env cfg height manifestSha256).after s) ∧
        count = sizeOf .live SNAPSHOT_FILES
          ((fetchAuthenticated env cfg height manifestSha256).after s)) ∧
    StagedWithin env cfg height manifestSha256 s
      (fetchAuthenticated env cfg height manifestSha256 s).1 := by
  refine ⟨?_, ?_, fetchAuthenticated_stagedWithin⟩
  · intro e failed
    rw [fetchAuthenticated, Prog.bind_of_error failed]
    refine ⟨rfl, fun s' cut n => ?_⟩
    exact Interrupted.of_avoids (fun o ho => ((stageSnapshot_ops s).1 o ho).avoids_live) cut
  · intro count ok
    rw [fetchAuthenticated_eq] at ok ⊢
    obtain ⟨manifest, hmanifest, ok, _⟩ := Prog.bind_ok ok
    obtain ⟨u, hstaging, ok, _⟩ := Prog.bind_ok ok
    obtain ⟨⟨response, published⟩, hentries⟩ := fetchManifest_ok hmanifest
    have hfinish := (finishFetch_triple hentries _ trivial).2 count ok
    refine ⟨response, manifest, published, ?_⟩
    rw [Prog.after_bind hmanifest, Prog.after_bind hstaging]
    exact hfinish

end Fetch

/-- A published `pir_root.json`. -/
def sampleRootText : Bytes := ascii
  ("\x7b\"zcash_network\":\"test\",\"nullifier_pool\":\"ironwood\",\"dataset" ++
    "_version\":2,\"pir_root\":\"00\",\"circuit_root\":\"00\",\"num_ranges\"" ++
    ":1,\"pir_depth\":19,\"pir_layout\":\x7b\"pir_depth\":19,\"tier0_layers" ++
    "\":12,\"tier1_layers\":7,\"poly_len\":4096\x7d,\"tier0_bytes\":393184," ++
    "\"tier1_rows\":4096,\"tier1_row_bytes\":12288,\"height\":4134010\x7d")

/-- Its manifest, with the digests of the three files. -/
def sampleManifestText : Bytes := ascii
  ("\x7b\"schema_version\":2,\"nullifier_pool\":\"ironwood\",\"dataset_ver" ++
    "sion\":2,\"height\":4134010,\"files\":\x7b\"pir_root.json\":\x7b\"size\":29" ++
    "9,\"sha256\":\"4830213656fd132157cf18fe35f0fe50ff4c9794c9b1ffe6" ++
    "6251f91268faf0ba\"\x7d,\"tier0.bin\":\x7b\"size\":3,\"sha256\":\"039058c6f" ++
    "2c0cb492c533b0a4d14ef77cc0f78abccced5287d84a1a2011cfb81\"\x7d,\"t" ++
    "ier1.bin\":\x7b\"size\":4,\"sha256\":\"c6d44cf418f610e3fe9e1d9294ff43" ++
    "def81c6cdcad6cbb1820cff48d3aa4355d\"\x7d\x7d\x7d")

def sampleRoot : PirMetadata where
  zcashNetwork := .test
  nullifierPool := "ironwood"
  datasetVersion := 2
  pirRoot := "00"
  circuitRoot := "00"
  numRanges := 1
  pirDepth := 19
  pirLayout := COMPILED_PIR_LAYOUT
  tier0Bytes := 393184
  tier1Rows := 4096
  tier1RowBytes := 12288
  height := some 4134010

/-- SHA-256 at the texts of the sample. -/
def sampleDigest (bs : Bytes) : String :=
  if bs = [1, 2, 3] then "039058c6f2c0cb492c533b0a4d14ef77cc0f78abccced5287d84a1a2011cfb81"
  else if bs = [4, 5, 6, 7] then "c6d44cf418f610e3fe9e1d9294ff43def81c6cdcad6cbb1820cff48d3aa4355d"
  else if bs = sampleRootText then "4830213656fd132157cf18fe35f0fe50ff4c9794c9b1ffe66251f91268faf0ba"
  else if bs = sampleManifestText then
    "c44dae4d95a0b9915339ad5fa13b7db8e7d3d2305627a9b9843e66a8237c39f3"
  else ""

def sampleManifest : PublishedManifest where
  schemaVersion := 2
  nullifierPool := "ironwood"
  datasetVersion := 2
  height := 4134010
  files := fun name =>
    if name = "tier0.bin" then some ⟨3, by decide, sampleDigest [1, 2, 3]⟩
    else if name = "tier1.bin" then some ⟨4, by decide, sampleDigest [4, 5, 6, 7]⟩
    else if name = "pir_root.json" then some ⟨299, by decide, sampleDigest sampleRootText⟩
    else none

/-- A server that sends the sample, one file in two chunks. -/
def sampleServer (url : String) : Except String Response :=
  let dir := "https://cdn/snapshots/test/4134010/"
  if url = dir ++ "manifest.json" then .ok ⟨200, none, [sampleManifestText], none⟩
  else if url = dir ++ "tier0.bin" then .ok ⟨200, none, [[1], [2, 3]], none⟩
  else if url = dir ++ "tier1.bin" then .ok ⟨200, none, [[4, 5, 6, 7]], none⟩
  else if url = dir ++ "pir_root.json" then .ok ⟨200, none, [sampleRootText], none⟩
  else .error "connection refused"

def sampleOutside : Outside where
  send := sampleServer
  io := fun _ => .ok ()
  free := 2 ^ 40
  free_lt := by decide
  sha256 := fun bs => (hexDecode (sampleDigest bs).toList).getD []
  decodeManifest := fun bs =>
    if bs = sampleManifestText then .ok sampleManifest else .error "expected value"
  decodeMetadata := fun bs => if bs = sampleRootText then .ok sampleRoot else .error "expected value"

/-- Leftovers of an earlier run and an old snapshot. -/
def sampleBefore : BootDir
  | .staged .tier0 => some [9, 9, 9, 9, 9]
  | .live .tier0 => some [8]
  | .live .tier0Precompute => some [8]
  | _ => none

def sampleFetch : Boot Nat :=
  fetchAuthenticated sampleOutside ⟨.test, "https://cdn"⟩ 4134010
    (some "c44dae4d95a0b9915339ad5fa13b7db8e7d3d2305627a9b9843e66a8237c39f3")

/-- The sample is fetched. -/
lemma sampleFetch_ok : (sampleFetch sampleBefore).2 = .ok 306 := by
  delta sampleFetch sampleOutside sampleServer sampleManifest sampleDigest sampleRootText
    sampleManifestText
  simp only [ascii_append, apply_ite String.toList]
  -- The kernel is slow to list the characters of a literal, so the texts are listed before.
  iterate 12 rw [ascii_ofList]
  iterate 5 rw [String.toList_ofList]
  decide +kernel

/-- The sample is in place with its total size. -/
theorem fetchAuthenticated_authenticates_sample :
    (sampleFetch sampleBefore).2 = .ok 306 ∧
      306 = sizeOf .live SNAPSHOT_FILES (sampleFetch.after sampleBefore) := by
  obtain ⟨_, _, _, _, hcount⟩ := fetchAuthenticated_authenticates.2.1 306 sampleFetch_ok
  exact ⟨sampleFetch_ok, hcount⟩

end NullifierPir.NfServer
