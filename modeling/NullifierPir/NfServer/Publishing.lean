import NullifierPir.NfServer.Snapshot

/-!
# A published snapshot is installed

The other half of `Snapshot`: when the server answers every request in full, the files match the
manifest and fit the disk, and no file operation fails, a fetch succeeds from every directory, whatever
an earlier run left in it (`fetchAuthenticated_installs`). A body may arrive in any chunks.
-/

namespace NullifierPir.NfServer
open Rust ByteString Crash Hex NullifierPir.Types

section Spec

variable (env : Outside) (cfg : Config) (height : Nat) (manifestSha256 : Option String)

/-- The server answers with the whole body. -/
structure Answers (url : String) (body : Bytes) : Prop where
  sent : ∃ response, env.send url = .ok response ∧ response.status < 400 ∧
    response.contentLength.getD 0 ≤ body.length ∧ response.broken = none ∧
    response.chunks.flatten = body

/-- A snapshot is published, fits the disk, and the directory can be written. -/
structure Publishes (manifest : PublishedManifest) (files : DataFile → Bytes) : Prop where
  io : ∀ step, env.io step = .ok ()
  sent : ∃ body, Answers env (manifestUrl cfg height) body ∧ body.length ≤ MAX_MANIFEST_BYTES ∧
    (∀ expected, manifestSha256 = some expected → hexEncode (env.sha256 body) = expected) ∧
    env.decodeManifest body = .ok manifest
  accepted : checkManifest height manifest = .ok ()
  entries : ∀ n ∈ SNAPSHOT_FILES, ∃ entry, manifest.files n.name = some entry ∧
    Answers env s!"{snapshotDir cfg height}/{n.name}" (files n) ∧ MatchesEntry env entry (files n)
  fits : (SNAPSHOT_FILES.map fun n => (files n).length).sum ≤ env.free
  root : ∃ root, env.decodeMetadata (files .pirRoot) = .ok root ∧
    ValidRoot cfg.zcashNetwork height root

end Spec

section Stage

variable {env : Outside} {cfg : Config} {height : Nat} {manifestSha256 : Option String}
  {manifest : PublishedManifest} {files : DataFile → Bytes} {s : BootDir}

/-- A small body is read whole. -/
lemma readManifest_of_small {chunks bytes}
    (hlen : bytes.length + chunks.flatten.length ≤ MAX_MANIFEST_BYTES) :
    readManifest none chunks bytes = .ok (bytes ++ chunks.flatten) := by
  induction chunks generalizing bytes with
  | nil => rw [readManifest, List.flatten_nil, List.append_nil]; rfl
  | cons chunk chunks ih =>
    rw [List.flatten_cons, List.length_append] at hlen
    rw [readManifest, ensure_pos (decide_eq_true (by omega)), ok_bind, ih]
    · rw [List.flatten_cons, List.append_assoc]
    · rw [List.length_append]
      omega

/-- A good status passes. -/
lemma errorForStatus_of_ok {url} {response : Response} (h : response.status < 400) :
    errorForStatus url response = .ok () := by
  rw [errorForStatus, ensure_pos, ok_bind, ensure_pos]
  · simp; omega
  · simp; omega

/-- A published manifest is fetched. -/
lemma fetchManifest_returns (pub : Publishes env cfg height manifestSha256 manifest files) :
    (fetchManifest env cfg height manifestSha256 s).2 = .ok manifest := by
  obtain ⟨body, ⟨response, hsent, hstatus, hlength, hwhole, hbody⟩, hsmall, hdigest, hdecode⟩ :=
    pub.sent
  have hread : readManifest response.broken response.chunks [] = .ok body := by
    rw [hwhole, readManifest_of_small (by rw [hbody]; simpa using hsmall), hbody, List.nil_append]
  have hauthentic : (manifestSha256.elim (.ok ()) fun expected =>
      ensure (hexEncode (env.sha256 body) == expected) "snapshot manifest hash mismatch") = .ok () := by
    cases manifestSha256 with
    | none => rfl
    | some expected => exact ensure_pos (beq_iff_eq.mpr (hdigest expected rfl))
  rw [fetchManifest, Prog.lift_bind (by rw [pub.io]; rfl), Prog.perform_bind,
    Prog.lift_bind (by rw [hsent]; rfl), Prog.lift_bind (errorForStatus_of_ok hstatus),
    Prog.lift_bind (ensure_pos (decide_eq_true (hlength.trans hsmall))), Prog.lift_bind hread,
    Prog.lift_bind hauthentic, Prog.lift_bind (by rw [hdecode]; rfl), Prog.lift_bind pub.accepted]
  rfl

/-- Removing a file returns. -/
lemma removeFile_returns {f} : (Boot.removeFile f).Returns := by
  refine .bind .inspect ?_
  intro b
  cases b with
  | false => exact .pure
  | true => exact .perform

/-- Removing files returns. -/
lemma removeFiles_returns {names : List DataFile} {place : DataFile → BootFile} :
    (Prog.forEach names fun n => Boot.removeFile (place n) : Boot Unit).Returns := by
  induction names with
  | nil => exact .pure
  | cons n names ih => exact .bind removeFile_returns fun _ => ih

/-- Cleaning the staging directory returns. -/
lemma cleanStaging_returns (pub : Publishes env cfg height manifestSha256 manifest files) :
    (cleanStaging env).Returns := by
  refine .bind (.lift (by rw [pub.io]; rfl)) fun _ => .bind removeFiles_returns fun _ => ?_
  exact .lift (by rw [pub.io]; rfl)

/-- A body of the authenticated size that fits the disk is written whole. -/
lemma writeChunks_returns {url n size used chunks written hasher}
    (hsize : written + chunks.flatten.length ≤ size)
    (hfree : used + written + chunks.flatten.length ≤ env.free) :
    (writeChunks env url n size used none chunks written hasher s).2 =
      .ok (written + chunks.flatten.length, hasher ++ chunks.flatten) := by
  induction chunks generalizing written hasher s with
  | nil => rw [List.flatten_nil, List.length_nil, List.append_nil]; rfl
  | cons chunk chunks ih =>
    rw [List.flatten_cons, List.length_append] at hsize hfree ⊢
    have hadd : saturatingAdd written chunk.length = written + chunk.length :=
      saturatingAdd_eq (by have := env.free_lt; omega)
    rw [writeChunks, if_neg (by omega), if_neg (by omega), Prog.perform_bind, hadd]
    rw [ih (by omega) (by omega), List.append_assoc, Nat.add_assoc]

/-- The named files are staged. -/
def Staged (files : DataFile → Bytes) (names : List DataFile) (s : BootDir) : Prop :=
  ∀ n ∈ names, s (.staged n) = some (files n)

/-- What is staged does not depend on the other files. -/
lemma offStaged_staged {n names} (hn : n ∉ names) : OffStaged n (Staged files names) := by
  intro s s' hsame hs m hm
  rw [hsame _ fun h => ?_, hs m hm]
  cases h
  exact hn hm

/-- A published file is downloaded. -/
lemma downloadAndVerify_returns {url n entry used done} (io : ∀ step, env.io step = .ok ())
    (hentry : manifest.files n.name = some entry) (answers : Answers env url (files n))
    (hmatch : MatchesEntry env entry (files n)) (hfree : used + (files n).length ≤ env.free)
    (hn : n ∉ done) (hs : Staged files done s) :
    (downloadAndVerify env url n entry.sha256 entry.size used s).2 = .ok (files n).length ∧
      Staged files (n :: done) ((downloadAndVerify env url n entry.sha256 entry.size used).after s) := by
  obtain ⟨response, hsent, hstatus, _, hwhole, hbody⟩ := answers.sent
  have hwrite : ∀ s, (writeChunks env url n entry.size used response.broken response.chunks 0 [] s).2 =
      .ok ((files n).length, files n) := by
    intro s
    rw [hwhole, writeChunks_returns (by rw [hbody, hmatch.size]; omega) (by rw [hbody]; omega), hbody,
      Nat.zero_add, List.nil_append]
  have hrun : downloadAndVerify env url n entry.sha256 entry.size used s =
      (.call url :: .create (.staged n) [] :: (writeChunks env url n entry.size used response.broken
        response.chunks 0 [] ((.create (.staged n) [] : BootOp).apply s)).1, .ok (files n).length) := by
    rw [downloadAndVerify, Prog.perform_bind, Prog.lift_bind (by rw [hsent]; rfl),
      Prog.lift_bind (by rw [errorForStatus_of_ok hstatus]; rfl), Prog.lift_bind (by rw [io]; rfl),
      Prog.perform_bind, Prog.bind_of_ok (hwrite _)]
    dsimp only
    rw [Prog.lift_bind (by rw [io]; rfl), Prog.lift_bind (by rw [io]; rfl),
      if_neg (not_not.mpr hmatch.size), if_pos hmatch.digest]
    exact Prod.ext (by simp [pure, Prog.pure]) rfl
  have hcreated : Staged files done ((.create (.staged n) [] : BootOp).apply s) :=
    offStaged_staged hn s _ (fun f hf => by simp [hf]) hs
  obtain ⟨⟨hothers, hfile⟩, _⟩ := (@writeChunks_triple env manifest url n entry used response.broken
    response.chunks 0 [] _ hentry (offStaged_staged hn) rfl (Nat.zero_le _) (by omega) _
    ⟨hcreated, by simp⟩).2 _ (hwrite _)
  refine ⟨by rw [hrun], ?_⟩
  intro m hm
  rw [Prog.after, hrun]
  cases List.mem_cons.mp hm with
  | inl heq => exact heq ▸ hfile
  | inr hmem => exact hothers m hmem

/-- And so are all of them. -/
lemma downloadAll_returns {names done total} (io : ∀ step, env.io step = .ok ())
    (hentries : ∀ n ∈ names, ∃ entry, manifest.files n.name = some entry ∧
      Answers env s!"{snapshotDir cfg height}/{n.name}" (files n) ∧ MatchesEntry env entry (files n))
    (hfits : total + (names.map fun n => (files n).length).sum ≤ env.free) (hnodup : names.Nodup)
    (hdisjoint : ∀ n ∈ names, n ∉ done) (hs : Staged files done s) :
    ∃ total', (downloadAll env (snapshotDir cfg height) manifest names total s).2 = .ok total' ∧
      Staged files (names ++ done)
        ((downloadAll env (snapshotDir cfg height) manifest names total).after s) := by
  induction names generalizing total done s with
  | nil => exact ⟨total, rfl, hs⟩
  | cons n names ih =>
    obtain ⟨entry, hentry, answers, hmatch⟩ := hentries n List.mem_cons_self
    obtain ⟨hn, hnodup⟩ := List.nodup_cons.mp hnodup
    rw [List.map_cons, List.sum_cons] at hfits
    obtain ⟨hdownload, hstaged⟩ := downloadAndVerify_returns io hentry answers hmatch
      (show total + (files n).length ≤ env.free by omega) (hdisjoint n List.mem_cons_self) hs
    have hroom : saturatingAdd total (files n).length + (names.map fun n => (files n).length).sum ≤
        env.free := by
      rw [saturatingAdd_eq (by have := env.free_lt; omega)]
      omega
    have hapart : ∀ m ∈ names, m ∉ n :: done := by
      intro m hm hmem
      cases List.mem_cons.mp hmem with
      | inl heq => exact hn (heq ▸ hm)
      | inr hmem => exact hdisjoint m (List.mem_cons_of_mem n hm) hmem
    obtain ⟨total', hrest, hall⟩ := ih (fun m hm => hentries m (List.mem_cons_of_mem n hm)) hroom
      hnodup hapart hstaged
    have hlift : ((manifest.files n.name).elim (panicked "no entry found for key") .ok :
        Rust ManifestFile) = .ok entry := by
      rw [hentry]
      rfl
    refine ⟨total', ?_, ?_⟩
    · rw [downloadAll, Prog.lift_bind hlift, Prog.bind_of_ok hdownload]
      exact hrest
    · intro m hm
      rw [downloadAll, Prog.after, Prog.lift_bind hlift, Prog.bind_of_ok hdownload, exec_append]
      refine hall m ?_
      simp only [List.mem_append, List.mem_cons] at hm ⊢
      tauto

/-- A file is read if it is there. -/
lemma bootReadFile_run {f} : Boot.readFile f s = ([.read f],
    (s f).elim (bail s!"read {f.path}: No such file or directory (os error 2)") .ok) := by
  have hread : (Prog.read f s : List BootOp × Rust (Option Bytes)).2 = .ok (s f) := rfl
  rw [Boot.readFile, Prog.bind_of_ok hread]
  cases s f with
  | none => rfl
  | some bs => rfl

/-- Valid metadata passes the checks. -/
lemma ValidRoot.checkPirMetadata_eq {path net root} (valid : ValidRoot net height root) :
    checkPirMetadata path net root = .ok () := by
  rw [checkPirMetadata, ensure_pos (decide_eq_true valid.network), ensure_pos valid.dataset,
    valid.layout.validateSupported_eq, context_ok, valid.rows, valid.rowBytes, valid.tier0Bytes]
  simp only [ok_bind]
  exact ensure_pos (by simp [valid.depth])

/-- Valid metadata passes and is only read. -/
lemma validatePirRoot_run {f net content root} (hcontent : s f = some content)
    (hdecode : env.decodeMetadata content = .ok root) (valid : ValidRoot net height root) :
    validatePirRoot env f net height s = ([.read f], .ok ()) := by
  have hread : Boot.readFile f s = ([.read f], .ok content) := by
    rw [bootReadFile_run, hcontent]
    rfl
  have hmetadata : validatePirMetadata env f net s = ([.read f], .ok root) := by
    rw [validatePirMetadata, Prog.bind_of_ok (by rw [hread]), Prog.lift_bind (by rw [hdecode]; rfl),
      Prog.lift_bind valid.checkPirMetadata_eq, hread]
    rfl
  rw [validatePirRoot, Prog.bind_of_ok (by rw [hmetadata]), hmetadata,
    ensure_pos (decide_eq_true valid.height)]
  rfl

/-- A published snapshot is staged. -/
lemma stageSnapshot_returns (pub : Publishes env cfg height manifestSha256 manifest files) :
    ∃ total, (stageSnapshot env cfg height manifestSha256 s).2 = .ok total ∧
      Staged files SNAPSHOT_FILES ((stageSnapshot env cfg height manifestSha256).after s) := by
  have hmanifest := @fetchManifest_returns env cfg height manifestSha256 manifest files s pub
  obtain ⟨_, hclean⟩ := cleanStaging_returns pub ((fetchManifest env cfg height manifestSha256).after s)
  obtain ⟨total, hdownload, hstaged⟩ := @downloadAll_returns env cfg height manifest files
    ((cleanStaging env).after ((fetchManifest env cfg height manifestSha256).after s)) SNAPSHOT_FILES
    [] 0 pub.io pub.entries (by rw [Nat.zero_add]; exact pub.fits) (by decide)
    (fun _ _ => List.not_mem_nil) (fun _ h => by cases h)
  rw [List.append_nil] at hstaged
  obtain ⟨root, hdecode, valid⟩ := pub.root
  have hroot := validatePirRoot_run (hstaged .pirRoot (by decide)) hdecode valid
  refine ⟨total, ?_, ?_⟩
  · rw [stageSnapshot]
    exact Prog.ok_bind hmanifest (Prog.ok_bind hclean (Prog.ok_bind hdownload
      (Prog.ok_bind (by rw [hroot]) rfl)))
  · rw [stageSnapshot, Prog.after_bind hmanifest, Prog.after_bind hclean, Prog.after_bind hdownload,
      Prog.after, Prog.bind_of_ok (by rw [hroot]), hroot]
    exact hstaged

/-- A staged file is moved into place. -/
lemma installFile_returns {n} (io : ∀ step, env.io step = .ok ()) (hn : s (.staged n) = some (files n)) :
    (installFile env n s).2 = .ok () := by
  rw [installFile, Prog.lift_bind (by rw [io]; rfl), Boot.exists_,
    Prog.inspect_bind (show (s (.staged n)).isSome = true by rw [hn]; rfl), if_pos rfl, Prog.perform_bind]
  exact (removeFiles_returns _).choose_spec

/-- Staged files are moved into place. -/
lemma installFiles_returns (manifest : PublishedManifest) {names done}
    (io : ∀ step, env.io step = .ok ()) (hnodup : names.Nodup) (hfiles : ∀ m ∈ names ++ done, m ∈ SNAPSHOT_FILES)
    (hs : Installing (fun n => some (files n)) done names s) :
    (Prog.forEach names (installFile env) s).2 = .ok () := by
  induction names generalizing s done with
  | nil => rfl
  | cons n names ih =>
    obtain ⟨hn, hnodup⟩ := List.nodup_cons.mp hnodup
    have hfile := installFile_returns io (hs.staged n List.mem_cons_self)
    have hmoved : ∀ m ∈ n :: done, m ∈ SNAPSHOT_FILES := by
      intro m hm
      refine hfiles m ?_
      simp only [List.mem_append, List.mem_cons] at hm ⊢
      tauto
    have hrest := (@installFile_triple env manifest _ n done names hmoved hn s hs).2 () hfile
    rw [Prog.forEach]
    refine Prog.ok_bind hfile (ih hnodup ?_ hrest)
    intro m hm
    refine hfiles m ?_
    simp only [List.mem_append, List.mem_cons] at hm ⊢
    tauto

/-- A published snapshot is installed, whatever the directory holds. -/
lemma fetchAuthenticated_installs
    (pub : Publishes env cfg height manifestSha256 manifest files) :
    ∃ count, (fetchAuthenticated env cfg height manifestSha256 s).2 = .ok count ∧
      ∀ n ∈ SNAPSHOT_FILES,
        (fetchAuthenticated env cfg height manifestSha256).after s (.live n) = some (files n) := by
  obtain ⟨total, hstage, hstaged⟩ := @stageSnapshot_returns env cfg height manifestSha256 manifest files
    s pub
  generalize hs₁ : (stageSnapshot env cfg height manifestSha256).after s = s₁ at hstaged
  have hinit : Installing (fun n => some (files n)) [] SNAPSHOT_FILES s₁ :=
    ⟨fun _ h => (by cases h), hstaged⟩
  have hinstall : (installFromStaging env s₁).2 = .ok () := by
    rw [installFromStaging]
    refine Prog.ok_bind (installFiles_returns manifest pub.io (by decide)
      (fun m hm => by simpa using hm) hinit) ?_
    exact (removeFiles_returns _).choose_spec
  have hlive := (@installFromStaging_triple env manifest (fun n => some (files n)) s₁ hstaged).2 ()
    hinstall
  generalize hs₂ : (installFromStaging env).after s₁ = s₂ at hlive
  have hsync : ofResult (env.io .syncDataDir) = .ok () := by rw [pub.io]; rfl
  have hremove : ((Prog.forEach DataFile.all fun n => Boot.removeFile (.staged n) : Boot Unit) s₂).2 =
      .ok () := (removeFiles_returns _).choose_spec
  refine ⟨total, ?_, ?_⟩
  · rw [fetchAuthenticated]
    refine Prog.ok_bind hstage (hs₁ ▸ Prog.ok_bind hinstall ?_)
    rw [hs₂, Prog.lift_bind hsync]
    exact Prog.ok_bind hremove rfl
  · intro n hn
    have hkept : ∀ o ∈ ((Prog.forEach DataFile.all fun n => Boot.removeFile (.staged n) : Boot Unit)
        s₂).1, o.Avoids (.live n) := by
      have hwithin : (Prog.forEach DataFile.all fun n => Boot.removeFile (.staged n) :
          Boot Unit).Within (fun o => o.Avoids (.live n)) .diverge :=
        .forEach fun m _ => removeFile_ops fun h => by cases h
      exact (hwithin s₂).1
    rw [fetchAuthenticated, Prog.after_bind hstage, hs₁, Prog.after_bind hinstall, hs₂, Prog.after,
      Prog.lift_bind hsync, Prog.bind_of_ok hremove, exec_append]
    rw [← hlive n hn]
    exact Interrupted.of_avoids hkept .exec

end Stage

end NullifierPir.NfServer
