import NullifierPir.NfServer.Outcomes
import NullifierPir.NfServer.Publishing

/-!
# What an interrupted bootstrap leaves in place

A bootstrap writes the live snapshot files by three renames only, Tier 0 first and the metadata last.
`Progress` says how far these got in a run that is cut anywhere, and `run_progress` gives it for a
whole `run`: what is moved is the published snapshot of the expected height, and nothing is moved when
the metadata in place is of that height already.

Over sequences of runs the metadata can outlive the tiers it describes. A run that is cut between the
rename of Tier 0 and that of the metadata leaves the old metadata beside the new tier, and a later run
that expects the old height takes the metadata's word for it (`rollback_reports_mixed_files`). Without
such a cut the reported height is that of the files in place (`run_reports_files_in_place`).
-/

namespace NullifierPir.NfServer
open Rust ByteString Crash Hex NullifierPir.Types

section Spec

/-- The published snapshots, by network and height. -/
structure Catalog where
  snapshot : ZcashNetwork → Nat → Option (DataFile → Bytes)

/-- The server publishes the snapshots of the catalog: bytes that match an entry of a manifest it
sends for a height are the file of that height. -/
def Serves (cat : Catalog) (env : Outside) (cfg : Config) : Prop :=
  ∀ height response manifest, Published env cfg height none response manifest →
    ∃ files, cat.snapshot cfg.zcashNetwork height = some files ∧
      ∀ n ∈ SNAPSHOT_FILES, ∀ entry content, manifest.files n.name = some entry →
        MatchesEntry env entry content → content = files n

/-- The files are the published snapshot of a network and height, with valid metadata. -/
structure IsSnapshot (cat : Catalog) (decode : Bytes → Except String PirMetadata)
    (net : ZcashNetwork) (height : Nat) (files : DataFile → Bytes) : Prop where
  published : cat.snapshot net height = some files
  root : ∃ root, decode (files .pirRoot) = .ok root ∧ ValidRoot net height root

/-- The rename that puts a snapshot file into place. -/
def installOp (n : DataFile) : BootOp := .rename (.staged n) (.live n)

/-- The operation writes no snapshot file in place. -/
def Quiet (o : BootOp) : Prop := ∀ n ∈ SNAPSHOT_FILES, o.Avoids (.live n)

/-- Of the files `names`, whose contents are `new`, the operations `done` have put those of `moved`
into place, in order. -/
structure Progress (names : List DataFile) (new : DataFile → Option Bytes) (s : BootDir)
    (done : List BootOp) (s' : BootDir) (moved : List DataFile) : Prop where
  order : moved <+: names
  done : ∀ n ∈ SNAPSHOT_FILES, installOp n ∈ done ↔ n ∈ moved
  new : ∀ n ∈ moved, s' (.live n) = new n
  old : ∀ n ∈ SNAPSHOT_FILES, n ∉ moved → s' (.live n) = s (.live n)

/-- All snapshot files in place are those of `files`. -/
def InPlace (files : DataFile → Bytes) (s : BootDir) : Prop :=
  ∀ n ∈ SNAPSHOT_FILES, s (.live n) = some (files n)

end Spec

section Progress

variable {names moved : List DataFile} {new : DataFile → Option Bytes} {s s₁ s' : BootDir}
  {ops done done' : List BootOp}

/-- An install operation is not quiet. -/
lemma not_quiet_installOp {n} (hn : n ∈ SNAPSHOT_FILES) : ¬ Quiet (installOp n) :=
  fun h => (h n hn).2 rfl

/-- Staging is quiet. -/
lemma StageOp.quiet {o} (h : StageOp o) : Quiet o := fun _ _ => h.avoids_live

/-- Quiet operations put nothing into place. -/
lemma Progress.of_quiet (quiet : ∀ o ∈ ops, Quiet o) (cut : CutAfter s ops done s') :
    Progress names new s done s' [] := by
  refine ⟨List.nil_prefix, ?_, (fun n hn => by cases hn), ?_⟩
  · intro n hn
    constructor
    · intro h
      exact absurd (quiet _ (cut.mem _ h)) (not_quiet_installOp hn)
    · intro h
      cases h
  · intro n hn _
    exact Interrupted.of_avoids (fun o ho => quiet o ho n hn) (interrupted_iff.mpr ⟨_, cut⟩)

/-- Without operations nothing is moved. -/
lemma Progress.of_nil (cut : CutAfter s [] done s') : Progress names new s done s' [] :=
  .of_quiet (fun _ h => by cases h) cut

/-- Progress counts from the state in front of quiet operations. -/
lemma Progress.prepend (quiet : ∀ o ∈ ops, Quiet o)
    (h : Progress names new (exec s ops) done s' moved) :
    Progress names new s (ops ++ done) s' moved := by
  refine ⟨h.order, ?_, h.new, ?_⟩
  · intro n hn
    rw [List.mem_append, h.done n hn]
    constructor
    · rintro (hops | hmoved)
      · exact absurd (quiet _ hops) (not_quiet_installOp hn)
      · exact hmoved
    · exact .inr
  · intro n hn hmoved
    rw [h.old n hn hmoved]
    exact Interrupted.of_avoids (fun o ho => quiet o ho n hn) .exec

/-- Quiet operations behind the renames keep what they put into place. -/
lemma Progress.append (h : Progress names new s done s₁ moved) (hmoved : ∀ n ∈ moved, n ∈ SNAPSHOT_FILES)
    (quiet : ∀ o ∈ ops, Quiet o) (cut : CutAfter s₁ ops done' s') :
    Progress names new s (done ++ done') s' moved := by
  have hsame : ∀ n ∈ SNAPSHOT_FILES, s' (.live n) = s₁ (.live n) := fun n hn =>
    Interrupted.of_avoids (fun o ho => quiet o ho n hn) (interrupted_iff.mpr ⟨_, cut⟩)
  refine ⟨h.order, ?_, ?_, ?_⟩
  · intro n hn
    rw [List.mem_append, h.done n hn]
    constructor
    · rintro (hmem | hmem)
      · exact hmem
      · exact absurd (quiet _ (cut.mem _ hmem)) (not_quiet_installOp hn)
    · exact .inl
  · intro n hn
    rw [hsame n (hmoved n hn), h.new n hn]
  · intro n hn hout
    rw [hsame n hn, h.old n hn hout]

/-- A removed cache. -/
def CacheOp (n : DataFile) (o : BootOp) : Prop := ∃ cache ∈ precomputeFiles n, o = .remove (.live cache)

/-- Evicting a cache is quiet. -/
lemma CacheOp.quiet {n o} (h : CacheOp n o) : Quiet o := by
  obtain ⟨cache, hcache, rfl⟩ := h
  intro m hm heq
  cases heq
  exact precomputeFiles_disjoint hm hcache rfl

/-- And it leaves the staged files alone. -/
lemma CacheOp.avoids_staged {n m o} (h : CacheOp n o) : o.Avoids (.staged m) := by
  obtain ⟨cache, _, rfl⟩ := h
  exact fun heq => by cases heq

/-- A file's install does nothing, or renames the file and evicts its caches. -/
lemma installFile_cases {env : Outside} {n} :
    ((installFile env n s).1 = [] ∧ ∃ e, (installFile env n s).2 = .error e) ∨
      ∃ content rest, s (.staged n) = some content ∧
        (installFile env n s).1 = installOp n :: rest ∧ ∀ o ∈ rest, CacheOp n o := by
  rw [installFile]
  cases hio : ofResult ((env.io (.rename n)).mapError fun e =>
      s!"rename {(BootFile.staged n).path} -> {n.name} failed: {e}. " ++
        "Bootstrap left partial state behind; re-run the daemon to retry.") with
  | error e => exact .inl ⟨rfl, e, rfl⟩
  | ok u =>
    rw [Prog.lift_bind rfl]
    cases hstaged : s (.staged n) with
    | none =>
      rw [Boot.exists_, Prog.inspect_bind (show (s (.staged n)).isSome = false by rw [hstaged]; rfl)]
      exact .inl ⟨rfl, _, rfl⟩
    | some content =>
      rw [Boot.exists_, Prog.inspect_bind (show (s (.staged n)).isSome = true by rw [hstaged]; rfl)]
      refine .inr ⟨content, _, rfl, rfl, ?_⟩
      have hwithin : (Prog.forEach (precomputeFiles n) fun cache => Boot.removeFile (.live cache) :
          Boot Unit).Within (CacheOp n) .diverge :=
        .forEach fun cache hcache => removeFile_ops ⟨cache, hcache, rfl⟩
      exact (hwithin _).1

/-- The rename of one file, cut anywhere. -/
lemma rename_progress (names : List DataFile) {n content rest} (hn : n ∈ SNAPSHOT_FILES)
    (hstaged : s (.staged n) = some content)
    (hnew : new n = some content) (hrest : ∀ o ∈ rest, CacheOp n o)
    (cut : CutAfter s (installOp n :: rest) done s') :
    Progress (n :: names) new s done s' [] ∨
      installOp n ∈ done ∧ Progress (n :: names) new s done s' [n] := by
  cases cut with
  | stop => exact .inl (.of_nil .stop)
  | torn ht => cases ht
  | step cut =>
    have hmoved : ∀ m, (installOp n).apply s (.live m) = if m = n then some content else s (.live m) := by
      intro m
      rw [installOp, apply_rename hstaged, if_neg (by simp)]
      simp only [BootFile.live.injEq]
    have hrename : Progress (n :: names) new s [installOp n] ((installOp n).apply s) [n] := by
      refine ⟨?_, ?_, ?_, ?_⟩
      · exact List.prefix_cons_inj n |>.mpr List.nil_prefix
      · intro m _
        rw [List.mem_singleton, List.mem_singleton]
        constructor
        · intro h
          cases h
          rfl
        · rintro rfl
          rfl
      · intro m hm
        obtain rfl := List.mem_singleton.mp hm
        rw [hmoved, if_pos rfl, hnew]
      · intro m _ hm
        rw [hmoved, if_neg fun h => hm (List.mem_singleton.mpr h)]
    refine .inr ⟨List.mem_cons_self, hrename.append ?_ (fun o ho => (hrest o ho).quiet) cut⟩
    intro m hm
    obtain rfl := List.mem_singleton.mp hm
    exact hn

/-- The files behind the first one follow it. -/
lemma Progress.cons {n} (hn : n ∉ names) (h : Progress (n :: names) new s done s₁ [n])
    (h' : Progress names new s₁ done' s' moved) (hfile : n ∈ SNAPSHOT_FILES) :
    Progress (n :: names) new s (done ++ done') s' (n :: moved) := by
  have hmoved : n ∉ moved := fun hmem => hn (h'.order.subset hmem)
  refine ⟨List.prefix_cons_inj n |>.mpr h'.order, ?_, ?_, ?_⟩
  · intro m hm
    rw [List.mem_append, h.done m hm, h'.done m hm, List.mem_singleton, List.mem_cons]
  · intro m hm
    cases List.mem_cons.mp hm with
    | inl heq =>
      subst heq
      rw [h'.old m hfile hmoved, h.new m (List.mem_singleton.mpr rfl)]
    | inr hmem => exact h'.new m hmem
  · intro m hm hout
    obtain ⟨hne, hout⟩ := List.ne_and_not_mem_of_not_mem_cons hout
    rw [h'.old m hm hout, h.old m hm fun hmem => hne (List.mem_singleton.mp hmem)]

/-- The moves put the staged contents into place one after the other. -/
lemma installFiles_progress {env : Outside} (hfiles : ∀ n ∈ names, n ∈ SNAPSHOT_FILES)
    (hnodup : names.Nodup) (hnew : ∀ n ∈ names, s (.staged n) = new n)
    (cut : CutAfter s (Prog.forEach names (installFile env) s).1 done s') :
    ∃ moved, Progress names new s done s' moved := by
  induction names generalizing s done with
  | nil => exact ⟨[], .of_nil cut⟩
  | cons n names ih =>
    obtain ⟨hn, hnodup⟩ := List.nodup_cons.mp hnodup
    have hfile := hfiles n List.mem_cons_self
    rw [Prog.forEach] at cut
    cases @installFile_cases s env n with
    | inl nothing =>
      obtain ⟨hops, e, herr⟩ := nothing
      rw [Prog.bind_of_error herr, hops] at cut
      exact ⟨[], .of_nil cut⟩
    | inr moves =>
      obtain ⟨content, rest, hstaged, hops, hrest⟩ := moves
      have hcontent := (hnew n List.mem_cons_self).symm.trans hstaged
      cases hr : (installFile env n s).2 with
      | error e =>
        rw [Prog.bind_of_error hr, hops] at cut
        cases rename_progress names hfile hstaged hcontent hrest cut with
        | inl none => exact ⟨_, none⟩
        | inr one => exact ⟨_, one.2⟩
      | ok u =>
        rw [Prog.bind_of_ok hr, Prog.after, hops] at cut
        cases cut.append with
        | inl first =>
          cases rename_progress names hfile hstaged hcontent hrest first with
          | inl none => exact ⟨_, none⟩
          | inr one => exact ⟨_, one.2⟩
        | inr second =>
          obtain ⟨done', rfl, later⟩ := second
          have hfirst : Progress (n :: names) new s (installOp n :: rest)
              (exec s (installOp n :: rest)) [n] := by
            cases rename_progress names hfile hstaged hcontent hrest .all with
            | inl none => exact absurd ((none.done n hfile).mp List.mem_cons_self) List.not_mem_nil
            | inr one => exact one.2
          have hstill : ∀ m ∈ names, exec s (installOp n :: rest) (.staged m) = new m := by
            intro m hm
            have hne : m ≠ n := fun h => hn (h ▸ hm)
            have hsame : exec ((installOp n).apply s) rest (.staged m) =
                (installOp n).apply s (.staged m) :=
              Interrupted.of_avoids (fun o ho => (hrest o ho).avoids_staged) .exec
            rw [exec_cons, hsame, installOp, apply_rename hstaged, if_neg (by simp [hne]),
              if_neg (by simp)]
            exact hnew m (List.mem_cons_of_mem n hm)
          obtain ⟨moved, hmoved⟩ :=
            ih (fun m hm => hfiles m (List.mem_cons_of_mem n hm)) hnodup hstill later
          exact ⟨n :: moved, Progress.cons hn hfirst hmoved hfile⟩

end Progress

section Fetch

variable {cat : Catalog} {env : Outside} {cfg : Config} {height : Nat} {s s' : BootDir}
  {done : List BootOp} {new : DataFile → Option Bytes}

/-- A staged snapshot is complete. -/
lemma stageSnapshot_ok {manifestSha256 total}
    (ok : (stageSnapshot env cfg height manifestSha256 s).2 = .ok total) :
    ∃ response manifest, Published env cfg height manifestSha256 response manifest ∧
      Complete env cfg height manifest .staged
        ((stageSnapshot env cfg height manifestSha256).after s) := by
  rw [stageSnapshot] at ok ⊢
  obtain ⟨manifest, hmanifest, ok, _⟩ := Prog.bind_ok ok
  rw [Prog.after_bind hmanifest]
  obtain ⟨⟨response, published⟩, hentries⟩ := fetchManifest_ok hmanifest
  refine ⟨response, manifest, published, ?_⟩
  obtain ⟨_, hclean, ok, _⟩ := Prog.bind_ok ok
  rw [Prog.after_bind hclean]
  obtain ⟨_, hdownload, ok, _⟩ := Prog.bind_ok ok
  rw [Prog.after_bind hdownload]
  obtain ⟨_, hroot, ok, _⟩ := Prog.bind_ok ok
  rw [Prog.after_bind hroot]
  obtain ⟨verified, _⟩ := (@downloadAll_triple env manifest (snapshotDir cfg height) SNAPSHOT_FILES
    [] 0 hentries (by decide) (Nat.zero_le _) _ ⟨fun _ h => absurd h List.not_mem_nil, rfl⟩).2 _
    hdownload
  obtain ⟨verified, root⟩ := (@validatePirRoot_triple env height manifest (.staged .pirRoot)
    cfg.zcashNetwork _ _ verified).2 _ hroot
  exact ⟨verified, root⟩

/-- A complete snapshot is the one of the catalog. -/
lemma Complete.isSnapshot {response manifest} {place : DataFile → BootFile}
    (serves : Serves cat env cfg) (published : Published env cfg height none response manifest)
    (complete : Complete env cfg height manifest place s) :
    ∃ files, IsSnapshot cat env.decodeMetadata cfg.zcashNetwork height files ∧
      ∀ n ∈ SNAPSHOT_FILES, s (place n) = some (files n) := by
  obtain ⟨files, hfiles, hsame⟩ := serves height response manifest published
  have hplace : ∀ n ∈ SNAPSHOT_FILES, s (place n) = some (files n) := by
    intro n hn
    obtain ⟨entry, content, hentry, hcontent, hmatch⟩ := complete.files n hn
    rw [hcontent, hsame n hn entry content hentry hmatch]
  obtain ⟨content, root, hcontent, hdecode, hvalid⟩ := complete.root
  rw [hplace .pirRoot (by decide)] at hcontent
  cases hcontent
  exact ⟨files, ⟨hfiles, root, hdecode, hvalid⟩, hplace⟩

/-- The moves with what follows them. -/
lemma installThen_progress {β : Type} {f : Unit → Boot β} (hf : ∀ u, (f u).Within Quiet .diverge)
    (hnew : ∀ n ∈ SNAPSHOT_FILES, s (.staged n) = new n)
    (cut : CutAfter s ((Prog.forEach SNAPSHOT_FILES (installFile env) >>= f) s).1 done s') :
    ∃ moved, Progress SNAPSHOT_FILES new s done s' moved := by
  have hmoves : ∀ done s', CutAfter s (Prog.forEach SNAPSHOT_FILES (installFile env) s).1 done s' →
      ∃ moved, Progress SNAPSHOT_FILES new s done s' moved := fun done s' cut =>
    installFiles_progress (fun _ hn => hn) (by decide) hnew cut
  cases hr : (Prog.forEach SNAPSHOT_FILES (installFile env) s).2 with
  | error e =>
    rw [Prog.bind_of_error hr] at cut
    exact hmoves _ _ cut
  | ok u =>
    rw [Prog.bind_of_ok hr] at cut
    cases cut.append with
    | inl first => exact hmoves _ _ first
    | inr second =>
      obtain ⟨done', rfl, later⟩ := second
      obtain ⟨moved, hmoved⟩ := hmoves _ _ .all
      exact ⟨moved, hmoved.append (fun n hn => hmoved.order.subset hn) (hf u _).1 later⟩

/-- Cleaning the staging directory is quiet. -/
lemma quiet_remove_staged {n} : Quiet (.remove (.staged n)) := fun _ _ h => by cases h

/-- Removing the legacy files is quiet. -/
lemma quiet_remove_legacy {n} (hn : n ∈ LEGACY_TIER2) : Quiet (.remove (.live n)) := by
  have hdisjoint : ∀ m ∈ LEGACY_TIER2, m ∉ SNAPSHOT_FILES := by decide
  intro m hm h
  cases h
  exact hdisjoint _ hn hm

/-- A fetch that is cut anywhere has put none of the snapshot files into place, or the first of those
of the published snapshot. -/
lemma fetch_progress (serves : Serves cat env cfg)
    (cut : CutAfter s (fetchAuthenticated env cfg height none s).1 done s') :
    (∀ new, Progress SNAPSHOT_FILES new s done s' []) ∨
      ∃ files moved, IsSnapshot cat env.decodeMetadata cfg.zcashNetwork height files ∧
        Progress SNAPSHOT_FILES (fun n => some (files n)) s done s' moved := by
  have hquiet : ∀ o ∈ (stageSnapshot env cfg height none s).1, Quiet o := fun o ho =>
    ((stageSnapshot_ops s).1 o ho).quiet
  rw [fetchAuthenticated] at cut
  cases hstage : (stageSnapshot env cfg height none s).2 with
  | error e =>
    rw [Prog.bind_of_error hstage] at cut
    exact .inl fun new => .of_quiet hquiet cut
  | ok total =>
    rw [Prog.bind_of_ok hstage] at cut
    cases cut.append with
    | inl first => exact .inl fun new => .of_quiet hquiet first
    | inr second =>
      obtain ⟨done', rfl, later⟩ := second
      obtain ⟨response, manifest, published, complete⟩ := stageSnapshot_ok hstage
      obtain ⟨files, hfiles, hstaged⟩ := complete.isSnapshot serves published
      rw [installFromStaging, Prog.bind_assoc] at later
      obtain ⟨moved, hmoved⟩ := installThen_progress (fun _ => by
        refine .bind (.forEach fun n hn => removeFile_ops (quiet_remove_legacy hn)) fun _ =>
          .bind (.lift Ends.ofResult) fun _ =>
          .bind (.forEach fun n _ => removeFile_ops quiet_remove_staged) fun _ => .pure) hstaged later
      exact .inr ⟨files, moved, hfiles, hmoved.prepend hquiet⟩

/-- A fetch that succeeds has put the published snapshot into place. -/
lemma fetch_inPlace {count} (serves : Serves cat env cfg)
    (ok : (fetchAuthenticated env cfg height none s).2 = .ok count) :
    ∃ files, IsSnapshot cat env.decodeMetadata cfg.zcashNetwork height files ∧
      InPlace files ((fetchAuthenticated env cfg height none).after s) := by
  rw [fetchAuthenticated_eq] at ok ⊢
  obtain ⟨manifest, hmanifest, ok, _⟩ := Prog.bind_ok ok
  obtain ⟨_, hclean, ok, _⟩ := Prog.bind_ok ok
  obtain ⟨⟨response, published⟩, hentries⟩ := fetchManifest_ok hmanifest
  rw [Prog.after_bind hmanifest, Prog.after_bind hclean]
  exact ((finishFetch_triple hentries _ trivial).2 count ok).1.isSnapshot serves published

end Fetch

/-! ### A run -/

section Run

variable {cat : Catalog} {env : RunEnv} {cfg : RunConfig} {s s' : BootDir} {done : List BootOp}
  {counters : Counters}

/-- The metadata in place is that of the height. -/
def LocalRoot (env : RunEnv) (cfg : RunConfig) (s : BootDir) (height : Nat) : Prop :=
  ∃ content root, s (.live .pirRoot) = some content ∧ env.decodeMetadata content = .ok root ∧
    ValidRoot cfg.zcashNetwork height root

/-- The height a run reports to be in place. -/
def Outcome.height : Outcome → Option Nat
  | .alreadyAtHeight h => some h
  | .usingLocalSnapshot h => some h
  | .bootstrappedTo h => some h
  | .disabled => none
  | .fellThrough _ => none

/-- The outcome of a completed run. -/
def outcome (r : Rust Counted) : Option Outcome :=
  match r with
  | .ok (_, .ok o) => some o
  | _ => none

/-- The height a completed run reports. -/
def reported (r : Rust Counted) : Option Nat := (outcome r).bind Outcome.height

/-- What a run does once it knows the height of the files in place: it decides on that alone, or it
fetches another height. -/
inductive Attempt (env : RunEnv) (cfg : RunConfig) (localHeight : Option Nat) (s : BootDir) :
    List BootOp × Rust Counted → Prop
  | decided {r} : (∀ h, reported r = some h → localHeight = some h) →
      Attempt env cfg localHeight s ([], r)
  | fetched {h r} : localHeight ≠ some h →
      (∀ h', reported r = some h' →
        h' = h ∧ ∃ n, (fetchAuthenticated env.toOutside cfg.toConfig h none s).2 = .ok n) →
      Attempt env cfg localHeight s
        ((fetchAuthenticated env.toOutside cfg.toConfig h none s).1, r)

/-- A failure kept as a value, and an answer to it without file operations. -/
lemma attempt_bind {α β : Type} {x : Boot α} {f : Except Fault α → Boot β} {r}
    (h : f (x s).2 = fun _ => ([], r)) : (Prog.attempt x >>= f) s = ((x s).1, r) := by
  have hok : (Prog.attempt x s).2 = .ok (x s).2 := rfl
  rw [Prog.bind_of_ok hok, h, List.append_nil]
  rfl

/-- A call to a known height attempts it. -/
lemma bootstrapToHeight_attempt {h forced localHeight} :
    Attempt env cfg localHeight s (bootstrapToHeight env cfg h localHeight forced counters s) := by
  rw [bootstrapToHeight]
  split
  · rename_i hlocal
    exact .decided fun _ heq => heq ▸ hlocal
  · rename_i hlocal
    split
    · cases forced with
      | true => exact .decided fun _ heq => by cases heq
      | false => exact .decided fun _ heq => by cases heq
    · cases hfetch : (fetchAuthenticated env.toOutside cfg.toConfig h none s).2 with
      | ok n =>
        rw [attempt_bind (by rw [hfetch]; rfl)]
        refine .fetched hlocal ?_
        intro h' heq
        cases heq
        exact ⟨rfl, n, hfetch⟩
      | error fault =>
        cases fault with
        | err e =>
          cases forced with
          | true =>
            rw [attempt_bind (by rw [hfetch]; rfl)]
            exact .fetched hlocal fun _ heq => by cases heq
          | false =>
            rw [attempt_bind (by rw [hfetch]; rfl)]
            exact .fetched hlocal fun _ heq => by cases heq
        | panic msg =>
          rw [attempt_bind (by rw [hfetch]; rfl)]
          exact .fetched hlocal fun _ heq => by cases heq
        | diverge =>
          rw [attempt_bind (by rw [hfetch]; rfl)]
          exact .fetched hlocal fun _ heq => by cases heq

/-- A configured call attempts the height of its source. -/
lemma runConfigured_attempt {localHeight} :
    Attempt env cfg localHeight s (runConfigured env cfg localHeight counters s) := by
  rw [runConfigured.eq_def]
  cases resolveSource cfg.pirConfigUrl cfg.votingConfigUrl with
  | error e => exact .decided fun _ heq => by cases heq
  | ok source =>
    dsimp only
    split
    · exact .decided fun _ heq => by cases heq
    · cases resolveExpectedHeight env cfg source with
      | ok height =>
        cases height with
        | some h => exact bootstrapToHeight_attempt
        | none =>
          cases localHeight with
          | some h => exact .decided fun _ heq => heq
          | none => exact .decided fun _ heq => by cases heq
      | error fault =>
        cases fault with
        | err e => exact .decided fun _ heq => by cases heq
        | panic msg => exact .decided fun _ heq => by cases heq
        | diverge => exact .decided fun _ heq => by cases heq

/-- The part of `run` behind the look at the metadata in place. -/
def runAt (env : RunEnv) (cfg : RunConfig) (counters : Counters) (localHeight : Option Nat) :
    Boot Counted :=
  match cfg.forceSnapshotHeight with
  | some h =>
    match validateExportHeight h cfg.zcashNetwork with
    | .error e => return (counters.attemptsInc, .error e)
    | .ok _ => bootstrapToHeight env cfg h localHeight true counters.attemptsInc
  | none => runConfigured env cfg localHeight counters.attemptsInc

/-- A run reads the local height first. -/
lemma run_eq : run env cfg counters = readLocalHeight env cfg >>= runAt env cfg counters := rfl

/-- Behind that it is an attempt. -/
lemma runAt_attempt {localHeight} :
    Attempt env cfg localHeight s (runAt env cfg counters localHeight s) := by
  rw [runAt]
  cases cfg.forceSnapshotHeight with
  | none => exact runConfigured_attempt
  | some h =>
    dsimp only
    cases validateExportHeight h cfg.zcashNetwork with
    | error e => exact .decided fun _ heq => by cases heq
    | ok u => exact bootstrapToHeight_attempt

/-- A value and a check of it, without file operations. -/
lemma lift_check {α : Type} {r : Rust α} {check : α → Rust Unit} :
    (Prog.lift r >>= fun a => Prog.lift (check a) >>= fun _ => pure a : Boot α) s =
      ([], r >>= fun a => check a >>= fun _ => .ok a) := by
  cases r with
  | error e => rfl
  | ok a =>
    rw [Prog.lift_bind rfl, ok_bind]
    cases check a with
    | error e => rfl
    | ok u => rfl

/-- `validate_pir_metadata` reads the file and decides on its content. -/
lemma validatePirMetadata_run {outside : Outside} {f net} :
    (validatePirMetadata outside f net s).1 = [.read f] ∧
      ∀ root, (validatePirMetadata outside f net s).2 = .ok root ↔ ∃ content, s f = some content ∧
        outside.decodeMetadata content = .ok root ∧ checkPirMetadata f.path net root = .ok () := by
  have hrun := @bootReadFile_run s f
  rw [validatePirMetadata]
  cases hf : s f with
  | none =>
    rw [hf] at hrun
    rw [Prog.bind_of_error (by rw [hrun]; rfl), hrun]
    refine ⟨rfl, fun root => ⟨fun h => (by cases h), ?_⟩⟩
    rintro ⟨_, h, _⟩
    cases h
  | some content =>
    rw [hf] at hrun
    rw [Prog.bind_of_ok (by rw [hrun]; rfl), lift_check, hrun]
    refine ⟨rfl, fun root => ⟨fun h => ?_, ?_⟩⟩
    · obtain ⟨_, hdecode, h⟩ := bind_eq_ok.mp h
      obtain ⟨_, hcheck, h⟩ := bind_eq_ok.mp h
      cases h
      exact ⟨content, rfl, ofResult_eq_ok.mp (context_eq_ok.mp hdecode), hcheck⟩
    · rintro ⟨_, hcontent, hdecode, hcheck⟩
      cases hcontent
      exact bind_eq_ok.mpr ⟨root, context_eq_ok.mpr (ofResult_eq_ok.mpr hdecode),
        bind_eq_ok.mpr ⟨(), hcheck, rfl⟩⟩

/-- The height in place is that of valid metadata, or unknown. -/
lemma readLocalHeight_run :
    (readLocalHeight env cfg s).1 = [.read (.live .pirRoot)] ∧
      ∀ h, (readLocalHeight env cfg s).2 = .ok (some h) ↔ LocalRoot env cfg s h := by
  obtain ⟨hops, hok⟩ := @validatePirMetadata_run s env.toOutside (.live .pirRoot) cfg.zcashNetwork
  have hlocal : ∀ h, LocalRoot env cfg s h ↔
      ∃ root, (validatePirMetadata env.toOutside (.live .pirRoot) cfg.zcashNetwork s).2 = .ok root ∧
        root.height = some h := by
    intro h
    constructor
    · rintro ⟨content, root, hcontent, hdecode, valid⟩
      exact ⟨root, (hok root).mpr ⟨content, hcontent, hdecode, valid.checkPirMetadata_eq⟩, valid.height⟩
    · rintro ⟨root, hroot, hheight⟩
      obtain ⟨content, hcontent, hdecode, hcheck⟩ := (hok root).mp hroot
      exact ⟨content, root, hcontent, hdecode, checkPirMetadata_ok hcheck hheight⟩
  rw [readLocalHeight]
  simp only [hlocal]
  cases hr : (validatePirMetadata env.toOutside (.live .pirRoot) cfg.zcashNetwork s).2 with
  | ok root =>
    rw [attempt_bind (by rw [hr]; rfl), hops]
    refine ⟨rfl, fun h => ⟨fun heq => ⟨root, rfl, Except.ok.inj heq⟩, ?_⟩⟩
    rintro ⟨_, heq, hheight⟩
    cases heq
    exact congrArg Except.ok hheight
  | error fault =>
    have hno : ∀ h, ¬ ∃ root, (Except.error fault : Rust PirMetadata) = .ok root ∧
        root.height = some h := by
      rintro h ⟨_, heq, _⟩
      cases heq
    cases fault with
    | err e =>
      rw [attempt_bind (by rw [hr]; rfl), hops]
      exact ⟨rfl, fun h => ⟨fun heq => (by cases heq), fun hex => absurd hex (hno h)⟩⟩
    | panic msg =>
      rw [attempt_bind (by rw [hr]; rfl), hops]
      exact ⟨rfl, fun h => ⟨fun heq => (by cases heq), fun hex => absurd hex (hno h)⟩⟩
    | diverge =>
      rw [attempt_bind (by rw [hr]; rfl), hops]
      exact ⟨rfl, fun h => ⟨fun heq => (by cases heq), fun hex => absurd hex (hno h)⟩⟩

/-- A run looks at the metadata in place and does one attempt from there. -/
lemma run_cases :
    (∃ e, run env cfg counters s = ([.read (.live .pirRoot)], .error e)) ∨
      ∃ localHeight result, (∀ h, localHeight = some h ↔ LocalRoot env cfg s h) ∧
        Attempt env cfg localHeight s result ∧
        run env cfg counters s = (.read (.live .pirRoot) :: result.1, result.2) := by
  obtain ⟨hops, hlocal⟩ := @readLocalHeight_run env cfg s
  rw [run_eq]
  cases hr : (readLocalHeight env cfg s).2 with
  | error e =>
    rw [Prog.bind_of_error hr, hops]
    exact .inl ⟨e, rfl⟩
  | ok localHeight =>
    rw [Prog.bind_of_ok hr, Prog.after, hops]
    refine .inr ⟨localHeight, _, ?_, runAt_attempt, rfl⟩
    intro h
    rw [← hlocal h, hr]
    exact ⟨fun heq => heq ▸ rfl, Except.ok.inj⟩

/-- Reading is quiet. -/
lemma quiet_read {f} : Quiet (.read f) := fun _ _ => trivial

/-- A run that is cut anywhere has put nothing into place, or the first files of the published
snapshot of a height other than that in place. -/
lemma run_progress (serves : Serves cat env.toOutside cfg.toConfig)
    (cut : CutAfter s (run env cfg counters s).1 done s') :
    (∀ new, Progress SNAPSHOT_FILES new s done s' []) ∨
      ∃ h files moved, IsSnapshot cat env.decodeMetadata cfg.zcashNetwork h files ∧
        ¬ LocalRoot env cfg s h ∧
        Progress SNAPSHOT_FILES (fun n => some (files n)) s done s' moved := by
  have hread : ∀ o ∈ [(.read (.live .pirRoot) : BootOp)], Quiet o := by
    intro o ho
    rw [List.mem_singleton.mp ho]
    exact quiet_read
  cases @run_cases env cfg s counters with
  | inl failed =>
    obtain ⟨e, hrun⟩ := failed
    rw [hrun] at cut
    exact .inl fun new => .of_quiet hread cut
  | inr attempted =>
    obtain ⟨localHeight, result, hlocal, attempt, hrun⟩ := attempted
    rw [hrun] at cut
    cases attempt with
    | decided _ => exact .inl fun new => .of_quiet hread cut
    | fetched hother _ =>
      rw [← List.singleton_append] at cut
      cases cut.append with
      | inl first => exact .inl fun new => .of_quiet hread first
      | inr second =>
        obtain ⟨done', rfl, later⟩ := second
        cases fetch_progress serves later with
        | inl nothing => exact .inl fun new => (nothing new).prepend hread
        | inr moves =>
          obtain ⟨files, moved, hfiles, hmoved⟩ := moves
          exact .inr ⟨_, files, moved, hfiles, fun h => hother ((hlocal _).mpr h),
            hmoved.prepend hread⟩

/-- A reported height is that of the metadata in place, with nothing moved, or the snapshot of that
height was put into place. -/
lemma run_reports {h} (serves : Serves cat env.toOutside cfg.toConfig)
    (hreport : reported (run env cfg counters s).2 = some h) :
    (LocalRoot env cfg s h ∧
      ∀ n ∈ SNAPSHOT_FILES, (run env cfg counters).after s (.live n) = s (.live n)) ∨
    ∃ files, IsSnapshot cat env.decodeMetadata cfg.zcashNetwork h files ∧
      InPlace files ((run env cfg counters).after s) := by
  rw [Prog.after]
  cases @run_cases env cfg s counters with
  | inl failed =>
    obtain ⟨e, hrun⟩ := failed
    rw [hrun] at hreport
    cases hreport
  | inr attempted =>
    obtain ⟨localHeight, result, hlocal, attempt, hrun⟩ := attempted
    rw [hrun] at hreport ⊢
    cases attempt with
    | decided hdecided => exact .inl ⟨(hlocal h).mp (hdecided h hreport), fun n _ => rfl⟩
    | fetched _ hfetched =>
      obtain ⟨rfl, n, hok⟩ := hfetched h hreport
      exact .inr (fetch_inPlace serves hok)

end Run

/-! ### Sequences of runs -/

section Runs

variable {cat : Catalog} {decode : Bytes → Except String PirMetadata} {s s' : BootDir}
  {done : List BootOp}

/-- The directories that runs of the bootstrap leave, each of them cut after some of its operations or
complete, where `allowed` restricts how a run may be cut. -/
inductive BootRuns (cat : Catalog) (decode : Bytes → Except String PirMetadata)
    (allowed : BootDir → List BootOp → Prop) (init : BootDir → Prop) : BootDir → Prop
  | start {s : BootDir} : init s → BootRuns cat decode allowed init s
  | run {s s' : BootDir} {done : List BootOp} {env cfg counters} :
      BootRuns cat decode allowed init s → env.decodeMetadata = decode →
      Serves cat env.toOutside cfg.toConfig → allowed s done →
      CutAfter s (NfServer.run env cfg counters s).1 done s' → BootRuns cat decode allowed init s'

/-- A run is not cut between the rename of Tier 0 and that of the metadata while older metadata is in
place. -/
def MetadataFollows (s : BootDir) (done : List BootOp) : Prop :=
  installOp .tier0 ∈ done → installOp .pirRoot ∈ done ∨ s (.live .pirRoot) = none

/-- Metadata in place is that of the snapshot in place. -/
def Coherent (cat : Catalog) (decode : Bytes → Except String PirMetadata) (s : BootDir) : Prop :=
  (s (.live .pirRoot)).isSome →
    ∃ net h files, IsSnapshot cat decode net h files ∧ InPlace files s

/-- The files are moved in their order. -/
lemma Progress.cases_moved {new s done s' moved}
    (h : Progress SNAPSHOT_FILES new s done s' moved) :
    moved = [] ∨ moved = [.tier0] ∨ moved = [.tier0, .tier1] ∨ moved = SNAPSHOT_FILES := by
  have horder := h.order
  rw [SNAPSHOT_FILES] at horder ⊢
  simp only [List.prefix_cons_iff, List.prefix_nil] at horder
  grind

/-- A snapshot stays in place while its files do. -/
lemma InPlace.of_same {files} (h : InPlace files s)
    (hsame : ∀ n ∈ SNAPSHOT_FILES, s' (.live n) = s (.live n)) : InPlace files s' := by
  intro n hn
  rw [hsame n hn, h n hn]

/-- Coherence reads the snapshot files. -/
lemma Coherent.of_same (h : Coherent cat decode s)
    (hsame : ∀ n ∈ SNAPSHOT_FILES, s' (.live n) = s (.live n)) : Coherent cat decode s' := by
  intro hsome
  rw [hsame .pirRoot (by decide)] at hsome
  obtain ⟨net, height, files, hfiles, inPlace⟩ := h hsome
  exact ⟨net, height, files, hfiles, inPlace.of_same hsame⟩

/-- A run that is not cut between the two renames keeps the metadata true. -/
lemma run_coherent {env : RunEnv} {cfg : RunConfig} {counters : Counters}
    (coherent : Coherent cat env.decodeMetadata s) (serves : Serves cat env.toOutside cfg.toConfig)
    (allowed : MetadataFollows s done) (cut : CutAfter s (run env cfg counters s).1 done s') :
    Coherent cat env.decodeMetadata s' := by
  cases run_progress serves cut with
  | inl nothing =>
    exact coherent.of_same fun n hn => (nothing fun _ => none).old n hn List.not_mem_nil
  | inr moves =>
    obtain ⟨h, files, moved, hfiles, _, progress⟩ := moves
    -- once Tier 0 is moved, the metadata is moved too or was missing
    have hpartial : .tier0 ∈ moved → .pirRoot ∉ moved → Coherent cat env.decodeMetadata s' := by
      intro htier0 hroot hsome
      cases allowed ((progress.done _ (by decide)).mpr htier0) with
      | inl hdone => exact absurd ((progress.done _ (by decide)).mp hdone) hroot
      | inr hnone =>
        rw [progress.old _ (by decide) hroot, hnone] at hsome
        cases hsome
    obtain rfl | rfl | rfl | rfl := progress.cases_moved
    · exact coherent.of_same fun n hn => progress.old n hn List.not_mem_nil
    · exact hpartial (by decide) (by decide)
    · exact hpartial (by decide) (by decide)
    · exact fun _ => ⟨_, h, files, hfiles, progress.new⟩

/-- In these runs the metadata stays true. -/
lemma BootRuns.coherent
    (reach : BootRuns cat decode MetadataFollows (fun s => s = fun _ => none) s) :
    Coherent cat decode s := by
  induction reach with
  | start hstart =>
    subst hstart
    intro hsome
    cases hsome
  | run _ hdecode serves allowed cut ih =>
    subst hdecode
    exact run_coherent ih serves allowed cut

/-- In runs that are not cut between the rename of Tier 0 and that of the metadata, a reported height
is that of the files in place. -/
theorem run_reports_files_in_place {env : RunEnv} {cfg : RunConfig} {counters : Counters} {h : Nat}
    (reach : BootRuns cat decode MetadataFollows (fun s => s = fun _ => none) s)
    (hdecode : env.decodeMetadata = decode) (serves : Serves cat env.toOutside cfg.toConfig)
    (hreport : reported (run env cfg counters s).2 = some h) :
    ∃ files, cat.snapshot cfg.zcashNetwork h = some files ∧
      InPlace files ((run env cfg counters).after s) := by
  subst hdecode
  cases run_reports serves hreport with
  | inl kept =>
    obtain ⟨⟨content, root, hcontent, hroot, valid⟩, hsame⟩ := kept
    obtain ⟨net, h', files, ⟨published, root', hroot', valid'⟩, inPlace⟩ :=
      reach.coherent (by rw [hcontent]; rfl)
    rw [inPlace .pirRoot (by decide)] at hcontent
    cases hcontent
    rw [hroot] at hroot'
    cases hroot'
    obtain rfl : cfg.zcashNetwork = net := valid.network.symm.trans valid'.network
    obtain rfl : h = h' := Option.some.inj (valid.height.symm.trans valid'.height)
    exact ⟨files, published, inPlace.of_same hsame⟩
  | inr moved =>
    obtain ⟨files, hfiles, inPlace⟩ := moved
    exact ⟨files, hfiles.published, inPlace⟩

end Runs

/-! ### A server of published snapshots -/

/-- A published testnet snapshot with its decoded metadata and the digests of its files. -/
structure Publication where
  height : Nat
  files : DataFile → Bytes
  small : ∀ n, (files n).length < U64
  root : PirMetadata
  digest : DataFile → Bytes
  manifestText : Bytes
  short : manifestText.length ≤ MAX_MANIFEST_BYTES

namespace Publication

variable (p : Publication)

def manifest : PublishedManifest where
  schemaVersion := 2
  nullifierPool := "ironwood"
  datasetVersion := 2
  height := p.height
  files := fun name => (SNAPSHOT_FILES.find? fun n => n.name == name).map fun n =>
    ⟨(p.files n).length, p.small n, hexEncode (p.digest n)⟩

/-- A server that sends each file of the snapshot in one piece. -/
def send (cfg : Config) (url : String) : Except String Response :=
  if url = manifestUrl cfg p.height then .ok ⟨200, none, [p.manifestText], none⟩
  else
    match SNAPSHOT_FILES.find? fun n => url == s!"{snapshotDir cfg p.height}/{n.name}" with
    | some n => .ok ⟨200, none, [p.files n], none⟩
    | none => .error "connection refused"

end Publication

section Publications

variable (ps : List Publication)

/-- The digests of the published files. -/
def digestTable : List (Bytes × Bytes) :=
  ps.flatMap fun p => SNAPSHOT_FILES.map fun n => (p.files n, p.digest n)

/-- SHA-256 at the published files. -/
def tableDigest (bs : Bytes) : Bytes :=
  (((digestTable ps).find? fun e => decide (e.1 = bs)).map Prod.snd).getD []

/-- `serde_json` at the published metadata. -/
def decodeRootText (bs : Bytes) : Except String PirMetadata :=
  match ps.find? fun p => decide (p.files .pirRoot = bs) with
  | some p => .ok p.root
  | none => .error "expected value"

/-- The published snapshots. -/
def catalogOf : Catalog where
  snapshot := fun net h =>
    match net with
    | .test => (ps.find? fun p => decide (p.height = h)).map Publication.files
    | .main => none

end Publications

/-- A run that is forced to the height of a publication. -/
def Publication.cfg (p : Publication) : RunConfig where
  zcashNetwork := .test
  precomputedBaseUrl := "https://cdn"
  pirConfigUrl := none
  votingConfigUrl := ""
  forceSnapshotHeight := some p.height

/-- The room on the host fits a `u64`. -/
lemma room_lt : 2 ^ 40 < U64 := by decide

/-- A host on which such a run meets the server. -/
def Publication.env (ps : List Publication) (p : Publication) : RunEnv where
  send := p.send p.cfg.toConfig
  io _ := .ok ()
  free := 2 ^ 40
  free_lt := room_lt
  sha256 := tableDigest ps
  decodeManifest := fun bs => if bs = p.manifestText then .ok p.manifest else .error "expected value"
  decodeMetadata := decodeRootText ps
  servers := offline.servers

/-- The published files, their digests and the heights are told apart, and every snapshot is valid. -/
structure Publishable (ps : List Publication) : Prop where
  files : ((digestTable ps).map Prod.fst).Nodup
  digests : ((digestTable ps).map Prod.snd).Nodup
  heights : (ps.map Publication.height).Nodup
  digest : ∀ p ∈ ps, ∀ n ∈ SNAPSHOT_FILES, p.digest n ≠ []
  root : ∀ p ∈ ps, ValidRoot .test p.height p.root
  fits : ∀ p ∈ ps, ∀ n ∈ SNAPSHOT_FILES, (p.files n).length ≤ 2 ^ 30
  height : ∀ p ∈ ps, validateExportHeight p.height .test = .ok ()

section Table

variable {ps : List Publication} {p : Publication}

/-- A search by a key that is different at every entry finds the entry. -/
lemma find?_of_nodup {α β : Type} [DecidableEq β] {f : α → β} {l : List α} {x : α}
    (nodup : (l.map f).Nodup) (hx : x ∈ l) : (l.find? fun y => decide (f y = f x)) = some x := by
  cases hfind : l.find? fun y => decide (f y = f x) with
  | none => exact absurd (List.find?_eq_none.mp hfind x hx) (by simp)
  | some y =>
    have hkey : f y = f x := by simpa using List.find?_some hfind
    rw [List.inj_on_of_nodup_map nodup (List.mem_of_find?_eq_some hfind) hx hkey]

/-- The table's entry of a published file. -/
lemma mem_digestTable (hp : p ∈ ps) {n} (hn : n ∈ SNAPSHOT_FILES) :
    (p.files n, p.digest n) ∈ digestTable ps :=
  List.mem_flatMap.mpr ⟨p, hp, List.mem_map.mpr ⟨n, hn, rfl⟩⟩

/-- A published file is the only text with its digest. -/
lemma Publishable.tableDigest_iff (h : Publishable ps) (hp : p ∈ ps) {n} (hn : n ∈ SNAPSHOT_FILES)
    {bs : Bytes} : tableDigest ps bs = p.digest n ↔ bs = p.files n := by
  have hmem := mem_digestTable hp hn
  constructor
  · intro heq
    rw [tableDigest] at heq
    cases hfind : (digestTable ps).find? fun e => decide (e.1 = bs) with
    | none =>
      rw [hfind] at heq
      exact absurd heq.symm (h.digest p hp n hn)
    | some e =>
      rw [hfind] at heq
      have hentry : e = (p.files n, p.digest n) :=
        List.inj_on_of_nodup_map h.digests (List.mem_of_find?_eq_some hfind) hmem heq
      have hkey : e.1 = bs := by simpa using List.find?_some hfind
      rw [← hkey, hentry]
  · rintro rfl
    rw [tableDigest, find?_of_nodup h.files hmem]
    rfl

/-- The snapshots differ in each of their files. -/
lemma Publishable.nodup_files (h : Publishable ps) {n} (hn : n ∈ SNAPSHOT_FILES) :
    (ps.map fun p => p.files n).Nodup := by
  have hfiles := h.files
  rw [digestTable, List.map_flatMap] at hfiles
  have hmem : ∀ p : Publication,
      p.files n ∈ (SNAPSHOT_FILES.map fun n => (p.files n, p.digest n)).map Prod.fst := by
    intro p
    exact List.mem_map.mpr ⟨_, List.mem_map.mpr ⟨n, hn, rfl⟩, rfl⟩
  refine List.pairwise_map.mpr ((List.nodup_flatMap.mp hfiles).2.imp ?_)
  intro p p' disjoint heq
  exact disjoint (hmem p) (heq ▸ hmem p')

/-- The metadata of a publication decodes. -/
lemma Publishable.decodeRootText_eq (h : Publishable ps) (hp : p ∈ ps) :
    decodeRootText ps (p.files .pirRoot) = .ok p.root := by
  rw [decodeRootText, find?_of_nodup (h.nodup_files (by decide)) hp]

/-- The catalog lists the publication. -/
lemma Publishable.catalogOf_eq (h : Publishable ps) (hp : p ∈ ps) :
    (catalogOf ps).snapshot .test p.height = some p.files :=
  congrArg (Option.map Publication.files) (find?_of_nodup h.heights hp)

/-- What the catalog lists is a publication. -/
lemma exists_of_catalogOf {net h files} (hfiles : (catalogOf ps).snapshot net h = some files) :
    ∃ p ∈ ps, net = .test ∧ h = p.height ∧ files = p.files := by
  cases net with
  | main => cases hfiles
  | test =>
    obtain ⟨p, hfind, rfl⟩ := Option.map_eq_some_iff.mp hfiles
    have hheight : p.height = h := by simpa using List.find?_some hfind
    exact ⟨p, List.mem_of_find?_eq_some hfind, rfl, hheight.symm, rfl⟩

end Table

/-- Hexadecimal digits are lower case. -/
lemma eqIgnoreAsciiCase_hexEncode {bs bs' : Bytes} :
    eqIgnoreAsciiCase (hexEncode bs) (hexEncode bs') = true ↔ bs = bs' := by
  have hdigit : ∀ n < 16, (hexDigit n).toLower = hexDigit n := by decide
  have hlower : ∀ bs : Bytes, (hexEncode bs).toList.map Char.toLower = (hexEncode bs).toList := by
    intro bs
    rw [hexEncode, String.toList_ofList]
    induction bs with
    | nil => rfl
    | cons b bs ih =>
      have hb := b.toNat_lt
      rw [List.flatMap_cons, List.map_append, ih]
      simp only [List.map_cons, List.map_nil, hdigit (b.toNat / 16) (by omega),
        hdigit (b.toNat % 16) (Nat.mod_lt _ (by decide))]
  rw [eqIgnoreAsciiCase, hlower, hlower, beq_iff_eq, String.toList_inj]
  exact ⟨fun h => hexEncode_injective h, fun h => h ▸ rfl⟩

section Served

variable {ps : List Publication} {p : Publication}

/-- The manifest lists the snapshot files. -/
lemma Publication.manifest_files {n} (hn : n ∈ SNAPSHOT_FILES) :
    p.manifest.files n.name = some ⟨(p.files n).length, p.small n, hexEncode (p.digest n)⟩ := by
  have hfind : ∀ n ∈ SNAPSHOT_FILES, (SNAPSHOT_FILES.find? fun m => m.name == n.name) = some n := by
    decide
  change (SNAPSHOT_FILES.find? fun m => m.name == n.name).map _ = _
  rw [hfind n hn]
  rfl

/-- The server sends the manifest. -/
lemma Publication.send_manifest {cfg} :
    p.send cfg (manifestUrl cfg p.height) = .ok ⟨200, none, [p.manifestText], none⟩ :=
  if_pos rfl

/-- The server sends the files. -/
lemma Publication.send_file {cfg n} (hn : n ∈ SNAPSHOT_FILES) :
    p.send cfg s!"{snapshotDir cfg p.height}/{n.name}" = .ok ⟨200, none, [p.files n], none⟩ := by
  have hfind : ∀ n ∈ SNAPSHOT_FILES,
      (SNAPSHOT_FILES.find? fun m => decide (n.name = m.name)) = some n := by
    decide
  have hname : ∀ n ∈ SNAPSHOT_FILES, n.name ≠ "manifest.json" := by decide
  have hurl : ∀ a b : String, s!"{snapshotDir cfg p.height}/{a}" = s!"{snapshotDir cfg p.height}/{b}" ↔
      a = b := fun a b => String.append_right_inj _
  have hmanifest : ∀ name, name = "manifest.json" →
      manifestUrl cfg p.height = s!"{snapshotDir cfg p.height}/{name}" := by
    rintro name rfl
    rw [manifestUrl, String.append_assoc]
    rfl
  rw [Publication.send, if_neg]
  · simp only [beq_eq_decide, hurl, hfind n hn]
  · rw [hmanifest _ rfl, hurl]
    exact hname n hn

/-- A publication is served in full. -/
lemma Publishable.publishes (h : Publishable ps) (hp : p ∈ ps) :
    Publishes (p.env ps).toOutside p.cfg.toConfig p.height none p.manifest p.files where
  io := fun _ => rfl
  sent := ⟨p.manifestText, ⟨_, Publication.send_manifest, by simp, Nat.zero_le _, rfl,
    List.append_nil _⟩, p.short, fun _ h => (by cases h), if_pos rfl⟩
  accepted := by
    have hfiles : ∀ n ∈ SNAPSHOT_FILES, (p.manifest.files n.name).isSome = true := by
      intro n hn
      rw [Publication.manifest_files hn]
      rfl
    exact bind_eq_ok.mpr ⟨(), ensure_pos rfl, bind_eq_ok.mpr ⟨(), ensure_pos isCurrentDataset_current,
      bind_eq_ok.mpr ⟨(), ensure_pos (beq_self_eq_true _),
        forEach_eq_ok.mpr fun n hn => ensure_pos (hfiles n hn)⟩⟩⟩
  entries := fun n hn => ⟨_, Publication.manifest_files hn,
    ⟨_, Publication.send_file hn, by simp, Nat.zero_le _, rfl, List.append_nil _⟩, rfl,
    eqIgnoreAsciiCase_hexEncode.mpr ((h.tableDigest_iff hp hn).mpr rfl)⟩
  fits := by
    have hsum := List.sum_le_card_nsmul (SNAPSHOT_FILES.map fun n => (p.files n).length) (2 ^ 30) (by
      intro len hlen
      obtain ⟨n, hn, rfl⟩ := List.mem_map.mp hlen
      exact h.fits p hp n hn)
    exact hsum.trans (by simp [SNAPSHOT_FILES, Publication.env])
  root := ⟨p.root, h.decodeRootText_eq hp, h.root p hp⟩

/-- And it is the only snapshot its server sends. -/
lemma Publishable.serves (h : Publishable ps) (hp : p ∈ ps) :
    Serves (catalogOf ps) (p.env ps).toOutside p.cfg.toConfig := by
  intro height response manifest published
  have hdecoded := published.decoded
  change (if _ then _ else _) = _ at hdecoded
  split at hdecoded
  · obtain rfl : p.manifest = manifest := Except.ok.inj hdecoded
    obtain rfl : p.height = height := published.height
    refine ⟨p.files, h.catalogOf_eq hp, fun n hn entry content hentry hmatch => ?_⟩
    rw [Publication.manifest_files hn] at hentry
    cases hentry
    exact (h.tableDigest_iff hp hn).mp (eqIgnoreAsciiCase_hexEncode.mp hmatch.digest)
  · cases hdecoded

/-- A forced run at the height of the metadata in place takes its word. -/
lemma run_of_localRoot {s : BootDir} {counters} (h : Publishable ps) (hp : p ∈ ps)
    (hroot : LocalRoot (p.env ps) p.cfg s p.height) :
    run (p.env ps) p.cfg counters s = ([.read (.live .pirRoot)],
      .ok (counters.attemptsInc.outcomeInc .alreadyAtHeight, .ok (.alreadyAtHeight p.height))) := by
  obtain ⟨hops, hlocal⟩ := @readLocalHeight_run (p.env ps) p.cfg s
  have hvalid : validateExportHeight p.height p.cfg.zcashNetwork = .ok () := h.height p hp
  have hat : runAt (p.env ps) p.cfg counters (some p.height) =
      bootstrapToHeight (p.env ps) p.cfg p.height (some p.height) true counters.attemptsInc := by
    rw [runAt, show p.cfg.forceSnapshotHeight = some p.height from rfl]
    simp only [hvalid]
  rw [run_eq, Prog.bind_of_ok ((hlocal p.height).mpr hroot), hops, hat, bootstrapToHeight, if_pos rfl]
  rfl

/-- A forced run at another height installs the snapshot. -/
lemma run_of_other {s : BootDir} {counters localHeight} (h : Publishable ps) (hp : p ∈ ps)
    (hread : (readLocalHeight (p.env ps) p.cfg s).2 = .ok localHeight)
    (hother : localHeight ≠ some p.height) :
    (run (p.env ps) p.cfg counters s).1 = .read (.live .pirRoot) ::
      (fetchAuthenticated (p.env ps).toOutside p.cfg.toConfig p.height none s).1 ∧
    reported (run (p.env ps) p.cfg counters s).2 = some p.height := by
  obtain ⟨hops, _⟩ := @readLocalHeight_run (p.env ps) p.cfg s
  have hvalid : validateExportHeight p.height p.cfg.zcashNetwork = .ok () := h.height p hp
  have hurl : p.cfg.precomputedBaseUrl.isEmpty = false :=
    (by decide : ("https://cdn" : String).isEmpty = false)
  have hat : runAt (p.env ps) p.cfg counters localHeight =
      bootstrapToHeight (p.env ps) p.cfg p.height localHeight true counters.attemptsInc := by
    rw [runAt, show p.cfg.forceSnapshotHeight = some p.height from rfl]
    simp only [hvalid]
  obtain ⟨count, hfetch, _⟩ := @fetchAuthenticated_installs _ _ _ _ _ _ s (h.publishes hp)
  have hbootstrap : bootstrapToHeight (p.env ps) p.cfg p.height localHeight true counters.attemptsInc s =
      ((fetchAuthenticated (p.env ps).toOutside p.cfg.toConfig p.height none s).1,
        .ok (counters.attemptsInc.outcomeInc .bootstrapped, .ok (.bootstrappedTo p.height))) := by
    rw [bootstrapToHeight, if_neg hother, hurl, if_neg (by decide), attempt_bind (by rw [hfetch]; rfl)]
  rw [run_eq, Prog.bind_of_ok hread, Prog.after, hops, hat]
  change _ :: (bootstrapToHeight (p.env ps) p.cfg p.height localHeight true counters.attemptsInc s).1 = _ ∧
    reported (bootstrapToHeight (p.env ps) p.cfg p.height localHeight true counters.attemptsInc s).2 = _
  rw [hbootstrap]
  exact ⟨rfl, rfl⟩

/-- A crash right behind the first operations. -/
lemma cutAfter_append {s : BootDir} {ops ops' : List BootOp} :
    CutAfter s (ops ++ ops') ops (exec s ops) := by
  induction ops generalizing s with
  | nil => exact .stop
  | cons o ops ih => exact .step ih

/-- An install starts with the rename of Tier 0. -/
lemma exists_fetch_ops {s : BootDir} {env : Outside} {cfg height manifest files}
    (pub : Publishes env cfg height none manifest files) :
    ∃ ops rest, (fetchAuthenticated env cfg height none s).1 = ops ++ installOp .tier0 :: rest ∧
      (∀ o ∈ ops, Quiet o) ∧ exec s ops (.staged .tier0) = some (files .tier0) := by
  obtain ⟨total, hstage, hstaged⟩ := @stageSnapshot_returns env cfg height none manifest files s pub
  have hstaged0 := hstaged .tier0 (by decide)
  have hstarts : ∀ f : Unit → Boot Nat, ∃ rest, ((installFile env .tier0 >>= f)
      ((stageSnapshot env cfg height none).after s)).1 = installOp .tier0 :: rest := by
    intro f
    have hok := installFile_returns pub.io hstaged0
    cases @installFile_cases ((stageSnapshot env cfg height none).after s) env .tier0 with
    | inl nothing =>
      obtain ⟨_, e, herr⟩ := nothing
      rw [hok] at herr
      cases herr
    | inr moves =>
      obtain ⟨_, rest, _, hops, _⟩ := moves
      rw [Prog.bind_of_ok hok, hops]
      exact ⟨_, rfl⟩
  rw [fetchAuthenticated, Prog.bind_of_ok hstage, installFromStaging, SNAPSHOT_FILES, Prog.forEach,
    Prog.bind_assoc, Prog.bind_assoc]
  exact (hstarts _).elim fun rest hrest => ⟨(stageSnapshot env cfg height none s).1, rest,
    congrArg _ hrest, fun o ho => ((stageSnapshot_ops s).1 o ho).quiet, hstaged0⟩

/-- Metadata of a publication names its height. -/
lemma Publishable.localRoot {s : BootDir} {env : RunEnv} {cfg : RunConfig} (h : Publishable ps)
    (hp : p ∈ ps) (hdecode : env.decodeMetadata = decodeRootText ps) (hnet : cfg.zcashNetwork = .test)
    (hs : s (.live .pirRoot) = some (p.files .pirRoot)) : LocalRoot env cfg s p.height :=
  ⟨_, p.root, hs, by rw [hdecode, h.decodeRootText_eq hp], hnet ▸ h.root p hp⟩

/-- An empty directory has no height. -/
lemma readLocalHeight_empty {env : RunEnv} {cfg : RunConfig} :
    (readLocalHeight env cfg fun _ => none).2 = .ok none := rfl

/-- A forced run at another height leaves the snapshot in place. -/
lemma run_installs {s : BootDir} {counters localHeight} (h : Publishable ps) (hp : p ∈ ps)
    (hread : (readLocalHeight (p.env ps) p.cfg s).2 = .ok localHeight)
    (hother : localHeight ≠ some p.height) :
    InPlace p.files ((run (p.env ps) p.cfg counters).after s) := by
  obtain ⟨hops, _⟩ := @run_of_other _ _ _ counters _ h hp hread hother
  obtain ⟨_, _, hlive⟩ := @fetchAuthenticated_installs _ _ _ _ _ _ s (h.publishes hp)
  intro n hn
  have hfile := hlive n hn
  rw [Prog.after] at hfile
  rw [Prog.after, hops, exec_cons, apply_read, hfile]

/-- It can be cut behind the rename of Tier 0, with the metadata of before in place. -/
lemma exists_cut {s : BootDir} {counters localHeight} (h : Publishable ps) (hp : p ∈ ps)
    (hread : (readLocalHeight (p.env ps) p.cfg s).2 = .ok localHeight)
    (hother : localHeight ≠ some p.height) :
    ∃ done s', CutAfter s (run (p.env ps) p.cfg counters s).1 done s' ∧
      s' (.live .tier0) = some (p.files .tier0) ∧ s' (.live .pirRoot) = s (.live .pirRoot) := by
  obtain ⟨hops, _⟩ := @run_of_other _ _ _ counters _ h hp hread hother
  obtain ⟨ops, rest, hfetch, hquiet, hstaged⟩ := @exists_fetch_ops s _ _ _ _ _ (h.publishes hp)
  rw [hops, hfetch]
  have hsplit : (.read (.live .pirRoot) :: (ops ++ installOp .tier0 :: rest) : List BootOp) =
      (.read (.live .pirRoot) :: ops ++ [installOp .tier0]) ++ rest := by simp
  rw [hsplit]
  refine ⟨_, _, cutAfter_append, ?_, ?_⟩
  · rw [exec_append, exec_cons, exec_nil, exec_cons, apply_read, installOp, apply_rename hstaged,
      if_neg (by simp), if_pos rfl]
  · have hkept : exec s ops (.live .pirRoot) = s (.live .pirRoot) :=
      Interrupted.of_avoids (fun o ho => hquiet o ho _ (by decide)) .exec
    rw [exec_append, exec_cons, exec_nil, exec_cons, apply_read, installOp, apply_rename hstaged,
      if_neg (by simp), if_neg (by simp), hkept]

/-- The host decodes what is published. -/
lemma decodeMetadata_env : (p.env ps).decodeMetadata = decodeRootText ps := rfl

/-- A run against the server is one of the catalog. -/
lemma Publishable.run {allowed : BootDir → List BootOp → Prop} {init : BootDir → Prop} {s s' : BootDir}
    {done counters} (h : Publishable ps) (hp : p ∈ ps)
    (reach : BootRuns (catalogOf ps) (decodeRootText ps) allowed init s) (hallowed : allowed s done)
    (cut : CutAfter s (NfServer.run (p.env ps) p.cfg counters s).1 done s') :
    BootRuns (catalogOf ps) (decodeRootText ps) allowed init s' :=
  .run reach decodeMetadata_env (h.serves hp) hallowed cut

/-- The directory after a complete run in an empty one. -/
def installedDir (ps : List Publication) (p : Publication) : BootDir :=
  (run (p.env ps) p.cfg {}).after fun _ => none

/-- The snapshot is in place there. -/
lemma installedDir_inPlace (h : Publishable ps) (hp : p ∈ ps) : InPlace p.files (installedDir ps p) :=
  run_installs h hp readLocalHeight_empty (by simp)

/-- It is reached by that run. -/
lemma installedDir_reach {allowed : BootDir → List BootOp → Prop} {init : BootDir → Prop}
    (h : Publishable ps) (hp : p ∈ ps) (hinit : init fun _ => none)
    (hallowed : ∀ done, allowed (fun _ => none) done) :
    BootRuns (catalogOf ps) (decodeRootText ps) allowed init (installedDir ps p) :=
  h.run hp (.start hinit) (hallowed _) .all

/-- What the next run reads in it. -/
lemma readLocalHeight_of_files {s : BootDir} {p' : Publication} (h : Publishable ps) (hp : p ∈ ps)
    (hs : s (.live .pirRoot) = some (p.files .pirRoot)) :
    (readLocalHeight (p'.env ps) p'.cfg s).2 = .ok (some p.height) :=
  (readLocalHeight_run.2 _).mpr (h.localRoot hp decodeMetadata_env rfl hs)

end Served

/-! ### Two published snapshots -/

section Rollback

/-- `pir_root.json` up to its height. -/
def rootHead : String :=
  "\x7b\"zcash_network\":\"test\",\"nullifier_pool\":\"ironwood\",\"dataset" ++
    "_version\":2,\"pir_root\":\"00\",\"circuit_root\":\"00\",\"num_ranges\"" ++
    ":1,\"pir_depth\":19,\"pir_layout\":\x7b\"pir_depth\":19,\"tier0_layers" ++
    "\":12,\"tier1_layers\":7,\"poly_len\":4096\x7d,\"tier0_bytes\":393184," ++
    "\"tier1_rows\":4096,\"tier1_row_bytes\":12288,\"height\":"

/-- `pir_root.json` of a height. -/
def rootText (height : String) : Bytes := ascii (rootHead ++ height ++ "\x7d")

/-- `manifest.json` of a height, with the sizes and digests of its files. -/
def manifestText (height root tier0 tier1 : String) : Bytes := ascii
  ("\x7b\"schema_version\":2,\"nullifier_pool\":\"ironwood\",\"dataset_ver" ++
    "sion\":2,\"height\":" ++ height ++ ",\"files\":\x7b\"pir_root.json\":\x7b" ++ root ++
    "\x7d,\"tier0.bin\":\x7b" ++ tier0 ++ "\x7d,\"tier1.bin\":\x7b" ++ tier1 ++ "\x7d\x7d\x7d")

/-- The snapshot of the older height. -/
def olderFiles : DataFile → Bytes
  | .tier0 => [1, 2, 3]
  | .tier1 => [4, 5, 6, 7]
  | .pirRoot => rootText "4134010"
  | _ => []

/-- The snapshot of the newer height. -/
def newerFiles : DataFile → Bytes
  | .tier0 => [8, 9]
  | .tier1 => [10]
  | .pirRoot => rootText "4134020"
  | _ => []

def olderDigest : DataFile → Bytes
  | .tier0 => [3, 144, 88, 198, 242, 192, 203, 73, 44, 83, 59, 10, 77, 20, 239, 119, 204, 15, 120, 171,
      204, 206, 213, 40, 125, 132, 161, 162, 1, 28, 251, 129]
  | .tier1 => [198, 212, 76, 244, 24, 246, 16, 227, 254, 158, 29, 146, 148, 255, 67, 222, 248, 28, 108,
      220, 173, 108, 187, 24, 32, 207, 244, 141, 58, 164, 53, 93]
  | .pirRoot => [72, 48, 33, 54, 86, 253, 19, 33, 87, 207, 24, 254, 53, 240, 254, 80, 255, 76, 151, 148,
      201, 177, 255, 230, 98, 81, 249, 18, 104, 250, 240, 186]
  | _ => []

def newerDigest : DataFile → Bytes
  | .tier0 => [115, 144, 117, 137, 16, 26, 126, 138, 184, 49, 120, 231, 219, 41, 151, 170, 183, 39, 44,
      208, 45, 54, 78, 142, 62, 204, 43, 236, 205, 164, 182, 49]
  | .tier1 => [1, 186, 71, 25, 200, 11, 111, 233, 17, 176, 145, 167, 192, 81, 36, 182, 78, 238, 206,
      150, 78, 9, 192, 88, 239, 143, 152, 5, 218, 202, 84, 107]
  | .pirRoot => [31, 46, 152, 156, 113, 139, 175, 182, 240, 214, 214, 229, 143, 233, 114, 99, 73, 111,
      110, 44, 229, 51, 46, 68, 80, 240, 154, 186, 91, 175, 145, 205]
  | _ => []

/-- The two metadata texts differ. -/
lemma rootText_ne : rootText "4134020" ≠ rootText "4134010" := by
  rw [rootText, rootText, ascii_append, ascii_append, ascii_append, ascii_append]
  intro h
  have hheight := List.append_cancel_left (List.append_cancel_right h)
  rw [ascii_ofList, ascii_ofList] at hheight
  exact absurd hheight (by decide)

/-- They are short. -/
lemma length_rootText :
    (rootText "4134010").length ≤ 1000 ∧ (rootText "4134020").length ≤ 1000 := by
  delta rootText rootHead
  simp only [ascii_append]
  iterate 8 rewrite [ascii_ofList]
  decide +kernel

/-- They start with a brace. -/
lemma head?_rootText {height : String} : (rootText height).head? = some 123 := by
  delta rootText rootHead
  simp only [ascii_append, List.append_assoc]
  rewrite [ascii_ofList, List.map_cons, List.cons_append]
  rfl

def older : Publication where
  height := 4134010
  files := olderFiles
  small := by
    intro n
    have hroot := length_rootText.1
    cases n <;> simp [olderFiles, U64]
    omega
  root := { sampleRoot with height := some 4134010 }
  digest := olderDigest
  manifestText := manifestText "4134010"
    "\"size\":299,\"sha256\":\"4830213656fd132157cf18fe35f0fe50ff4c9794c9b1ffe66251f91268faf0ba\""
    "\"size\":3,\"sha256\":\"039058c6f2c0cb492c533b0a4d14ef77cc0f78abccced5287d84a1a2011cfb81\""
    "\"size\":4,\"sha256\":\"c6d44cf418f610e3fe9e1d9294ff43def81c6cdcad6cbb1820cff48d3aa4355d\""
  short := by
    rewrite [manifestText]
    simp only [ascii_append]
    iterate 10 rewrite [ascii_ofList]
    decide +kernel

def newer : Publication where
  height := 4134020
  files := newerFiles
  small := by
    intro n
    have hroot := length_rootText.2
    cases n <;> simp [newerFiles, U64]
    omega
  root := { sampleRoot with height := some 4134020 }
  digest := newerDigest
  manifestText := manifestText "4134020"
    "\"size\":299,\"sha256\":\"1f2e989c718bafb6f0d6d6e58fe97263496f6e2ce5332e4450f09aba5baf91cd\""
    "\"size\":2,\"sha256\":\"73907589101a7e8ab83178e7db2997aab7272cd02d364e8e3ecc2beccda4b631\""
    "\"size\":1,\"sha256\":\"01ba4719c80b6fe911b091a7c05124b64eeece964e09c058ef8f9805daca546b\""
  short := by
    rewrite [manifestText]
    simp only [ascii_append]
    iterate 10 rewrite [ascii_ofList]
    decide +kernel

/-- So nothing else is one of them. -/
lemma ne_rootText {bs : Bytes} {height : String} (h : bs.head? ≠ some 123) : bs ≠ rootText height :=
  fun heq => h (heq ▸ head?_rootText)

/-- The sample metadata is valid for its height. -/
lemma sampleRoot_valid {h : Nat} : ValidRoot .test h { sampleRoot with height := some h } := by
  have sup : COMPILED_PIR_LAYOUT.Supported := by
    constructor <;> decide
  exact ⟨rfl, isCurrentDataset_current, sup, rfl, sup.tier1Rows_eq, sup.tier1RowBytes_eq,
    sup.tier0Bytes_eq, rfl⟩

/-- Both snapshots. -/
def twoSnapshots : List Publication := [older, newer]

/-- The two snapshots can be published together. -/
lemma publishable_two : Publishable twoSnapshots where
  files := by
    simp only [twoSnapshots, digestTable, SNAPSHOT_FILES, List.flatMap_cons, List.flatMap_nil,
      List.map_cons, List.map_nil, List.cons_append, List.nil_append, older, newer, olderFiles, newerFiles,
      List.nodup_cons, List.mem_cons, List.not_mem_nil, or_false, not_or, not_false_eq_true,
      List.nodup_nil, and_true]
    refine ⟨⟨by decide, ne_rootText (by decide), by decide, by decide, ne_rootText (by decide)⟩,
      ⟨ne_rootText (by decide), by decide, by decide, ne_rootText (by decide)⟩,
      ⟨(ne_rootText (by decide)).symm, (ne_rootText (by decide)).symm, rootText_ne.symm⟩,
      ⟨by decide, ne_rootText (by decide)⟩, ne_rootText (by decide)⟩
  digests := by decide +kernel
  heights := by decide
  digest := by decide
  root := by
    intro p hp
    obtain rfl | rfl := List.mem_pair.mp hp
    · exact sampleRoot_valid
    · exact sampleRoot_valid
  fits := by
    intro p hp n hn
    have hroot := length_rootText
    simp only [SNAPSHOT_FILES, List.mem_cons, List.not_mem_nil, or_false] at hn
    obtain rfl | rfl := List.mem_pair.mp hp
    all_goals
      obtain rfl | rfl | rfl := hn
      all_goals simp [older, newer, olderFiles, newerFiles]
    · omega
    · omega
  height := by
    intro p hp
    obtain rfl | rfl := List.mem_pair.mp hp
    · exact validateExportHeight_eq_ok.mpr (by decide)
    · exact validateExportHeight_eq_ok.mpr (by decide)

/-- The older snapshot is one of them. -/
lemma older_mem : older ∈ twoSnapshots := List.mem_cons_self

/-- The newer snapshot is the other. -/
lemma newer_mem : newer ∈ twoSnapshots := List.mem_cons_of_mem _ List.mem_cons_self

/-- The directory after a complete run to the older height. -/
def olderDir : BootDir := installedDir twoSnapshots older

/-- It is reached by the run to the older height. -/
lemma olderDir_reach {allowed : BootDir → List BootOp → Prop}
    (hallowed : ∀ done, allowed (fun _ => none) done) :
    BootRuns (catalogOf twoSnapshots) (decodeRootText twoSnapshots) allowed (fun s => s = fun _ => none)
      olderDir :=
  installedDir_reach publishable_two older_mem rfl hallowed

/-- The next run reads the older height there. -/
lemma readLocalHeight_olderDir :
    (readLocalHeight (newer.env twoSnapshots) newer.cfg olderDir).2 = .ok (some 4134010) :=
  readLocalHeight_of_files publishable_two older_mem
    (installedDir_inPlace publishable_two older_mem .pirRoot (by decide))

/-- The older snapshot is installed, then the newer one. -/
theorem run_reports_files_in_place_newer :
    reported (run (newer.env twoSnapshots) newer.cfg {} olderDir).2 = some 4134020 ∧
      InPlace newerFiles ((run (newer.env twoSnapshots) newer.cfg {}).after olderDir) := by
  have hreport : reported (run (newer.env twoSnapshots) newer.cfg {} olderDir).2 = some 4134020 :=
    (run_of_other publishable_two newer_mem readLocalHeight_olderDir (by decide)).2
  obtain ⟨files, hfiles, inPlace⟩ :=
    run_reports_files_in_place (olderDir_reach fun _ _ => .inr rfl) decodeMetadata_env
      (publishable_two.serves newer_mem) hreport
  obtain rfl : newerFiles = files :=
    Option.some.inj ((publishable_two.catalogOf_eq newer_mem).symm.trans hfiles)
  exact ⟨hreport, inPlace⟩

/-- After a cut on the way to the newer height, a run back to the older one reports that height over
Tier 0 of the newer one. -/
theorem rollback_reports_mixed_files :
    ∃ s files, BootRuns (catalogOf twoSnapshots) (decodeRootText twoSnapshots) (fun _ _ => True)
        (fun s => s = fun _ => none) s ∧
      (catalogOf twoSnapshots).snapshot .test 4134010 = some files ∧
      outcome (run (older.env twoSnapshots) older.cfg {} s).2 = some (.alreadyAtHeight 4134010) ∧
      ¬ InPlace files ((run (older.env twoSnapshots) older.cfg {}).after s) := by
  obtain ⟨done, s, hcut, htier0, hroot⟩ :=
    @exists_cut _ _ _ {} _ publishable_two newer_mem readLocalHeight_olderDir (by decide)
  have hlocal : LocalRoot (older.env twoSnapshots) older.cfg s older.height :=
    publishable_two.localRoot older_mem decodeMetadata_env rfl
      (hroot.trans (installedDir_inPlace publishable_two older_mem .pirRoot (by decide)))
  have hrun := @run_of_localRoot _ older s {} publishable_two older_mem hlocal
  refine ⟨s, olderFiles, publishable_two.run newer_mem (olderDir_reach fun _ => trivial) trivial hcut,
    publishable_two.catalogOf_eq older_mem, ?_, ?_⟩
  · rw [hrun]
    rfl
  · intro inPlace
    have hfile := inPlace .tier0 (by decide)
    rw [Prog.after, hrun, exec_cons, apply_read, exec_nil, htier0] at hfile
    exact absurd hfile (by decide)

end Rollback

end NullifierPir.NfServer
