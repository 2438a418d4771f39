import NullifierPir.NfServer.Discovery

/-!
# Bootstrap outcomes

Port of `run`, `resolve_expected_height` and `bootstrap_to_height` of `nf-server/src/bootstrap.rs` with
the two counters of `metrics.rs` that they step. A call returns its result together with the counters,
so that a failed call keeps what it has counted; a panic ends the program without a result.

`run_counts` says what a completed call counts. The calls that count no outcome are those with a
forced height that is refused, and the counters of a whole sequence of calls agree exactly when no
call is one of them (`bootstrap_counts_once_iff`).
-/

namespace NullifierPir.NfServer
open Rust Crash Utf8 NullifierPir.Types NullifierPir.Ingest

/-- Values of the `result` label. -/
inductive OutcomeLabel where
  | disabled
  | alreadyAtHeight
  | usingLocalSnapshot
  | bootstrapped
  | fellThrough
  | failedVotingConfig
  | failedPrecomputedConfig
  | failedCdnFetch
  deriving DecidableEq

/-- Every label. -/
def OutcomeLabel.all : List OutcomeLabel :=
  [.disabled, .alreadyAtHeight, .usingLocalSnapshot, .bootstrapped, .fellThrough,
    .failedVotingConfig, .failedPrecomputedConfig, .failedCdnFetch]

/-- Result of a completed bootstrap (Rust `Outcome`). -/
inductive Outcome where
  | disabled
  | alreadyAtHeight (height : Nat)
  | usingLocalSnapshot (height : Nat)
  | bootstrappedTo (height : Nat)
  | fellThrough (reason : String)
  deriving DecidableEq

/-- The label of an outcome. -/
def Outcome.label : Outcome → OutcomeLabel
  | .disabled => .disabled
  | .alreadyAtHeight _ => .alreadyAtHeight
  | .usingLocalSnapshot _ => .usingLocalSnapshot
  | .bootstrappedTo _ => .bootstrapped
  | .fellThrough _ => .fellThrough

/-- Bootstrap counters. -/
@[ext] structure Counters where
  bootstrapAttempts : Nat := 0
  bootstrapOutcomes : OutcomeLabel → Nat := fun _ => 0

def Counters.attemptsInc (counters : Counters) : Counters :=
  { counters with bootstrapAttempts := counters.bootstrapAttempts + 1 }

def Counters.outcomeInc (counters : Counters) (label : OutcomeLabel) : Counters :=
  { counters with bootstrapOutcomes :=
      Function.update counters.bootstrapOutcomes label (counters.bootstrapOutcomes label + 1) }

/-- Sum of the outcomes counter over its labels. -/
def Counters.outcomes (counters : Counters) : Nat :=
  (OutcomeLabel.all.map counters.bootstrapOutcomes).sum

/-- Configuration of a call (Rust `Config`). -/
structure RunConfig extends Config where
  pirConfigUrl : Option String
  votingConfigUrl : String
  forceSnapshotHeight : Option Nat

/-- What a call meets outside the program. -/
structure RunEnv extends Outside where
  servers : Servers

/-- A call's result with the counters it leaves. -/
abbrev Counted := Counters × Rust Outcome

variable (env : RunEnv) (cfg : RunConfig)

/-- Rust `read_local_height`. -/
def readLocalHeight : Boot (Option Nat) := do
  match ← Prog.attempt (validatePirMetadata env.toOutside (.live .pirRoot) cfg.zcashNetwork) with
  | .ok root => return root.height
  | .error (.err _) => return none
  | .error fault => Prog.lift (.error fault)

/-- Rust `resolve_legacy_voting_height`. -/
def resolveLegacyVotingHeight : Rust (Option Nat) :=
  if (trim cfg.votingConfigUrl.toList).isEmpty then .ok none
  else do
    let height ← context
      ("voting-config fetch failed (legacy fallback; URL=" ++ cfg.votingConfigUrl ++ ")")
      (fetchVotingSnapshotHeight env.servers cfg.votingConfigUrl)
    match height with
    | some h =>
      validateExportHeight h cfg.zcashNetwork
      return some h
    | none => return none

/-- Rust `resolve_expected_height`. -/
def resolveExpectedHeight : Source → Rust (Option Nat)
  | .disabled => .ok none
  | .fallbackToVotingConfig _ => resolveLegacyVotingHeight env cfg
  | .url url strict =>
    match fetchRequiredSnapshotHeight env.servers url cfg.zcashNetwork with
    | .ok h => .ok (some h)
    | .error (.err e) =>
      if !strict && !(trim cfg.votingConfigUrl.toList).isEmpty then
        resolveLegacyVotingHeight env cfg
      else bail ("PIR config fetch failed (strict bootstrap; URL=" ++ url ++ "): " ++ e)
    | .error fault => .error fault

/-- Rust `bootstrap_to_height`. -/
def bootstrapToHeight (expectedHeight : Nat) (localHeight : Option Nat) (forced : Bool)
    (counters : Counters) : Boot Counted :=
  if localHeight = some expectedHeight then
    return (counters.outcomeInc .alreadyAtHeight, .ok (.alreadyAtHeight expectedHeight))
  else if cfg.precomputedBaseUrl.isEmpty then
    if forced then
      return (counters.outcomeInc .failedPrecomputedConfig,
        bail ("force snapshot height " ++ toString expectedHeight ++
          " requires a non-empty precomputed-base-url"))
    else
      return (counters.outcomeInc .fellThrough, .ok (.fellThrough "precomputed-base-url is empty"))
  else do
    match ← Prog.attempt (fetchAuthenticated env.toOutside cfg.toConfig expectedHeight none) with
    | .ok _ => return (counters.outcomeInc .bootstrapped, .ok (.bootstrappedTo expectedHeight))
    | .error (.err e) =>
      if forced then
        return (counters.outcomeInc .failedCdnFetch,
          bail ("forced snapshot bootstrap to height " ++ toString expectedHeight ++ " failed: " ++ e))
      else
        return (counters.outcomeInc .fellThrough, .ok (.fellThrough ("CDN fetch failed: " ++ e)))
    | .error fault => Prog.lift (.error fault)

/-- The part of `run` without a forced height. -/
def runConfigured (localHeight : Option Nat) (counters : Counters) : Boot Counted :=
  match resolveSource cfg.pirConfigUrl cfg.votingConfigUrl with
  | .error e => return (counters, .error e)
  | .ok source =>
    if source = .disabled then return (counters.outcomeInc .disabled, .ok .disabled)
    else
      match resolveExpectedHeight env cfg source with
      | .ok (some h) => bootstrapToHeight env cfg h localHeight false counters
      | .ok none =>
        match localHeight with
        | some h => return (counters.outcomeInc .usingLocalSnapshot, .ok (.usingLocalSnapshot h))
        | none =>
          return (counters.outcomeInc .failedVotingConfig,
            bail ("no configured snapshot_height discovered and no local snapshot exists; " ++
              "set SVOTE_PIR_FORCE_SNAPSHOT_HEIGHT / --force-snapshot-height to bootstrap a " ++
              "specific published snapshot"))
      | .error (.err e) => return (counters.outcomeInc .failedVotingConfig, bail e)
      | .error fault => Prog.lift (.error fault)

/-- Rust `run`. -/
def run (counters : Counters) : Boot Counted := do
  let counters := counters.attemptsInc
  let localHeight ← readLocalHeight env cfg
  match cfg.forceSnapshotHeight with
  | some h =>
    match validateExportHeight h cfg.zcashNetwork with
    | .error e => return (counters, .error e)
    | .ok _ => bootstrapToHeight env cfg h localHeight true counters
  | none => runConfigured env cfg localHeight counters

/-! ### What a call counts -/

section Count

variable {env cfg}

/-- The call has no forced height, or one at which a snapshot can be published. -/
def RunConfig.forceAccepted (cfg : RunConfig) : Bool :=
  cfg.forceSnapshotHeight.all fun h =>
    decide (nu63ActivationHeight cfg.zcashNetwork ≤ h) && h % 10 == 0

/-- One outcome is counted, and it is the returned one. -/
def CountsOne (counters : Counters) (counted : Counted) : Prop :=
  ∃ label, counted.1 = counters.outcomeInc label ∧
    ∀ outcome, counted.2 = .ok outcome → outcome.label = label

/-- An outcome that is returned and counted. -/
lemma CountsOne.ok {counters : Counters} (outcome : Outcome) :
    CountsOne counters (counters.outcomeInc outcome.label, .ok outcome) := by
  refine ⟨outcome.label, rfl, fun outcome' h => ?_⟩
  cases h
  rfl

/-- A failure that is counted. -/
lemma CountsOne.bail {counters : Counters} (label : OutcomeLabel) (msg : String) :
    CountsOne counters (counters.outcomeInc label, Rust.bail msg) :=
  ⟨label, rfl, fun _ h => by cases h⟩

/-- A completed program returns a value that satisfies `post`. -/
def Completes {α : Type} (x : Boot α) (post : α → Prop) : Prop :=
  ∀ dir a, (x dir).2 = .ok a → post a

/-- A pure value completes with itself. -/
lemma Completes.pure {α : Type} {a : α} {post : α → Prop} (h : post a) :
    Completes (Pure.pure a : Boot α) post := by
  intro dir b hb
  cases hb
  exact h

/-- A fault does not complete. -/
lemma Completes.fault {α : Type} {fault : Fault} {post : α → Prop} :
    Completes (Prog.lift (.error fault) : Boot α) post := by
  intro dir b hb
  cases hb

/-- What the second part completes with. -/
lemma Completes.bind {α β : Type} {x : Boot α} {f : α → Boot β} {post : β → Prop}
    (h : ∀ a, Completes (f a) post) : Completes (x >>= f) post := by
  intro dir b hb
  obtain ⟨a, _, hrest, _⟩ := Prog.bind_ok hb
  exact h a _ b hrest

/-- A call to a known height counts one outcome. -/
lemma bootstrapToHeight_counts (h : Nat) (localHeight : Option Nat) (forced : Bool)
    (counters : Counters) :
    Completes (bootstrapToHeight env cfg h localHeight forced counters) (CountsOne counters) := by
  rw [bootstrapToHeight]
  split
  · exact .pure (.ok (.alreadyAtHeight h))
  split
  · split
    · exact .pure (.bail _ _)
    · exact .pure (.ok (.fellThrough _))
  refine .bind fun result => ?_
  cases result with
  | ok bytes => exact .pure (.ok (.bootstrappedTo h))
  | error fault =>
    cases fault with
    | err e =>
      cases forced with
      | true => exact .pure (.bail _ _)
      | false => exact .pure (.ok (.fellThrough _))
    | panic msg => exact .fault
    | diverge => exact .fault

/-- Every configuration has a source. -/
lemma resolveSource_ok (explicitPirConfigUrl : Option String) (votingConfigUrl : String) :
    ∃ source, resolveSource explicitPirConfigUrl votingConfigUrl = .ok source := by
  cases explicitPirConfigUrl with
  | none => exact ⟨_, rfl⟩
  | some url =>
    rw [resolveSource]
    split
    · exact ⟨_, rfl⟩
    · exact ⟨_, rfl⟩

/-- And so does a configured call. -/
lemma runConfigured_counts (localHeight : Option Nat) (counters : Counters) :
    Completes (runConfigured env cfg localHeight counters) (CountsOne counters) := by
  obtain ⟨source, hsource⟩ := resolveSource_ok cfg.pirConfigUrl cfg.votingConfigUrl
  rw [runConfigured.eq_def, hsource]
  dsimp only
  split
  · exact .pure (.ok .disabled)
  cases hheight : resolveExpectedHeight env cfg source with
  | ok height =>
    cases height with
    | some h => exact bootstrapToHeight_counts h localHeight false counters
    | none =>
      cases localHeight with
      | some h => exact .pure (.ok (.usingLocalSnapshot h))
      | none => exact .pure (.bail _ _)
  | error fault =>
    cases fault with
    | err e => exact .pure (.bail _ _)
    | panic msg => exact .fault
    | diverge => exact .fault

/-- A forced height is accepted iff `validate_export_height` accepts it. -/
lemma validateExportHeight_eq_ok {h : Nat} {net : ZcashNetwork} :
    validateExportHeight h net = .ok () ↔
      (decide (nu63ActivationHeight net ≤ h) && h % 10 == 0) = true := by
  rw [validateExportHeight, Bool.and_eq_true]
  constructor
  · intro ok
    obtain ⟨_, hlow, hmod⟩ := bind_eq_ok.mp ok
    exact ⟨ensure_eq_ok.mp hlow, ensure_eq_ok.mp hmod⟩
  · intro ok
    exact bind_eq_ok.mpr ⟨(), ensure_pos ok.1, ensure_pos ok.2⟩

/-- What a completed call counts besides the attempt. -/
lemma run_counts (counters : Counters) :
    Completes (run env cfg counters) fun counted =>
      if cfg.forceAccepted then CountsOne counters.attemptsInc counted
      else counted.1 = counters.attemptsInc := by
  rw [run]
  refine .bind fun localHeight => ?_
  cases hforce : cfg.forceSnapshotHeight with
  | none =>
    have haccepted : cfg.forceAccepted = true := by rw [RunConfig.forceAccepted, hforce]; rfl
    rw [haccepted]
    exact runConfigured_counts localHeight counters.attemptsInc
  | some h =>
    have haccepted : cfg.forceAccepted =
        (decide (nu63ActivationHeight cfg.zcashNetwork ≤ h) && h % 10 == 0) := by
      rw [RunConfig.forceAccepted, hforce]
      rfl
    cases hvalid : validateExportHeight h cfg.zcashNetwork with
    | ok u =>
      rw [haccepted, validateExportHeight_eq_ok.mp hvalid]
      dsimp only
      rw [hvalid]
      exact bootstrapToHeight_counts h localHeight true counters.attemptsInc
    | error e =>
      have hrefused : cfg.forceAccepted = false := by
        rw [haccepted, ← Bool.not_eq_true, ← validateExportHeight_eq_ok, hvalid]
        intro h
        cases h
      rw [hrefused]
      dsimp only
      rw [hvalid]
      exact .pure rfl

end Count

/-! ### Sequences of calls -/

section Calls

/-- A call of `run`: what it meets, its configuration and the directory it starts from. -/
structure Call where
  env : RunEnv
  cfg : RunConfig
  dir : BootDir

/-- Result and counters of a call that completes. -/
def Call.finish (call : Call) (counters : Counters) : Option Counted :=
  ((run call.env call.cfg counters) call.dir).2.toOption

/-- The counters after a sequence of calls that all complete. -/
def runAll : List Call → Counters → Option Counters
  | [], counters => some counters
  | call :: calls, counters => (call.finish counters).bind fun counted => runAll calls counted.1

/-- Counting an outcome adds one to their sum. -/
lemma outcomes_outcomeInc (counters : Counters) (label : OutcomeLabel) :
    (counters.outcomeInc label).outcomes = counters.outcomes + 1 := by
  rw [Counters.outcomes, Counters.outcomes, Counters.outcomeInc]
  cases label <;> simp [OutcomeLabel.all, Function.update] <;> omega

/-- One call's share of the two counters. -/
lemma finish_counts {call : Call} {counters : Counters} {counted : Counted}
    (h : call.finish counters = some counted) :
    counted.1.bootstrapAttempts = counters.bootstrapAttempts + 1 ∧
      counted.1.outcomes = counters.outcomes + if call.cfg.forceAccepted then 1 else 0 := by
  have hok : (run call.env call.cfg counters call.dir).2 = .ok counted := by
    rw [Call.finish] at h
    cases hrun : (run call.env call.cfg counters call.dir).2 with
    | ok counted' =>
      rw [hrun] at h
      cases h
      rfl
    | error fault =>
      rw [hrun] at h
      cases h
  have hcounts := run_counts counters call.dir counted hok
  cases haccepted : call.cfg.forceAccepted with
  | true =>
    rw [haccepted, if_pos rfl] at hcounts
    obtain ⟨label, hlabel, _⟩ := hcounts
    rw [hlabel, outcomes_outcomeInc]
    exact ⟨rfl, rfl⟩
  | false =>
    rw [haccepted] at hcounts
    rw [hcounts]
    exact ⟨rfl, rfl⟩

/-- The attempts of a sequence of calls, and its outcomes: one for each accepted call. -/
lemma runAll_counts {calls : List Call} {counters counters' : Counters}
    (h : runAll calls counters = some counters') :
    counters'.bootstrapAttempts = counters.bootstrapAttempts + calls.length ∧
      counters'.outcomes = counters.outcomes + calls.countP fun call => call.cfg.forceAccepted := by
  induction calls generalizing counters with
  | nil =>
    cases h
    exact ⟨rfl, rfl⟩
  | cons call calls ih =>
    obtain ⟨counted, hcall, hrest⟩ := Option.bind_eq_some_iff.mp h
    obtain ⟨hattempts, houtcomes⟩ := finish_counts hcall
    obtain ⟨hattempts', houtcomes'⟩ := ih hrest
    rw [hattempts', houtcomes', hattempts, houtcomes, List.countP_cons, List.length_cons]
    omega

/-- A call counts one outcome, the returned one, iff its forced height is not refused; so the
outcomes of a sequence of calls are its attempts iff no forced height in it is refused. -/
theorem bootstrap_counts_once_iff {env : RunEnv} {cfg : RunConfig} {dir : BootDir}
    {counters : Counters} {counted : Counted} (hok : (run env cfg counters dir).2 = .ok counted)
    {calls : List Call} {total : Counters} (hrun : runAll calls {} = some total) :
    (CountsOne counters.attemptsInc counted ↔ cfg.forceAccepted = true) ∧
    (total.outcomes = total.bootstrapAttempts ↔ ∀ call ∈ calls, call.cfg.forceAccepted = true) := by
  constructor
  · have hcounts := run_counts counters dir counted hok
    cases haccepted : cfg.forceAccepted with
    | true =>
      rw [haccepted, if_pos rfl] at hcounts
      exact ⟨fun _ => rfl, fun _ => hcounts⟩
    | false =>
      rw [haccepted] at hcounts
      refine ⟨fun hone => ?_, fun h => by cases h⟩
      obtain ⟨label, hlabel, _⟩ := hone
      have houtcomes := outcomes_outcomeInc counters.attemptsInc label
      rw [← hlabel, hcounts] at houtcomes
      exact absurd houtcomes (Nat.ne_of_lt (Nat.lt_succ_self _))
  · obtain ⟨hattempts, houtcomes⟩ := runAll_counts hrun
    have hzero : (({} : Counters)).outcomes = 0 := rfl
    rw [hattempts, houtcomes, hzero, Nat.zero_add, Nat.zero_add]
    exact List.countP_eq_length

/-- A host without network, and a directory without a snapshot. -/
def offline : RunEnv where
  send _ := .error "offline"
  io _ := .ok ()
  free := 0
  free_lt := by decide
  sha256 _ := []
  decodeManifest _ := .error "no manifest"
  decodeMetadata _ := .error "no metadata"
  servers :=
    { buildClient := .ok ()
      send := fun _ _ => .error "offline"
      decodePirConfig := fun _ => .error "no config"
      decodeServiceDiscovery := fun _ => .error "no config"
      decodeActiveRound := fun _ => .error "no round" }

/-- A call with the bootstrap disabled, but for a forced height. -/
def offlineCall (forceSnapshotHeight : Option Nat) : Call where
  env := offline
  cfg :=
    { zcashNetwork := .main
      precomputedBaseUrl := ""
      pirConfigUrl := some ""
      votingConfigUrl := ""
      forceSnapshotHeight := forceSnapshotHeight }
  dir := fun _ => none

/-- A call that asks the PIR config for a height, but for a forced one. -/
def configuredCall (forceSnapshotHeight : Option Nat) : Call where
  env := offline
  cfg :=
    { zcashNetwork := .main
      precomputedBaseUrl := "https://cdn"
      pirConfigUrl := some "https://config"
      votingConfigUrl := ""
      forceSnapshotHeight := forceSnapshotHeight }
  dir := fun _ => none

/-- A disabled call, an accepted forced height whose download fails, and a failing PIR config. -/
theorem bootstrap_counts_once_offline :
    ∃ forced counters,
      (run offline (configuredCall (some 3428150)).cfg {} fun _ => none).2 = .ok forced ∧
      CountsOne (Counters.attemptsInc {}) forced ∧ forced.2.isOk = false ∧
      runAll [offlineCall none, configuredCall (some 3428150), configuredCall none] {} =
        some counters ∧
      counters.bootstrapAttempts = 3 ∧ counters.outcomes = counters.bootstrapAttempts := by
  obtain ⟨forced, hforced, hfails⟩ : ∃ forced,
      (run offline (configuredCall (some 3428150)).cfg {} fun _ => none).2 = .ok forced ∧
        forced.2.isOk = false := ⟨_, rfl, rfl⟩
  obtain ⟨total, htotal, hattempts⟩ : ∃ total,
      runAll [offlineCall none, configuredCall (some 3428150), configuredCall none] {} = some total ∧
        total.bootstrapAttempts = 3 := ⟨_, rfl, rfl⟩
  obtain ⟨hone, hall⟩ := bootstrap_counts_once_iff hforced htotal
  refine ⟨forced, total, hforced, hone.mpr rfl, hfails, htotal, hattempts, hall.mpr ?_⟩
  intro call hcall
  simp only [List.mem_cons, List.not_mem_nil, or_false] at hcall
  obtain rfl | rfl | rfl := hcall
  · rfl
  · rfl
  · rfl

/-- A refused forced height is an attempt without an outcome. -/
theorem bootstrap_forced_height_uncounted :
    ∃ counters, runAll [offlineCall (some 1)] {} = some counters ∧
      counters.bootstrapAttempts = 1 ∧ counters.outcomes = 0 :=
  ⟨_, rfl, rfl, rfl⟩

end Calls

end NullifierPir.NfServer
