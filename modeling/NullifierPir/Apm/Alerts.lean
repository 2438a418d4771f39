import Mathlib

/-!
# Alert engine

Port of `deploy/pir-apm/src/alerts.rs` with the thresholds of `thresholds.rs`. Instants are counted
in nanoseconds and a difference of instants saturates at zero. A `BTreeMap` is a `Std.TreeMap`: both
visit their keys in order. Numbers of type `f64` are a parameter with the comparisons, the product
and the decimal formatting that the checks use.

`transition_active` and `transition_emitted` say what one check's turn does to every check. The table
of conditions has the same keys at every call (`mem_conditions`), so that each call gives each check
one turn, and `Tracks` is the invariant of a whole run of calls (`run_tracks`).
-/

namespace NullifierPir.Apm

/-- The floating point numbers the checks compare and print (Rust `f64`). -/
class F64 (F : Type) extends OfScientific F, Mul F where
  lt : F → F → Bool
  le : F → F → Bool
  eq : F → F → Bool
  /-- Decimal text with the given number of digits after the point (Rust `{:.n}`). -/
  format : Nat → F → String

variable {F : Type}

/-! ### Thresholds -/

section Thresholds

variable [F64 F]

def SCRAPE_FAILURE_TICKS : Nat := 2
def READY_FAILURE_SECONDS : Nat := 5 * 60
def HTTP_5XX_RATIO : F := 0.05
def HTTP_5XX_MIN_REQUESTS : F := 10.0
def TIER1_PROCESSING_P99_SECONDS : F := 2.0
def TIER0_P99_SECONDS : F := 1.0
def PARAMS_P99_SECONDS : F := 0.5
def LATENCY_MIN_REQUESTS : F := 20.0
def DISK_USED_RATIO : F := 0.90
def MEMORY_AVAILABLE_BYTES : Nat := 512 * 1024 * 1024

end Thresholds

/-- Nanoseconds in a second. -/
def NANOS_PER_SEC : Nat := 1000000000

/-! ### Inputs -/

/-- Latency of the last five minutes (Rust `LatencyWindow`). -/
structure LatencyWindow (F : Type) where
  samples : F
  p99 : Option F

/-- Traffic of the last five minutes on one endpoint (Rust `EndpointWindow`). -/
structure EndpointWindow (F : Type) where
  requests : F
  errorRatio : F
  observed : LatencyWindow F
  processing : LatencyWindow F

/-- Window of an endpoint without traffic (Rust `EndpointWindow::default`). -/
def EndpointWindow.default [F64 F] : EndpointWindow F := ⟨0.0, 0.0, ⟨0.0, none⟩, ⟨0.0, none⟩⟩

/-- The watched endpoints. -/
inductive Endpoint where
  | tier0
  | paramsTier1
  | tier1Query
  deriving DecidableEq

def Endpoint.name : Endpoint → String
  | .tier0 => "tier0"
  | .paramsTier1 => "params_tier1"
  | .tier1Query => "tier1_query"

def ENDPOINTS : List Endpoint := [.tier0, .paramsTier1, .tier1Query]

/-- Latency that pages for an endpoint (Rust `alert_latency`). -/
def EndpointWindow.alertLatency (window : EndpointWindow F) (endpoint : Endpoint) :
    LatencyWindow F :=
  if endpoint = .tier1Query then window.processing else window.observed

/-- Host measurements (Rust `HostHealth`). -/
structure HostHealth (F : Type) where
  availableMemoryBytes : Nat
  diskUsedRatio : F

/-- One call's input (Rust `AlertInput`), with what the system clock reads when the alert of a check
is built and when a message about it is recorded. -/
structure AlertInput (F : Type) where
  now : Nat
  scrapeOk : Bool
  readyOk : Bool
  endpoints : Std.TreeMap String (EndpointWindow F)
  host : HostHealth F
  firedAt : String → Nat
  recordedAt : String → Nat

/-! ### Engine -/

structure Alert where
  check : String
  observed : String
  threshold : String
  firedAt : Nat

inductive AlertTransition where
  | fired (alert : Alert)
  | recovered (alert : Alert)

/-- The alert a transition carries. -/
def AlertTransition.alert : AlertTransition → Alert
  | .fired alert => alert
  | .recovered alert => alert

/-- State carried across calls (Rust `AlertEngine`). -/
structure AlertEngine where
  active : Std.TreeMap String Alert := ∅
  recent : List (Nat × String) := []
  scrapeFailures : Nat := 0
  readyFailedSince : Option Nat := none

/-- One entry of the table of conditions. -/
structure Condition where
  firing : Bool
  observed : String
  threshold : String

/-- The counter and the timer of a call. -/
def AlertEngine.count (engine : AlertEngine) (input : AlertInput F) : AlertEngine :=
  { engine with
    scrapeFailures :=
      if input.scrapeOk then 0 else min (engine.scrapeFailures + 1) (2 ^ 32 - 1)
    readyFailedSince :=
      if input.readyOk then none else some (engine.readyFailedSince.getD input.now) }

section Conditions

variable [F64 F]

def scrapeCondition (engine : AlertEngine) : Condition where
  firing := decide (SCRAPE_FAILURE_TICKS ≤ engine.scrapeFailures)
  observed := toString engine.scrapeFailures ++ " consecutive failed ticks"
  threshold := toString SCRAPE_FAILURE_TICKS ++ " ticks"

/-- Nanoseconds the server has not been ready for. -/
def readyFailedFor (engine : AlertEngine) (input : AlertInput F) : Nat :=
  (engine.readyFailedSince.map fun since => input.now - since).getD 0

def readyCondition (engine : AlertEngine) (input : AlertInput F) : Condition where
  firing := !input.readyOk &&
    decide (READY_FAILURE_SECONDS * NANOS_PER_SEC ≤ readyFailedFor engine input)
  observed := "non-200 for " ++ toString (readyFailedFor engine input / NANOS_PER_SEC) ++ "s"
  threshold := toString READY_FAILURE_SECONDS ++ "s"

def errorCondition (window : EndpointWindow F) : Condition where
  firing := F64.le HTTP_5XX_MIN_REQUESTS window.requests &&
    F64.lt HTTP_5XX_RATIO window.errorRatio
  observed := F64.format 1 (window.errorRatio * 100.0) ++ "% over " ++
    F64.format 0 window.requests ++ " requests"
  threshold := "> " ++ F64.format 0 (( HTTP_5XX_RATIO : F) * 100.0) ++ "% over 5m, min " ++
    F64.format 0 (HTTP_5XX_MIN_REQUESTS : F)

/-- Check name, label and threshold of an endpoint's latency. -/
def latencyCheck : Endpoint → String × String × F
  | .tier0 => ("tier0_high_latency", "p99", TIER0_P99_SECONDS)
  | .paramsTier1 => ("params_tier1_high_latency", "p99", PARAMS_P99_SECONDS)
  | .tier1Query => ("tier1_query_high_latency", "processing p99", TIER1_PROCESSING_P99_SECONDS)

def metricMissingCondition (window : EndpointWindow F) : Condition where
  firing := F64.le LATENCY_MIN_REQUESTS window.observed.samples &&
    F64.eq window.processing.samples 0.0
  observed := F64.format 0 window.observed.samples ++ " requests served, no processing samples"
  threshold := "processing samples == 0 over 5m, min " ++
    F64.format 0 (LATENCY_MIN_REQUESTS : F) ++ " requests"

def latencyCondition (latency : LatencyWindow F) (label : String) (threshold : F) : Condition where
  firing := F64.le LATENCY_MIN_REQUESTS latency.samples &&
    latency.p99.any fun p99 => F64.lt threshold p99
  observed := latency.p99.elim (label ++ " unavailable") fun p99 =>
    label ++ " " ++ F64.format 3 p99 ++ "s over " ++ F64.format 0 latency.samples ++ " samples"
  threshold := label ++ " > " ++ F64.format 3 threshold ++ "s over 5m, min " ++
    F64.format 0 (LATENCY_MIN_REQUESTS : F)

/-- The conditions of one endpoint. -/
def insertEndpoint (input : AlertInput F) (conditions : Std.TreeMap String Condition)
    (endpoint : Endpoint) : Std.TreeMap String Condition :=
  let window := input.endpoints[endpoint.name]?.getD .default
  let conditions := conditions.insert (endpoint.name ++ "_5xx") (errorCondition window)
  let (check, label, threshold) := latencyCheck endpoint
  -- the paging metric of tier 1 is the processing histogram, whose absence is reported
  let conditions :=
    if endpoint = .tier1Query then
      conditions.insert "tier1_query_processing_metric_missing" (metricMissingCondition window)
    else conditions
  conditions.insert check (latencyCondition (window.alertLatency endpoint) label threshold)

def diskCondition (host : HostHealth F) : Condition where
  firing := F64.lt DISK_USED_RATIO host.diskUsedRatio
  observed := F64.format 1 (host.diskUsedRatio * 100.0) ++ "% used"
  threshold := "> " ++ F64.format 0 (( DISK_USED_RATIO : F) * 100.0) ++ "%"

def memoryCondition (host : HostHealth F) : Condition where
  firing := decide (host.availableMemoryBytes < MEMORY_AVAILABLE_BYTES)
  observed := toString (host.availableMemoryBytes / 1024 / 1024) ++ " MiB available"
  threshold := "< " ++ toString (MEMORY_AVAILABLE_BYTES / 1024 / 1024) ++ " MiB"

/-- The table of conditions of a call, for an engine that has counted it. -/
def conditions (engine : AlertEngine) (input : AlertInput F) : Std.TreeMap String Condition :=
  let base := ((∅ : Std.TreeMap String Condition).insert "scrape_failure"
    (scrapeCondition engine)).insert "ready" (readyCondition engine input)
  ((ENDPOINTS.foldl (insertEndpoint input) base).insert "disk_usage"
    (diskCondition input.host)).insert "memory_available" (memoryCondition input.host)

end Conditions

/-- Keep the last twenty messages (Rust `record`). -/
def AlertEngine.record (engine : AlertEngine) (time : Nat) (message : String) : AlertEngine :=
  { engine with recent := ((time, message) :: engine.recent).take 20 }

/-- One check's turn in the loop of `evaluate`. -/
def transition (input : AlertInput F) (state : AlertEngine × List AlertTransition)
    (entry : String × Condition) : AlertEngine × List AlertTransition :=
  let (check, condition) := entry
  match condition.firing, state.1.active[check]? with
  | true, none =>
    let alert : Alert := ⟨check, condition.observed, condition.threshold, input.firedAt check⟩
    ({ state.1 with active := state.1.active.insert check alert }.record (input.recordedAt check)
      ("FIRED " ++ alert.check ++ ": " ++ alert.observed), state.2 ++ [.fired alert])
  | false, some alert =>
    ({ state.1 with active := state.1.active.erase check }.record (input.recordedAt check)
      ("RECOVERED " ++ alert.check), state.2 ++ [.recovered alert])
  | _, _ => state

/-- Classify an input, update the state and report what changed (Rust `evaluate`). -/
def AlertEngine.evaluate [F64 F] (engine : AlertEngine) (input : AlertInput F) :
    AlertEngine × List AlertTransition :=
  let counted := engine.count input
  (conditions counted input).toList.foldl (transition input) (counted, [])

/-- The active alerts (Rust `active`). -/
def AlertEngine.activeAlerts (engine : AlertEngine) : List Alert :=
  engine.active.toList.map Prod.snd

/-! ### One turn -/

section Turn

variable {input : AlertInput F} {state : AlertEngine × List AlertTransition} {check c : String}
  {condition : Condition}

/-- What a check's turn does. -/
lemma transition_cases (input : AlertInput F) (state : AlertEngine × List AlertTransition)
    (check : String) (condition : Condition) :
    (∃ alert : Alert, alert.check = check ∧ condition.firing = true ∧
      state.1.active[check]? = none ∧
      (transition input state (check, condition)).1.active = state.1.active.insert check alert ∧
      (transition input state (check, condition)).2 = state.2 ++ [.fired alert]) ∨
    (∃ alert, condition.firing = false ∧ state.1.active[check]? = some alert ∧
      (transition input state (check, condition)).1.active = state.1.active.erase check ∧
      (transition input state (check, condition)).2 = state.2 ++ [.recovered alert]) ∨
    (state.1.active[check]?.isSome = condition.firing ∧
      transition input state (check, condition) = state) := by
  rw [transition]
  cases hfiring : condition.firing with
  | true =>
    cases hactive : state.1.active[check]? with
    | none => exact .inl ⟨⟨check, _, _, _⟩, rfl, rfl, rfl, rfl, rfl⟩
    | some alert => exact .inr (.inr ⟨rfl, rfl⟩)
  | false =>
    cases hactive : state.1.active[check]? with
    | none => exact .inr (.inr ⟨rfl, rfl⟩)
    | some alert => exact .inr (.inl ⟨alert, rfl, rfl, rfl, rfl⟩)

/-- A check's turn leaves the other checks' alerts. -/
lemma transition_active_ne (h : check ≠ c) :
    (transition input state (check, condition)).1.active[c]? = state.1.active[c]? := by
  have hcmp : ¬ compare check c = .eq := fun heq => h (Std.LawfulEqOrd.eq_of_compare heq)
  rcases transition_cases input state check condition with
    ⟨alert, _, _, _, hactive, _⟩ | ⟨alert, _, _, hactive, _⟩ | ⟨_, hsame⟩
  · rw [hactive, Std.TreeMap.getElem?_insert, if_neg hcmp]
  · rw [hactive, Std.TreeMap.getElem?_erase, if_neg hcmp]
  · rw [hsame]

/-- After its turn a check is active iff its condition fires. -/
lemma transition_active_self :
    (transition input state (check, condition)).1.active[check]?.isSome = condition.firing := by
  rcases transition_cases input state check condition with
    ⟨alert, _, hfiring, _, hactive, _⟩ | ⟨alert, hfiring, _, hactive, _⟩ | ⟨hlevel, hsame⟩
  · rw [hactive, Std.TreeMap.getElem?_insert_self, hfiring]
    rfl
  · rw [hactive, Std.TreeMap.getElem?_erase_self, hfiring]
    rfl
  · rw [hsame, hlevel]

/-- A transition leaves the counters alone. -/
lemma transition_counters :
    (transition input state (check, condition)).1.scrapeFailures = state.1.scrapeFailures ∧
      (transition input state (check, condition)).1.readyFailedSince =
        state.1.readyFailedSince := by
  rw [transition]
  cases condition.firing with
  | true => cases state.1.active[check]? <;> exact ⟨rfl, rfl⟩
  | false => cases state.1.active[check]? <;> exact ⟨rfl, rfl⟩

end Turn

/-! ### Episodes -/

/-- Transitions that alternate `fired`, `recovered`, starting with `fired`, where each `recovered`
carries the alert of the `fired` before it, and the alert that is still open. -/
inductive Episodes : List AlertTransition → Option Alert → Prop where
  | nil : Episodes [] none
  | fired {l} (alert : Alert) : Episodes l none → Episodes (l ++ [.fired alert]) (some alert)
  | recovered {l alert} : Episodes l (some alert) → Episodes (l ++ [.recovered alert]) none

/-- The open alert is the one of the last transition, when that is a `fired`. -/
lemma Episodes.last {l alert} {current : Option Alert} (episodes : Episodes l current) :
    l.getLast? = some (.fired alert) ↔ current = some alert := by
  cases episodes with
  | nil => simp
  | fired alert' _ => simp [eq_comm]
  | recovered _ => simp

/-- The transitions of one check. -/
def trace (c : String) (emitted : List AlertTransition) : List AlertTransition :=
  emitted.filter fun transition => decide (transition.alert.check = c)

/-- The trace of a check splits with the history. -/
lemma trace_append (c : String) (l l' : List AlertTransition) :
    trace c (l ++ l') = trace c l ++ trace c l' := List.filter_append ..

/-- A transition of the check is in its trace. -/
lemma trace_self {c : String} {t : AlertTransition} (h : t.alert.check = c) : trace c [t] = [t] := by
  simp [trace, h]

/-- A transition of another check is not. -/
lemma trace_ne {c : String} {t : AlertTransition} (h : t.alert.check ≠ c) : trace c [t] = [] := by
  simp [trace, h]

/-- The active alerts are the open episodes of the transitions so far. -/
structure Consistent (state : AlertEngine × List AlertTransition) : Prop where
  keyed : ∀ c (alert : Alert), state.1.active[c]? = some alert → alert.check = c
  episodes : ∀ c, Episodes (trace c state.2) state.1.active[c]?

/-- A turn keeps the other checks' transitions. -/
lemma trace_transition_ne {input : AlertInput F} {state : AlertEngine × List AlertTransition}
    {check c : String} {condition : Condition} (consistent : Consistent state) (h : check ≠ c) :
    trace c (transition input state (check, condition)).2 = trace c state.2 := by
  rcases transition_cases input state check condition with
    ⟨alert, hcheck, _, _, _, hemitted⟩ | ⟨alert, _, hopen, _, hemitted⟩ | ⟨_, hsame⟩
  · have hne : (AlertTransition.fired alert).alert.check ≠ c := fun heq => h (hcheck.symm.trans heq)
    rw [hemitted, trace_append, trace_ne hne, List.append_nil]
  · have hcheck := consistent.keyed check alert hopen
    have hne : (AlertTransition.recovered alert).alert.check ≠ c :=
      fun heq => h (hcheck.symm.trans heq)
    rw [hemitted, trace_append, trace_ne hne, List.append_nil]
  · rw [hsame]

/-- Each transition keeps the engine and the history consistent. -/
lemma transition_consistent {input : AlertInput F} {state : AlertEngine × List AlertTransition}
    (entry : String × Condition) (consistent : Consistent state) :
    Consistent (transition input state entry) := by
  obtain ⟨check, condition⟩ := entry
  constructor
  case keyed =>
    intro c alert hactive
    by_cases hc : check = c
    · subst hc
      rcases transition_cases input state check condition with
        ⟨alert', hcheck, _, _, hafter, _⟩ | ⟨alert', _, _, hafter, _⟩ | ⟨_, hsame⟩
      · rw [hafter, Std.TreeMap.getElem?_insert_self] at hactive
        cases hactive
        exact hcheck
      · rw [hafter, Std.TreeMap.getElem?_erase_self] at hactive
        cases hactive
      · rw [hsame] at hactive
        exact consistent.keyed check alert hactive
    · rw [transition_active_ne hc] at hactive
      exact consistent.keyed c alert hactive
  case episodes =>
    intro c
    by_cases hc : check = c
    · subst hc
      have hepisodes := consistent.episodes check
      rcases transition_cases input state check condition with
        ⟨alert, hcheck, _, hopen, hafter, hemitted⟩ | ⟨alert, _, hopen, hafter, hemitted⟩ |
        ⟨_, hsame⟩
      · rw [hafter, hemitted, Std.TreeMap.getElem?_insert_self, trace_append,
          trace_self (t := .fired alert) hcheck]
        rw [hopen] at hepisodes
        exact .fired alert hepisodes
      · rw [hafter, hemitted, Std.TreeMap.getElem?_erase_self, trace_append,
          trace_self (t := .recovered alert) (consistent.keyed check alert hopen)]
        rw [hopen] at hepisodes
        exact .recovered hepisodes
      · rw [hsame]
        exact hepisodes
    · rw [transition_active_ne hc, trace_transition_ne consistent hc]
      exact consistent.episodes c

/-! ### One call -/

section Loop

variable {input : AlertInput F} {state : AlertEngine × List AlertTransition}

/-- So does the whole loop over the conditions. -/
lemma loop_consistent (entries : List (String × Condition)) (consistent : Consistent state) :
    Consistent (entries.foldl (transition input) state) := by
  induction entries generalizing state with
  | nil => exact consistent
  | cons entry entries ih => exact ih (transition_consistent entry consistent)

/-- And it leaves the counters alone. -/
lemma loop_counters (entries : List (String × Condition)) :
    (entries.foldl (transition input) state).1.scrapeFailures = state.1.scrapeFailures ∧
      (entries.foldl (transition input) state).1.readyFailedSince = state.1.readyFailedSince := by
  induction entries generalizing state with
  | nil => exact ⟨rfl, rfl⟩
  | cons entry entries ih =>
    obtain ⟨hscrape, hready⟩ := @transition_counters F input state entry.1 entry.2
    exact ⟨ih.1.trans hscrape, ih.2.trans hready⟩

/-- A check without a turn keeps its alert. -/
lemma loop_active_absent {c} {entries : List (String × Condition)}
    (h : ∀ entry ∈ entries, entry.1 ≠ c) :
    (entries.foldl (transition input) state).1.active[c]? = state.1.active[c]? := by
  induction entries generalizing state with
  | nil => rfl
  | cons entry entries ih =>
    have hrest := @ih (transition input state entry)
      fun entry' hentry => h entry' (List.mem_cons_of_mem _ hentry)
    exact hrest.trans (transition_active_ne (h entry List.mem_cons_self))

/-- A check with one turn is active iff its condition fires. -/
lemma loop_active_mem {c condition} {entries : List (String × Condition)}
    (hdistinct : entries.Pairwise fun a b => a.1 ≠ b.1) (hmem : (c, condition) ∈ entries) :
    (entries.foldl (transition input) state).1.active[c]?.isSome = condition.firing := by
  induction entries generalizing state with
  | nil => cases hmem
  | cons entry entries ih =>
    obtain ⟨hhead, htail⟩ := List.pairwise_cons.mp hdistinct
    cases hmem with
    | head =>
      rw [List.foldl_cons, loop_active_absent fun entry' hentry => (hhead entry' hentry).symm]
      exact transition_active_self
    | tail _ hmem => exact ih htail hmem

/-- What the loop emits does not depend on what was emitted before. -/
lemma loop_emitted (before : List AlertTransition) (entries : List (String × Condition)) :
    entries.foldl (transition input) (state.1, before ++ state.2) =
      ((entries.foldl (transition input) state).1,
        before ++ (entries.foldl (transition input) state).2) := by
  induction entries generalizing state with
  | nil => rfl
  | cons entry entries ih =>
    have hstep : transition input (state.1, before ++ state.2) entry =
        ((transition input state entry).1, before ++ (transition input state entry).2) := by
      rw [transition, transition]
      cases entry.2.firing with
      | true => cases state.1.active[entry.1]? <;> simp
      | false => cases state.1.active[entry.1]? <;> simp
    rw [List.foldl_cons, List.foldl_cons, hstep]
    exact ih

end Loop

/-! ### Histories -/

section History

variable [F64 F]

/-- The checks of a call. -/
def checks : List String :=
  ["scrape_failure", "ready", "tier0_5xx", "tier0_high_latency", "params_tier1_5xx",
    "params_tier1_high_latency", "tier1_query_5xx", "tier1_query_processing_metric_missing",
    "tier1_query_high_latency", "disk_usage", "memory_available"]

/-- Every call has a condition for every check. -/
lemma mem_conditions (engine : AlertEngine) (input : AlertInput F) (c : String) :
    c ∈ conditions engine input ↔ c ∈ checks := by
  simp only [conditions, ENDPOINTS, List.foldl_cons, List.foldl_nil, insertEndpoint, latencyCheck,
    Endpoint.name, reduceCtorEq, if_false, if_true]
  simp only [String.reduceAppend]
  simp only [Std.TreeMap.mem_insert, Std.LawfulEqOrd.compare_eq_iff_eq, Std.TreeMap.not_mem_emptyc,
    or_false, checks, List.mem_cons, List.not_mem_nil, @eq_comm _ _ c]
  tauto

/-- The table reads the counter and the timer of the engine only. -/
lemma conditions_congr {engine engine' : AlertEngine} (input : AlertInput F)
    (hscrape : engine'.scrapeFailures = engine.scrapeFailures)
    (hready : engine'.readyFailedSince = engine.readyFailedSince) :
    conditions engine' input = conditions engine input := by
  have hscrape' : scrapeCondition engine' = scrapeCondition engine := by
    rw [scrapeCondition, scrapeCondition, hscrape]
  have hready' : readyCondition engine' input = readyCondition engine input := by
    rw [readyCondition, readyCondition, readyFailedFor, readyFailedFor, hready]
  rw [conditions, conditions, hscrape', hready']

/-- The condition under `scrape_failure`. -/
lemma conditions_scrape (engine : AlertEngine) (input : AlertInput F) :
    (conditions engine input)["scrape_failure"]? = some (scrapeCondition engine) := by
  simp only [conditions, ENDPOINTS, List.foldl_cons, List.foldl_nil, insertEndpoint, latencyCheck,
    Endpoint.name, reduceCtorEq, if_false, if_true]
  simp only [String.reduceAppend]
  simp only [Std.TreeMap.getElem?_insert]
  simp only [Std.LawfulEqOrd.compare_eq_iff_eq]
  simp only [String.reduceEq, if_false, if_true]

/-- The condition under `ready`. -/
lemma conditions_ready (engine : AlertEngine) (input : AlertInput F) :
    (conditions engine input)["ready"]? = some (readyCondition engine input) := by
  simp only [conditions, ENDPOINTS, List.foldl_cons, List.foldl_nil, insertEndpoint, latencyCheck,
    Endpoint.name, reduceCtorEq, if_false, if_true]
  simp only [String.reduceAppend]
  simp only [Std.TreeMap.getElem?_insert]
  simp only [Std.LawfulEqOrd.compare_eq_iff_eq]
  simp only [String.reduceEq, if_false, if_true]

/-- The engine after a history of calls from the default engine, and all it has emitted. -/
def run (history : List (AlertInput F)) : AlertEngine × List AlertTransition :=
  history.foldl (fun state input =>
    ((state.1.evaluate input).1, state.2 ++ (state.1.evaluate input).2)) ({}, [])

/-- The condition of a check fires at a call. -/
def Fires (engine : AlertEngine) (input : AlertInput F) (c : String) : Prop :=
  ∃ condition, (conditions engine input)[c]? = some condition ∧ condition.firing = true

/-- The run of inputs up to now on which the scrape failed. -/
def failedScrapes (history : List (AlertInput F)) : List (AlertInput F) :=
  history.rtakeWhile fun input => !input.scrapeOk

/-- The run of inputs up to now on which the server was not ready. -/
def failedReady (history : List (AlertInput F)) : List (AlertInput F) :=
  history.rtakeWhile fun input => !input.readyOk

/-- What the engine holds after a history. -/
structure Tracks (history : List (AlertInput F)) (state : AlertEngine × List AlertTransition) :
    Prop extends Consistent state where
  known : ∀ c, state.1.active[c]?.isSome = true → c ∈ checks
  scrape : state.1.scrapeFailures = min (failedScrapes history).length (2 ^ 32 - 1)
  ready : state.1.readyFailedSince = (failedReady history).head?.map AlertInput.now

/-- An evaluation steps the counters as `count` does. -/
lemma evaluate_counters (engine : AlertEngine) (input : AlertInput F) :
    (engine.evaluate input).1.scrapeFailures = (engine.count input).scrapeFailures ∧
      (engine.evaluate input).1.readyFailedSince = (engine.count input).readyFailedSince := by
  rw [AlertEngine.evaluate]
  exact loop_counters _

/-- After a call a check is active iff its condition fires. -/
lemma evaluate_active {engine : AlertEngine} (input : AlertInput F)
    (known : ∀ c, engine.active[c]?.isSome = true → c ∈ checks) (c : String) :
    (engine.evaluate input).1.active[c]?.isSome = true ↔ Fires (engine.evaluate input).1 input c := by
  have hdistinct : (conditions (engine.count input) input).toList.Pairwise
      fun a b => a.1 ≠ b.1 := by
    refine Std.TreeMap.distinct_keys_toList.imp fun hne heq => hne ?_
    exact Std.LawfulEqOrd.compare_eq_iff_eq.mpr heq
  obtain ⟨hscrape, hready⟩ := evaluate_counters engine input
  rw [Fires, conditions_congr input hscrape hready]
  cases hc : (conditions (engine.count input) input)[c]? with
  | some condition =>
    have hmem := Std.TreeMap.mem_toList_iff_getElem?_eq_some.mpr hc
    rw [AlertEngine.evaluate, loop_active_mem hdistinct hmem]
    simp
  | none =>
    have habsent : c ∉ checks := by
      rw [← mem_conditions (engine.count input) input, Std.TreeMap.mem_iff_isSome_getElem?, hc]
      exact Bool.false_ne_true
    have hkept : (engine.evaluate input).1.active[c]? = engine.active[c]? := by
      rw [AlertEngine.evaluate]
      refine (loop_active_absent fun entry hentry heq => ?_).trans rfl
      subst heq
      rw [Std.TreeMap.mem_toList_iff_getElem?_eq_some.mp hentry] at hc
      cases hc
    rw [hkept]
    constructor
    · exact fun h => absurd (known c h) habsent
    · intro h
      obtain ⟨_, h, _⟩ := h
      cases h

/-- Only checks of the table become active. -/
lemma evaluate_known {engine : AlertEngine} (input : AlertInput F)
    (known : ∀ c, engine.active[c]?.isSome = true → c ∈ checks) (c : String)
    (h : (engine.evaluate input).1.active[c]?.isSome = true) : c ∈ checks := by
  obtain ⟨condition, hcondition, _⟩ := (evaluate_active input known c).mp h
  rw [← mem_conditions (engine.evaluate input).1 input, Std.TreeMap.mem_iff_isSome_getElem?,
    hcondition]
  rfl

/-- A run ends with the evaluation of its last input. -/
lemma run_concat (history : List (AlertInput F)) (input : AlertInput F) :
    run (history ++ [input]) = (((run history).1.evaluate input).1,
      (run history).2 ++ ((run history).1.evaluate input).2) := by
  rw [run, List.foldl_append]
  rfl

/-- A call extends the transitions of the calls before it. -/
lemma evaluate_consistent {engine : AlertEngine} {emitted} (input : AlertInput F)
    (consistent : Consistent (engine, emitted)) :
    Consistent ((engine.evaluate input).1, emitted ++ (engine.evaluate input).2) := by
  have hcounted : Consistent (engine.count input, emitted ++ []) := by
    rw [List.append_nil]
    exact ⟨consistent.keyed, consistent.episodes⟩
  have hloop := @loop_consistent F input _ (conditions (engine.count input) input).toList hcounted
  rw [@loop_emitted F input (engine.count input, []) emitted] at hloop
  exact hloop

omit [F64 F] in
/-- The counter is the length of the last series of failed scrapes. -/
lemma count_scrape {history : List (AlertInput F)} {engine : AlertEngine} (input : AlertInput F)
    (h : engine.scrapeFailures = min (failedScrapes history).length (2 ^ 32 - 1)) :
    (engine.count input).scrapeFailures =
      min (failedScrapes (history ++ [input])).length (2 ^ 32 - 1) := by
  rw [AlertEngine.count, failedScrapes, List.rtakeWhile_concat]
  cases input.scrapeOk with
  | true => simp
  | false =>
    simp only [Bool.false_eq_true, if_false, Bool.not_false, if_true, List.length_append,
      List.length_singleton, h, failedScrapes]
    omega

omit [F64 F] in
/-- The stored time is that of the first input of the last series of failed readiness checks. -/
lemma count_ready {history : List (AlertInput F)} {engine : AlertEngine} (input : AlertInput F)
    (h : engine.readyFailedSince = (failedReady history).head?.map AlertInput.now) :
    (engine.count input).readyFailedSince =
      (failedReady (history ++ [input])).head?.map AlertInput.now := by
  rw [AlertEngine.count, failedReady, List.rtakeWhile_concat]
  cases input.readyOk with
  | true => simp
  | false =>
    rw [failedReady] at h
    simp only [Bool.false_eq_true, if_false, Bool.not_false, if_true, h, List.head?_append]
    cases (history.rtakeWhile fun input => !input.readyOk).head? <;> rfl

/-- A call keeps the invariant. -/
lemma evaluate_tracks {history : List (AlertInput F)} {state : AlertEngine × List AlertTransition}
    (input : AlertInput F) (tracks : Tracks history state) :
    Tracks (history ++ [input])
      ((state.1.evaluate input).1, state.2 ++ (state.1.evaluate input).2) := by
  obtain ⟨hscrape, hready⟩ := evaluate_counters state.1 input
  constructor
  case toConsistent => exact @evaluate_consistent F _ state.1 state.2 input tracks.toConsistent
  case known =>
    intro c h
    dsimp only at h
    exact evaluate_known input tracks.known c h
  case scrape =>
    rw [hscrape]
    exact count_scrape input tracks.scrape
  case ready =>
    rw [hready]
    exact count_ready input tracks.ready

/-- The invariant of a whole run of calls. -/
lemma run_tracks (history : List (AlertInput F)) : Tracks history (run history) := by
  induction history using List.reverseRecOn with
  | nil =>
    have hactive (c : String) : (run ([] : List (AlertInput F))).1.active[c]? = none := by
      simp [run]
    constructor
    case toConsistent =>
      constructor
      case keyed =>
        intro c alert h
        rw [hactive] at h
        cases h
      case episodes =>
        intro c
        rw [hactive]
        exact .nil
    case known =>
      intro c h
      rw [hactive] at h
      cases h
    case scrape => simp [run, failedScrapes]
    case ready => simp [run, failedReady]
  | append_singleton history input ih =>
    rw [run_concat]
    exact evaluate_tracks input ih

/-- `active` lists the checks with an open alert. -/
lemma mem_activeAlerts {engine : AlertEngine}
    (keyed : ∀ c (alert : Alert), engine.active[c]? = some alert → alert.check = c) (c : String) :
    c ∈ engine.activeAlerts.map Alert.check ↔ engine.active[c]?.isSome = true := by
  rw [Option.isSome_iff_exists]
  constructor
  · intro h
    obtain ⟨alert, halert, rfl⟩ := List.mem_map.mp h
    obtain ⟨⟨key, alert⟩, hentry, rfl⟩ := List.mem_map.mp halert
    have hactive := Std.TreeMap.mem_toList_iff_getElem?_eq_some.mp hentry
    exact ⟨alert, keyed key alert hactive ▸ hactive⟩
  · intro h
    obtain ⟨alert, hactive⟩ := h
    have hentry := Std.TreeMap.mem_toList_iff_getElem?_eq_some.mpr hactive
    exact List.mem_map.mpr ⟨alert, List.mem_map.mpr ⟨_, hentry, rfl⟩, keyed c alert hactive⟩

/-- The scrape check fires iff the last `SCRAPE_FAILURE_TICKS` inputs at least had failed scrapes. -/
lemma fires_scrape {history : List (AlertInput F)} {input : AlertInput F} {state}
    (tracks : Tracks history state) :
    Fires state.1 input "scrape_failure" ↔ SCRAPE_FAILURE_TICKS ≤ (failedScrapes history).length := by
  simp only [Fires, conditions_scrape, scrapeCondition, Option.some.injEq, exists_eq_left',
    decide_eq_true_eq, tracks.scrape, SCRAPE_FAILURE_TICKS]
  omega

/-- The ready check fires iff the run of inputs that were not ready spans the threshold. -/
lemma fires_ready {history : List (AlertInput F)} {input : AlertInput F} {state}
    (tracks : Tracks (history ++ [input]) state) :
    Fires state.1 input "ready" ↔ ∃ first, (failedReady (history ++ [input])).head? = some first ∧
      first.now + READY_FAILURE_SECONDS * NANOS_PER_SEC ≤ input.now := by
  simp only [Fires, conditions_ready, readyCondition, Option.some.injEq, exists_eq_left',
    Bool.and_eq_true, Bool.not_eq_true', decide_eq_true_eq, readyFailedFor, tracks.ready]
  cases hready : input.readyOk with
  | true => simp [failedReady, hready]
  | false =>
    cases hfirst : (failedReady (history ++ [input])).head? with
    | none => simp [READY_FAILURE_SECONDS, NANOS_PER_SEC]
    | some first =>
      simp only [Option.map_some, Option.getD_some, true_and, Option.some.injEq, exists_eq_left',
        READY_FAILURE_SECONDS, NANOS_PER_SEC]
      omega

/-- After a call `active` lists the checks whose conditions fire. -/
lemma run_active (history : List (AlertInput F)) (input : AlertInput F) (c : String) :
    (run (history ++ [input])).1.active[c]?.isSome = true ↔
      Fires (run (history ++ [input])).1 input c := by
  have hengine : (run (history ++ [input])).1 = ((run history).1.evaluate input).1 := by
    rw [run_concat]
  rw [hengine]
  exact evaluate_active input (run_tracks history).known c

/-- The engine's state is the history's, after every call of every history. -/
theorem alerts_track_history (history : List (AlertInput F)) (input : AlertInput F) :
    let engine := (run (history ++ [input])).1
    let emitted := (run (history ++ [input])).2
    (∀ c, Episodes (trace c emitted) engine.active[c]?) ∧
    (∀ c, c ∈ engine.activeAlerts.map Alert.check ↔ Fires engine input c) ∧
    (∀ c, c ∈ engine.activeAlerts.map Alert.check ↔
      ∃ alert, (trace c emitted).getLast? = some (.fired alert)) ∧
    (Fires engine input "scrape_failure" ↔
      SCRAPE_FAILURE_TICKS ≤ (failedScrapes (history ++ [input])).length) ∧
    (Fires engine input "ready" ↔
      ∃ first, (failedReady (history ++ [input])).head? = some first ∧
        first.now + READY_FAILURE_SECONDS * NANOS_PER_SEC ≤ input.now) := by
  have tracks := run_tracks (history ++ [input])
  refine ⟨tracks.episodes, fun c => ?_, fun c => ?_, fires_scrape tracks, fires_ready tracks⟩
  · rw [mem_activeAlerts tracks.keyed]
    exact run_active history input c
  · rw [mem_activeAlerts tracks.keyed, Option.isSome_iff_exists]
    exact exists_congr fun alert => (tracks.episodes c).last.symm

end History

end NullifierPir.Apm
