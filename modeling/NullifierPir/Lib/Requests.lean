import Mathlib

/-!
# Programs that send requests

A program sends requests one after the other and goes on with each answer. Several programs are joined
by letting any of them send its next request, until all of them are done; answers are arbitrary, so
that a statement about every run is about every server and every schedule. A result that stops the
join (an unwinding panic) may end a run at once. When each program sends one request and ends without
stopping the join, a run sends one request for each program (`Runs.of_single`).
-/

namespace Requests

variable {Req Resp α : Type}

/-- A program that sends requests of one type and receives answers of another. -/
inductive Prog (Req Resp α : Type) where
  | done (result : α)
  | ask (req : Req) (next : Resp → Prog Req Resp α)

/-- Go on with the result of a program. -/
def Prog.map {β : Type} (f : α → β) : Prog Req Resp α → Prog Req Resp β
  | .done result => .done (f result)
  | .ask req next => .ask req fun resp => (next resp).map f

/-- Run a program against a server that answers each request by a function. -/
def Prog.run (answer : Req → Resp) : Prog Req Resp α → α × List Req
  | .done result => (result, [])
  | .ask req next =>
    let (result, trace) := (next (answer req)).run answer
    (result, req :: trace)

/-- The requests of joined programs, in the order in which they are sent. -/
inductive Runs (stops : α → Prop) : List (Prog Req Resp α) → List Req → Prop
  | finished {ps : List (Prog Req Resp α)} (h : ∀ p ∈ ps, ∃ result, p = .done result) :
    Runs stops ps []
  | stopped {ps : List (Prog Req Resp α)} {result : α} (mem : .done result ∈ ps)
    (h : stops result) : Runs stops ps []
  | step {ps qs : List (Prog Req Resp α)} {req : Req} {next : Resp → Prog Req Resp α} {resp : Resp}
    {trace : List Req} (rest : Runs stops (ps ++ next resp :: qs) trace) :
    Runs stops (ps ++ .ask req next :: qs) (req :: trace)

/-- Running the programs one after the other is a run of their join. -/
lemma runs_of_run (stops : α → Prop) (answer : Req → Resp) (ds ps : List (Prog Req Resp α))
    (hds : ∀ p ∈ ds, ∃ result, p = .done result) :
    Runs stops (ds ++ ps) (ps.flatMap fun p => (p.run answer).2) := by
  induction ps generalizing ds with
  | nil =>
    rw [List.append_nil]
    exact .finished hds
  | cons p ps ih =>
    rw [List.flatMap_cons]
    induction p with
    | done result =>
      have hrest := ih (ds ++ [.done result]) (by
        intro q hq
        cases List.mem_append.mp hq with
        | inl hq => exact hds q hq
        | inr hq => exact ⟨result, List.mem_singleton.mp hq⟩)
      rw [List.append_assoc] at hrest
      exact hrest
    | ask req next ihnext => exact .step (ihnext (answer req))

/-- A program that is done and does not stop the join. -/
def Settled (stops : α → Prop) (p : Prog Req Resp α) : Prop :=
  ∃ result, p = .done result ∧ ¬ stops result

/-- A program that sends one request and is then done. -/
def Single (stops : α → Prop) (P : Req → Prop) (p : Prog Req Resp α) : Prop :=
  ∃ req next, p = .ask req next ∧ P req ∧ ∀ resp, Settled stops (next resp)

/-- Whether a program has a request to send. -/
def Prog.asks : Prog Req Resp α → Bool
  | .done _ => false
  | .ask _ _ => true

variable {stops : α → Prop} {P : Req → Prop} {ps : List (Prog Req Resp α)} {trace : List Req}

/-- Programs that have at most one request left send exactly those that are left. -/
lemma Runs.of_settled_or_single (run : Runs stops ps trace)
    (h : ∀ p ∈ ps, Settled stops p ∨ Single stops P p) :
    trace.length = ps.countP Prog.asks ∧ ∀ req ∈ trace, P req := by
  induction run with
  | @finished ps hdone =>
    have hnone : ps.countP Prog.asks = 0 := by
      rw [List.countP_eq_zero]
      intro p hp
      obtain ⟨result, rfl⟩ := hdone p hp
      exact Bool.false_ne_true
    exact ⟨hnone.symm, fun req hreq => by cases hreq⟩
  | stopped hmem hstops =>
    -- No result of these programs stops the join.
    cases h _ hmem with
    | inl settled =>
      obtain ⟨result, heq, hnot⟩ := settled
      cases heq
      exact absurd hstops hnot
    | inr single =>
      obtain ⟨req, next, heq, _⟩ := single
      cases heq
  | @step ps qs req next resp trace rest ih =>
    cases h (.ask req next) (List.mem_append_right _ List.mem_cons_self) with
    | inl settled =>
      obtain ⟨result, heq, _⟩ := settled
      cases heq
    | inr single =>
      obtain ⟨req', next', heq, hreq, hnext⟩ := single
      cases heq
      obtain ⟨result, hresult, hnot⟩ := hnext resp
      obtain ⟨hlen, hall⟩ := ih (by
        intro p hp
        cases List.mem_append.mp hp with
        | inl hp => exact h p (List.mem_append_left _ hp)
        | inr hp =>
          cases List.mem_cons.mp hp with
          | inl hp => exact .inl ⟨result, hp.trans hresult, hnot⟩
          | inr hp => exact h p (List.mem_append_right _ (List.mem_cons_of_mem _ hp)))
      have hdone : (next resp).asks = false := by
        rw [hresult]
        rfl
      constructor
      · rw [List.countP_append, List.countP_cons, hdone] at hlen
        rw [List.length_cons, hlen, List.countP_append, List.countP_cons]
        rfl
      · intro other hother
        cases List.mem_cons.mp hother with
        | inl heq => exact heq ▸ hreq
        | inr hmem => exact hall other hmem

/-- A run of programs that send one request each sends one request for each of them. -/
theorem Runs.of_single (run : Runs stops ps trace) (h : ∀ p ∈ ps, Single stops P p) :
    trace.length = ps.length ∧ ∀ req ∈ trace, P req := by
  obtain ⟨hlen, hall⟩ := run.of_settled_or_single fun p hp => .inr (h p hp)
  refine ⟨hlen.trans ?_, hall⟩
  rw [List.countP_eq_length]
  intro p hp
  obtain ⟨req, next, rfl, _⟩ := h p hp
  rfl

end Requests
