import Mathlib.Logic.Relation

/-!
# Procedures that raise or are killed

A procedure runs over a state and a script: what the outside world does at each of its steps. A step
is done, fails before its effect or fails after it, as the script says, and where the script ends the
process is killed. To quantify over scripts is to quantify over every answer from outside, every
failure and every point at which the process can die, and a procedure is still a function that can be
evaluated.

`Triple inv pre x post` is the program logic: from `pre`, a return leaves `post`, and an exception or
a kill leaves `inv`. `Attempts x` is any number of runs of `x`, each ended in any way.
-/

namespace Killable

/-- What the outside world does at one step. -/
inductive Fate (W ε : Type) where
  | ok (w : W)
  | fails (e : ε)
  | failsAfter (e : ε) (w : W)

/-- How a procedure ends. -/
inductive End (ε α : Type) where
  | ret (a : α)
  | raised (e : ε)
  | killed

/-- Has the procedure returned? -/
def End.isRet {ε α : Type} : End ε α → Bool
  | .ret _ => true
  | _ => false

/-- An ending that returns returns the unit. -/
lemma End.eq_ret_of_isRet {ε : Type} {e : End ε Unit} (h : e.isRet = true) : e = .ret () := by
  cases e with
  | ret a => rfl
  | raised e => cases h
  | killed => cases h

/-- The end of a run, the state it leaves and the rest of the script. -/
structure Result (σ W ε α : Type) where
  ending : End ε α
  state : σ
  script : List (Fate W ε)

/-- A procedure over states `σ` with answers `W` and exceptions `ε`. -/
def Proc (σ W ε α : Type) : Type := σ → List (Fate W ε) → Result σ W ε α

variable {σ W ε α β γ : Type}

namespace Proc

protected def pure (a : α) : Proc σ W ε α := fun s w => ⟨.ret a, s, w⟩

protected def bind (x : Proc σ W ε α) (f : α → Proc σ W ε β) : Proc σ W ε β := fun s w =>
  match x s w with
  | ⟨.ret a, s', w'⟩ => f a s' w'
  | ⟨.raised e, s', w'⟩ => ⟨.raised e, s', w'⟩
  | ⟨.killed, s', w'⟩ => ⟨.killed, s', w'⟩

instance : Monad (Proc σ W ε) where
  pure := Proc.pure
  bind := Proc.bind

def raise (e : ε) : Proc σ W ε α := fun s w => ⟨.raised e, s, w⟩

/-- Run the handler on an exception; a kill is not one. -/
def handle (x : Proc σ W ε α) (handler : ε → Proc σ W ε α) : Proc σ W ε α := fun s w =>
  match x s w with
  | ⟨.raised e, s', w'⟩ => handler e s' w'
  | r => r

/-- One step with an answer from outside. -/
def act (f : σ → W → α × σ) : Proc σ W ε α
  | s, [] => ⟨.killed, s, []⟩
  | s, .ok w :: rest => ⟨.ret (f s w).1, (f s w).2, rest⟩
  | s, .fails e :: rest => ⟨.raised e, s, rest⟩
  | s, .failsAfter e w :: rest => ⟨.raised e, (f s w).2, rest⟩

/-- One step that needs no answer. -/
def step (f : σ → σ) : Proc σ W ε Unit := act fun s _ => ((), f s)

/-- Read the state. -/
def look (f : σ → α) : Proc σ W ε α := act fun s _ => (f s, s)

/-- Ask the outside world. -/
def ask (f : W → α) : Proc σ W ε α := act fun s w => (f w, s)

/-- Perform `body` for each element in turn. -/
def forEach : List γ → (γ → Proc σ W ε Unit) → Proc σ W ε Unit
  | [], _ => .pure ()
  | c :: cs, body => do
    body c
    forEach cs body

/-- Repeat `body` until it has a result, `n` times at most. -/
def repeatFor : Nat → Proc σ W ε (Option α) → Proc σ W ε α
  | 0, _ => fun s w => ⟨.killed, s, w⟩
  | n + 1, body => do
    let r ← body
    r.elim (repeatFor n body) Proc.pure

/-- Repeat `body` until it has a result. A body that takes a step each time is killed at the end of
the script. -/
def poll (body : Proc σ W ε (Option α)) : Proc σ W ε α := fun s w =>
  repeatFor (w.length + 1) body s w

end Proc

/-- Any number of runs of `x`, each ended in any way. -/
def Attempts (x : Proc σ W ε α) : σ → σ → Prop :=
  Relation.ReflTransGen fun s t => ∃ w, t = (x s w).state

/-- A return satisfies `post`; every other end leaves `inv`. -/
def Result.Meets (inv : σ → Prop) (post : α → σ → Prop) (r : Result σ W ε α) : Prop :=
  match r.ending with
  | .ret a => post a r.state
  | .raised _ => inv r.state
  | .killed => inv r.state

/-- From `pre`, a return satisfies `post` and every other end leaves `inv`. -/
structure Triple (inv pre : σ → Prop) (x : Proc σ W ε α) (post : α → σ → Prop) : Prop where
  meets : ∀ s w, pre s → (x s w).Meets inv post

/-- `x` keeps `inv`, however it ends. -/
def Keeps (inv : σ → Prop) (x : Proc σ W ε α) : Prop := Triple inv inv x fun _ => inv

section Logic

variable {inv inv' pre pre' : σ → Prop} {x : Proc σ W ε α} {f : α → Proc σ W ε β}
  {postα postα' : α → σ → Prop} {mid : α → σ → Prop} {post : β → σ → Prop}

namespace Triple

/-- The state behind a returning program satisfies the postcondition. -/
lemma ret (h : Triple inv pre x postα) {s w a} (hs : pre s) (hr : (x s w).ending = .ret a) :
    postα a (x s w).state := by
  have := h.meets s w hs
  rw [Result.Meets, hr] at this
  exact this

/-- What holds however `x` ends. -/
lemma all (h : Triple inv pre x postα) (imp : ∀ a s, postα a s → inv s) {s} (hs : pre s) (w) :
    inv (x s w).state := by
  have := h.meets s w hs
  rw [Result.Meets] at this
  cases hr : (x s w).ending with
  | ret a =>
    rw [hr] at this
    exact imp a _ this
  | raised e =>
    rw [hr] at this
    exact this
  | killed =>
    rw [hr] at this
    exact this

/-- The consequence rule. -/
lemma conseq (h : Triple inv pre x postα) (hpre : ∀ s, pre' s → pre s) (hinv : ∀ s, inv s → inv' s)
    (hpost : ∀ a s, postα a s → postα' a s) : Triple inv' pre' x postα' := by
  constructor
  intro s w hs
  have := h.meets s w (hpre s hs)
  rw [Result.Meets] at this ⊢
  cases hr : (x s w).ending with
  | ret a =>
    rw [hr] at this
    exact hpost a _ this
  | raised e =>
    rw [hr] at this
    exact hinv _ this
  | killed =>
    rw [hr] at this
    exact hinv _ this

/-- The precondition can be narrowed. -/
lemma conseq_pre (h : Triple inv pre x postα) (hpre : ∀ s, pre' s → pre s) : Triple inv pre' x postα :=
  h.conseq hpre (fun _ hs => hs) fun _ _ hs => hs

/-- The postcondition can be widened. -/
lemma conseq_post (h : Triple inv pre x postα) (hpost : ∀ a s, postα a s → postα' a s) :
    Triple inv pre x postα' :=
  h.conseq (fun _ hs => hs) (fun _ hs => hs) hpost

/-- The invariant can be widened. -/
lemma conseq_inv (h : Triple inv pre x postα) (hinv : ∀ s, inv s → inv' s) : Triple inv' pre x postα :=
  h.conseq (fun _ hs => hs) hinv fun _ _ hs => hs

/-- A pure value needs its postcondition. -/
lemma pure {a : α} (h : ∀ s, pre s → postα a s) :
    Triple inv pre (Pure.pure a : Proc σ W ε α) postα :=
  ⟨fun s _ hs => h s hs⟩

/-- An exception needs the invariant. -/
lemma raise {e : ε} (h : ∀ s, pre s → inv s) : Triple inv pre (Proc.raise e : Proc σ W ε α) postα :=
  ⟨fun s _ hs => h s hs⟩

/-- The intermediate condition joins two programs. -/
lemma bind (hx : Triple inv pre x mid) (hf : ∀ a, Triple inv (mid a) (f a) post) :
    Triple inv pre (x >>= f) post := by
  constructor
  intro s w hs
  have hmeets := hx.meets s w hs
  change (Proc.bind x f s w).Meets inv post
  rw [Proc.bind]
  cases hr : x s w with
  | mk ending s' w' =>
    rw [hr] at hmeets
    cases ending with
    | ret a => exact (hf a).meets s' w' hmeets
    | raised e => exact hmeets
    | killed => exact hmeets

/-- `bind` with the intermediate assertion written out. -/
lemma seq (mid : α → σ → Prop) (hx : Triple inv pre x mid) (hf : ∀ a, Triple inv (mid a) (f a) post) :
    Triple inv pre (x >>= f) post :=
  bind hx hf

/-- A step that keeps the precondition, then the rest. -/
lemma keep (hx : Keeps pre x) (hinv : ∀ s, pre s → inv s) (hf : ∀ a, Triple inv pre (f a) post) :
    Triple inv pre (x >>= f) post :=
  bind (Triple.conseq_inv hx hinv) hf

/-- An action has to start in the invariant and to reach its postcondition in it. -/
lemma act {g : σ → W → α × σ}
    (h : ∀ s, pre s → inv s ∧ ∀ w, postα (g s w).1 (g s w).2 ∧ inv (g s w).2) :
    Triple inv pre (Proc.act g : Proc σ W ε α) postα := by
  constructor
  intro s w hs
  obtain ⟨hinv, hw⟩ := h s hs
  cases w with
  | nil => exact hinv
  | cons fate rest =>
    cases fate with
    | ok w => exact (hw w).1
    | fails e => exact hinv
    | failsAfter e w => exact (hw w).2

/-- So does a step. -/
lemma step {g : σ → σ} {post : Unit → σ → Prop}
    (h : ∀ s, pre s → inv s ∧ post () (g s) ∧ inv (g s)) :
    Triple inv pre (Proc.step g : Proc σ W ε Unit) post :=
  act fun s hs => ⟨(h s hs).1, fun _ => (h s hs).2⟩

/-- A look returns what it sees. -/
lemma look {g : σ → α} (hinv : ∀ s, pre s → inv s) :
    Triple inv pre (Proc.look g : Proc σ W ε α) fun a s => pre s ∧ a = g s :=
  act fun s hs => ⟨hinv s hs, fun _ => ⟨⟨hs, rfl⟩, hinv s hs⟩⟩

/-- A question changes nothing. -/
lemma ask {g : W → α} (hinv : ∀ s, pre s → inv s) :
    Triple inv pre (Proc.ask g : Proc σ W ε α) fun _ s => pre s :=
  act fun s hs => ⟨hinv s hs, fun _ => ⟨hs, hinv s hs⟩⟩

/-- The handler starts where the exception left the state. -/
lemma handle {handler : ε → Proc σ W ε α} (hx : Triple inv' pre x postα)
    (hinv : ∀ s, inv' s → inv s) (hh : ∀ e, Triple inv inv' (handler e) postα) :
    Triple inv pre (Proc.handle x handler) postα := by
  constructor
  intro s w hs
  have hmeets := hx.meets s w hs
  rw [Proc.handle]
  cases hr : x s w with
  | mk ending s' w' =>
    rw [hr] at hmeets
    cases ending with
    | ret a => exact hmeets
    | raised e => exact (hh e).meets s' w' hmeets
    | killed => exact hinv _ hmeets

/-- Both branches, each under its condition. -/
lemma ite {c : Prop} [Decidable c] {y : Proc σ W ε α} (hx : c → Triple inv pre x postα)
    (hy : ¬ c → Triple inv pre y postα) : Triple inv pre (if c then x else y) postα := by
  by_cases hc : c
  · rw [if_pos hc]
    exact hx hc
  · rw [if_neg hc]
    exact hy hc

/-- Use a consequence of the precondition. -/
lemma assume {φ : Prop} (h : ∀ s, pre s → φ) (hx : φ → Triple inv pre x postα) :
    Triple inv pre x postα :=
  ⟨fun s w hs => (hx (h s hs)).meets s w hs⟩

/-- Nothing is to show without a start. -/
lemma of_false (h : ∀ s, ¬ pre s) : Triple inv pre x postα := ⟨fun s _ hs => absurd hs (h s)⟩

/-- It is enough to start from each state on its own. -/
lemma of_each (h : ∀ s₀, pre s₀ → Triple inv (fun s => s = s₀) x postα) : Triple inv pre x postα :=
  ⟨fun s w hs => (h s hs).meets s w rfl⟩

/-- A bounded loop keeps the precondition until it returns. -/
lemma repeatFor {n} {body : Proc σ W ε (Option α)} (hinv : ∀ s, pre s → inv s)
    (h : Triple inv pre body fun r s => r.elim (pre s) fun a => postα a s) :
    Triple inv pre (Proc.repeatFor n body) postα := by
  induction n with
  | zero => exact ⟨fun s _ hs => hinv s hs⟩
  | succ n ih =>
    refine bind h ?_
    intro r
    cases r with
    | some a => exact pure fun _ hs => hs
    | none => exact ih

/-- So does polling. -/
lemma poll {body : Proc σ W ε (Option α)} (hinv : ∀ s, pre s → inv s)
    (h : Triple inv pre body fun r s => r.elim (pre s) fun a => postα a s) :
    Triple inv pre (Proc.poll body) postα :=
  ⟨fun s w hs => (repeatFor hinv h).meets s w hs⟩

end Triple

namespace Keeps

/-- A pure value keeps everything. -/
lemma pure {a : α} : Keeps inv (Pure.pure a : Proc σ W ε α) := Triple.pure fun _ hs => hs

/-- An exception keeps everything. -/
lemma raise {e : ε} : Keeps inv (Proc.raise e : Proc σ W ε α) := Triple.raise fun _ hs => hs

/-- Both parts keep the invariant. -/
lemma bind (hx : Keeps inv x) (hf : ∀ a, Keeps inv (f a)) : Keeps inv (x >>= f) :=
  Triple.bind hx hf

/-- An action that keeps the invariant. -/
lemma act {g : σ → W → α × σ} (h : ∀ s w, inv s → inv (g s w).2) :
    Keeps inv (Proc.act g : Proc σ W ε α) :=
  Triple.act fun s hs => ⟨hs, fun w => ⟨h s w hs, h s w hs⟩⟩

/-- A step that keeps the invariant. -/
lemma step {g : σ → σ} (h : ∀ s, inv s → inv (g s)) : Keeps inv (Proc.step g : Proc σ W ε Unit) :=
  act fun s _ hs => h s hs

/-- A look keeps everything. -/
lemma look {g : σ → α} : Keeps inv (Proc.look g : Proc σ W ε α) := act fun _ _ hs => hs

/-- A question keeps everything. -/
lemma ask {g : W → α} : Keeps inv (Proc.ask g : Proc σ W ε α) := act fun _ _ hs => hs

/-- Both branches keep the invariant. -/
lemma ite {c : Prop} [Decidable c] {y : Proc σ W ε α} (hx : Keeps inv x) (hy : Keeps inv y) :
    Keeps inv (if c then x else y) :=
  Triple.ite (fun _ => hx) fun _ => hy

/-- The program and its handler keep the invariant. -/
lemma handle {handler : ε → Proc σ W ε α} (hx : Keeps inv x) (hh : ∀ e, Keeps inv (handler e)) :
    Keeps inv (Proc.handle x handler) :=
  Triple.handle hx (fun _ hs => hs) hh

/-- Every pass of a loop keeps the invariant. -/
lemma forEach {cs : List γ} {body : γ → Proc σ W ε Unit} (h : ∀ c ∈ cs, Keeps inv (body c)) :
    Keeps inv (Proc.forEach cs body) := by
  induction cs with
  | nil => exact pure
  | cons c cs ih =>
    exact bind (h c List.mem_cons_self) fun _ => ih fun c' hc => h c' (List.mem_cons_of_mem _ hc)

/-- Every attempt keeps the invariant. -/
lemma poll {body : Proc σ W ε (Option α)} (h : Keeps inv body) : Keeps inv (Proc.poll body) := by
  refine Triple.poll (fun _ hs => hs) (Triple.conseq_post h ?_)
  intro r s hs
  cases r with
  | some a => exact hs
  | none => exact hs

/-- The invariant holds where the program ends. -/
lemma run (h : Keeps inv x) {s} (hs : inv s) (w) : inv (x s w).state :=
  Triple.all h (fun _ _ hs => hs) hs w

/-- And behind any number of attempts. -/
lemma attempts (h : Keeps inv x) {s t} (hs : inv s) (runs : Attempts x s t) : inv t := by
  induction runs with
  | refl => exact hs
  | tail _ hrun ih =>
    obtain ⟨w, rfl⟩ := hrun
    exact h.run ih w

end Keeps

end Logic

end Killable
