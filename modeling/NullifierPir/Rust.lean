import Mathlib

/-!
# Rust results and machine integers

The ambient failure model. A Rust computation returns, fails with an error (`anyhow::Error`, or the
`String` of a `Result<_, String>`), panics, or never ends; `Rust α` keeps these apart because
`catch_unwind` and the never-panics properties do. `usize` and `u64` values are naturals, with the
64-bit bound written out in the checked, saturating and wrapping operations that observe it. A
`while` loop takes a bound on its passes and diverges when that many do not end it; loops over `u64`
counters are given `U64` passes.
-/

namespace NullifierPir

/-- How a Rust computation fails; `diverge` is a loop that never ends. -/
inductive Fault where
  | err (msg : String)
  | panic (msg : String)
  | diverge
  deriving DecidableEq, Repr

/-- A Rust computation: a value, an error or a panic. -/
abbrev Rust := Except Fault

/-- Number of `usize`/`u64` values on the 64-bit targets. -/
def U64 : Nat := 2 ^ 64

namespace Rust

variable {α β : Type}

/-- `bail!` / `Err(anyhow!(..))`. -/
def bail (msg : String) : Rust α := .error (.err msg)

/-- An unwinding panic. -/
def panicked (msg : String) : Rust α := .error (.panic msg)

/-- `anyhow::ensure!`. -/
def ensure (c : Bool) (msg : String) : Rust Unit := if c then .ok () else bail msg

/-- `assert!`. -/
def assert (c : Bool) (msg : String) : Rust Unit := if c then .ok () else panicked msg

/-- `Option::context` / `Option::ok_or_else`. -/
def ofOption (msg : String) : Option α → Rust α
  | some a => .ok a
  | none => bail msg

/-- A third party's `Result`, whose error keeps its text. -/
def ofResult : Except String α → Rust α
  | .ok a => .ok a
  | .error e => bail e

/-- `Result::context`: prefix an error, let a panic through. -/
def context (ctx : String) : Rust α → Rust α
  | .error (.err msg) => bail (ctx ++ ": " ++ msg)
  | r => r

/-- Slice indexing `xs[i]`. -/
def index (xs : List α) (i : Nat) : Rust α :=
  match xs[i]? with
  | some a => .ok a
  | none => panicked s!"index out of bounds: the len is {xs.length} but the index is {i}"

/-- A `for` loop that stops at the first failure. -/
def forEach : List α → (α → Rust Unit) → Rust Unit
  | [], _ => .ok ()
  | x :: xs, f => do
    f x
    forEach xs f

/-- `ensure` passes exactly when its condition holds. -/
@[simp] lemma ensure_eq_ok {c msg u} : ensure c msg = .ok u ↔ c = true := by
  cases c <;> simp [ensure, bail]

/-- `assert` passes exactly when its condition holds. -/
@[simp] lemma assert_eq_ok {c msg u} : assert c msg = .ok u ↔ c = true := by
  cases c <;> simp [assert, panicked]

/-- A condition that holds passes. -/
lemma ensure_pos {c msg} (h : c = true) : ensure c msg = .ok () := ensure_eq_ok.mpr h

/-- Truth passes. -/
@[simp] lemma ensure_true {msg} : ensure true msg = .ok () := rfl

/-- Truth passes an assertion. -/
@[simp] lemma assert_true {msg} : assert true msg = .ok () := rfl

/-- Context changes no good result. -/
@[simp] lemma context_eq_ok {ctx} {r : Rust α} {a} : context ctx r = .ok a ↔ r = .ok a := by
  cases r with
  | ok b => simp [context]
  | error f => cases f <;> simp [context, bail]

/-- A good result passes its context. -/
@[simp] lemma context_ok {ctx} {a : α} : context ctx (.ok a) = .ok a := rfl

/-- A good result stays one. -/
@[simp] lemma ofResult_eq_ok {r : Except String α} {a} : ofResult r = .ok a ↔ r = .ok a := by
  cases r with
  | ok b => simp [ofResult]
  | error e => simp [ofResult, bail]

/-- A present value is returned. -/
@[simp] lemma ofOption_some {msg} {a : α} : ofOption msg (some a) = .ok a := rfl

/-- A returned value was present. -/
lemma ofOption_ok {msg} {o : Option α} {a} (h : ofOption msg o = .ok a) : o = some a := by
  cases o with
  | none => cases h
  | some b => exact congrArg some (Except.ok.inj h)

/-- Indexing within the bounds. -/
lemma index_eq_ok {xs : List α} {i} (h : i < xs.length) : index xs i = .ok xs[i] := by
  simp [index, h]

/-- A good result is passed on. -/
@[simp] lemma ok_bind {a : α} {f : α → Rust β} : ((.ok a : Rust α) >>= f) = f a := rfl

/-- An error ends the program. -/
@[simp] lemma error_bind {e} {f : α → Rust β} : ((.error e : Rust α) >>= f) = .error e := rfl

/-- Sequencing succeeds exactly when both halves do. -/
lemma bind_eq_ok {x : Rust α} {f : α → Rust β} {b} :
    (x >>= f) = .ok b ↔ ∃ a, x = .ok a ∧ f a = .ok b := by
  cases x with
  | ok a => simp [bind, Except.bind]
  | error e => simp [bind, Except.bind]

/-- A loop whose steps all succeed returns the list of their values. -/
lemma mapM_eq_ok {xs : List α} {f : α → Rust β} {g : α → β} (h : ∀ x ∈ xs, f x = .ok (g x)) :
    xs.mapM f = .ok (xs.map g) := by
  induction xs with
  | nil => rfl
  | cons x xs ih =>
    rw [List.mapM_cons, h x (by simp), ih fun y hy => h y (by simp [hy])]
    rfl

/-- A loop that succeeds has succeeded at every step. -/
lemma mapM_inv {xs : List α} {f : α → Rust β} {ys} (ok : xs.mapM f = .ok ys) :
    List.Forall₂ (fun x y => f x = .ok y) xs ys := by
  induction xs generalizing ys with
  | nil =>
    cases ok
    exact .nil
  | cons x xs ih =>
    rw [List.mapM_cons] at ok
    obtain ⟨y, hy, ok⟩ := bind_eq_ok.mp ok
    obtain ⟨ys', hys, ok⟩ := bind_eq_ok.mp ok
    cases ok
    exact .cons hy (ih hys)

/-- A loop succeeds exactly when every step does. -/
lemma mapM_returns {xs : List α} {f : α → Rust β} :
    (∃ ys, xs.mapM f = .ok ys) ↔ ∀ x ∈ xs, ∃ y, f x = .ok y := by
  induction xs with
  | nil => exact ⟨fun _ x hx => absurd hx List.not_mem_nil, fun _ => ⟨[], rfl⟩⟩
  | cons x xs ih =>
    rw [List.forall_mem_cons, ← ih, List.mapM_cons]
    constructor
    · rintro ⟨ys, ok⟩
      obtain ⟨y, hy, ok⟩ := bind_eq_ok.mp ok
      obtain ⟨ys', hys, _⟩ := bind_eq_ok.mp ok
      exact ⟨⟨y, hy⟩, ys', hys⟩
    · rintro ⟨⟨y, hy⟩, ys, hys⟩
      refine ⟨y :: ys, ?_⟩
      rw [hy, hys]
      rfl

/-- Every value of a loop comes from one of its steps. -/
lemma mapM_mem {xs : List α} {f : α → Rust β} {ys} (ok : xs.mapM f = .ok ys) :
    ∀ y ∈ ys, ∃ x ∈ xs, f x = .ok y := by
  have steps := mapM_inv ok
  clear ok
  induction steps with
  | nil => exact fun y hy => absurd hy List.not_mem_nil
  | @cons x _ _ _ h _ ih =>
    intro y hy
    rcases List.mem_cons.mp hy with rfl | hy
    · exact ⟨x, List.mem_cons_self, h⟩
    · obtain ⟨z, hz, hfz⟩ := ih y hy
      exact ⟨z, List.mem_cons_of_mem x hz, hfz⟩

/-- A checking loop succeeds exactly when every check does. -/
lemma forEach_eq_ok {xs : List α} {f : α → Rust Unit} {u} :
    forEach xs f = .ok u ↔ ∀ x ∈ xs, f x = .ok () := by
  induction xs with
  | nil => simp [forEach]
  | cons x xs ih =>
    simp only [forEach, bind_eq_ok, ih, List.mem_cons, forall_eq_or_imp]
    exact ⟨fun ⟨_, hx, h⟩ => ⟨hx, h⟩, fun ⟨hx, h⟩ => ⟨_, hx, h⟩⟩

/-- The computation does not run forever. -/
def Ends (r : Rust α) : Prop := r ≠ .error .diverge

namespace Ends

/-- A good result ends. -/
lemma ok {a : α} : Ends (.ok a : Rust α) := fun h => nomatch h

/-- An error ends. -/
lemma bail {msg} : Ends (bail msg : Rust α) := fun h => nomatch h

/-- A panic ends. -/
lemma panicked {msg} : Ends (panicked msg : Rust α) := fun h => nomatch h

/-- A check ends. -/
lemma ensure {c msg} : Ends (Rust.ensure c msg) := by
  cases c with
  | true => exact ok
  | false => exact bail

/-- An optional value ends. -/
lemma ofOption {msg} {o : Option α} : Ends (Rust.ofOption msg o) := by
  cases o with
  | none => exact bail
  | some a => exact ok

/-- Indexing ends. -/
lemma index {xs : List α} {i} : Ends (Rust.index xs i) := by
  rw [Rust.index]
  cases xs[i]? with
  | none => exact panicked
  | some a => exact ok

/-- A result ends. -/
lemma ofResult {r : Except String α} : Ends (Rust.ofResult r) := by
  cases r with
  | ok a => exact ok
  | error e => exact bail

/-- Context ends what ends. -/
lemma context {ctx} {r : Rust α} (h : Ends r) : Ends (Rust.context ctx r) := by
  cases r with
  | ok a => exact ok
  | error f =>
    cases f with
    | err msg => exact bail
    | panic msg => exact h
    | diverge => exact absurd rfl h

/-- Both parts end. -/
lemma bind {x : Rust α} {f : α → Rust β} (hx : Ends x) (hf : ∀ a, Ends (f a)) : Ends (x >>= f) := by
  cases x with
  | ok a => exact hf a
  | error e => exact fun h => hx (by cases h; rfl)

/-- A mapped list ends. -/
lemma mapM {xs : List α} {f : α → Rust β} (h : ∀ x ∈ xs, Ends (f x)) : Ends (xs.mapM f) := by
  induction xs with
  | nil => exact ok
  | cons x xs ih =>
    rw [List.mapM_cons]
    exact bind (h x (by simp)) fun _ => bind (ih fun y hy => h y (by simp [hy])) fun _ => ok

/-- A loop ends. -/
lemma forEach {xs : List α} {f : α → Rust Unit} (h : ∀ x ∈ xs, Ends (f x)) :
    Ends (Rust.forEach xs f) := by
  induction xs with
  | nil => exact ok
  | cons x xs ih => exact bind (h x (by simp)) fun _ => ih fun y hy => h y (by simp [hy])

end Ends

/-- The computation returns a value or an error: it does not panic and does not run forever. -/
def Graceful (r : Rust α) : Prop := (∃ a, r = .ok a) ∨ ∃ msg, r = .error (.err msg)

namespace Graceful

/-- A good result is graceful. -/
lemma ok {a : α} : Graceful (.ok a : Rust α) := .inl ⟨a, rfl⟩

/-- An error is graceful. -/
lemma bail {msg} : Graceful (bail msg : Rust α) := .inr ⟨msg, rfl⟩

/-- A check is graceful. -/
lemma ensure {c msg} : Graceful (Rust.ensure c msg) := by
  cases c with
  | true => exact ok
  | false => exact bail

/-- An optional value is graceful. -/
lemma ofOption {msg} {o : Option α} : Graceful (Rust.ofOption msg o) := by
  cases o with
  | none => exact bail
  | some a => exact ok

/-- Both parts are graceful. -/
lemma bind {x : Rust α} {f : α → Rust β} (hx : Graceful x) (hf : ∀ a, x = .ok a → Graceful (f a)) :
    Graceful (x >>= f) := by
  rcases hx with ⟨a, rfl⟩ | ⟨msg, rfl⟩
  · exact hf a rfl
  · exact bail

/-- A loop is graceful. -/
lemma forEach {xs : List α} {f : α → Rust Unit} (h : ∀ x ∈ xs, Graceful (f x)) :
    Graceful (Rust.forEach xs f) := by
  induction xs with
  | nil => exact ok
  | cons x xs ih =>
    exact bind (h x List.mem_cons_self) fun _ _ => ih fun y hy => h y (List.mem_cons_of_mem x hy)

/-- A result is graceful. -/
lemma ofResult {r : Except String α} : Graceful (Rust.ofResult r) := by
  cases r with
  | ok a => exact ok
  | error e => exact bail

/-- A mapped list is graceful. -/
lemma mapM {xs : List α} {f : α → Rust β} (h : ∀ x ∈ xs, Graceful (f x)) : Graceful (xs.mapM f) := by
  induction xs with
  | nil => exact ok
  | cons x xs ih =>
    rw [List.mapM_cons]
    exact bind (h x List.mem_cons_self) fun _ _ =>
      bind (ih fun y hy => h y (List.mem_cons_of_mem x hy)) fun _ _ => ok

end Graceful

end Rust

/-- `checked_add` on `usize`. -/
def checkedAdd (a b : Nat) : Option Nat := if a + b < U64 then some (a + b) else none

/-- `checked_mul` on `usize`. -/
def checkedMul (a b : Nat) : Option Nat := if a * b < U64 then some (a * b) else none

/-- `checked_sub` on `usize`. -/
def checkedSub (a b : Nat) : Option Nat := if b ≤ a then some (a - b) else none

/-- `1usize.checked_shl(n)`. -/
def checkedShlOne (n : Nat) : Option Nat := if n < 64 then some (2 ^ n) else none

/-- `saturating_add` on `u64`. -/
def saturatingAdd (a b : Nat) : Nat := min (a + b) (U64 - 1)

/-- `saturating_mul` on `usize`. -/
def saturatingMul (a b : Nat) : Nat := min (a * b) (U64 - 1)

/-- Unchecked `u64` addition; release builds wrap. -/
def wrappingAdd (a b : Nat) : Nat := (a + b) % U64

/-- A sum that fits. -/
lemma checkedAdd_eq {a b} (h : a + b < U64) : checkedAdd a b = some (a + b) := if_pos h

/-- A product that fits. -/
lemma checkedMul_eq {a b} (h : a * b < U64) : checkedMul a b = some (a * b) := if_pos h

/-- A product that was computed. -/
lemma checkedMul_ok {a b c} (h : checkedMul a b = some c) : a * b = c := by
  unfold checkedMul at h
  split at h
  · exact Option.some.inj h
  · cases h

/-- A difference that is not negative. -/
lemma checkedSub_eq {a b} (h : b ≤ a) : checkedSub a b = some (a - b) := if_pos h

/-- A power that fits. -/
lemma checkedShlOne_eq {n} (h : n < 64) : checkedShlOne n = some (2 ^ n) := if_pos h

/-- A sum that fits does not saturate. -/
lemma saturatingAdd_eq {a b} (h : a + b < U64) : saturatingAdd a b = a + b :=
  Nat.min_eq_left (Nat.le_sub_one_of_lt h)

/-- A sum that fits does not wrap. -/
lemma wrappingAdd_eq {a b} (h : a + b < U64) : wrappingAdd a b = a + b := Nat.mod_eq_of_lt h

end NullifierPir
