import NullifierPir.Lib.Bytes

/-!
# Programs over a file store, and crashes

A store maps file names to contents. A program is a function of the store that returns the list of
operations it performs, in order, and its result; the state it leaves is `exec` of that list, so a
run and all the points at which it can be cut are read off one value.

`Interrupted s ops s'` says that `s'` is what a crash during `ops` leaves: every operation before the
crash is done, and a write or an append in progress may have persisted as any prefix of its bytes.
`LoseTail` further cuts the files whose appends are not forced to disk.

`Triple J pre x post` is the program logic: from `pre`, every operation of `x` is performed in a
state where `J` allows it, and a successful result satisfies `post`. With `J := Keeps inv` the
triple gives `inv` in every state a crash can leave (`Steps.interrupted`).
-/

namespace Crash
open ByteString

/-- File contents by name; `none` is a missing file. -/
abbrev Store (N : Type) := N → Option Bytes

/-- A file operation, or a call to the outside world. -/
inductive Op (N E : Type) where
  | create (n : N) (bs : Bytes)
  | append (n : N) (bs : Bytes)
  | overwrite (n : N) (bs : Bytes)
  | setLen (n : N) (len : Nat)
  | rename (src dst : N)
  | remove (n : N)
  | read (n : N)
  | call (e : E)

/-- Cut, or extend with zero bytes. -/
def resize (bs : Bytes) (len : Nat) : Bytes := bs.take len ++ List.replicate (len - bs.length) 0

variable {N E ε α β : Type} [DecidableEq N]

/-- The effect of a completed operation. -/
def Op.apply (s : Store N) : Op N E → Store N
  | .create n bs => Function.update s n (some bs)
  | .append n bs => Function.update s n (some ((s n).getD [] ++ bs))
  | .overwrite n bs => Function.update s n (some (bs ++ ((s n).getD []).drop bs.length))
  | .setLen n len => Function.update s n ((s n).map (resize · len))
  | .rename src dst =>
    match s src with
    | some bs => Function.update (Function.update s dst (some bs)) src none
    | none => s
  | .remove n => Function.update s n none
  | .read _ => s
  | .call _ => s

/-- The effect of a list of operations. -/
def exec (s : Store N) : List (Op N E) → Store N
  | [] => s
  | o :: ops => exec (o.apply s) ops

/-- The operation does not write file `n`. -/
def Op.Avoids (n : N) : Op N E → Prop
  | .create m _ => m ≠ n
  | .append m _ => m ≠ n
  | .overwrite m _ => m ≠ n
  | .setLen m _ => m ≠ n
  | .rename src dst => src ≠ n ∧ dst ≠ n
  | .remove m => m ≠ n
  | .read _ => True
  | .call _ => True

/-- What an operation in progress may leave. -/
inductive Torn (s : Store N) : Op N E → Store N → Prop
  | create {n bs p} : p <+: bs → Torn s (.create n bs) (Function.update s n (some p))
  | append {n bs p} : p <+: bs →
      Torn s (.append n bs) (Function.update s n (some ((s n).getD [] ++ p)))
  | overwrite {n bs p} : p <+: bs → Torn s (.overwrite n bs)
      (Function.update s n (some (p ++ ((s n).getD []).drop p.length)))

/-- What a crash at some point of a list of operations leaves. -/
inductive Interrupted : Store N → List (Op N E) → Store N → Prop
  | stop {s ops} : Interrupted s ops s
  | torn {s o ops s'} : Torn s o s' → Interrupted s (o :: ops) s'
  | step {s o ops s'} : Interrupted (o.apply s) ops s' → Interrupted s (o :: ops) s'

/-- A crash after the operations `done`, with the next one possibly in progress. -/
inductive CutAfter : Store N → List (Op N E) → List (Op N E) → Store N → Prop
  | stop {s ops} : CutAfter s ops [] s
  | torn {s o ops s'} : Torn s o s' → CutAfter s (o :: ops) [] s'
  | step {s o ops done s'} : CutAfter (o.apply s) ops done s' → CutAfter s (o :: ops) (o :: done) s'

/-- A crash may cut the files in `lossy`, whose appends are never forced to disk. -/
def LoseTail (lossy : N → Prop) (s s' : Store N) : Prop :=
  ∀ n, s' n = s n ∨ lossy n ∧ ∃ bs p, s n = some bs ∧ p <+: bs ∧ s' n = some p

/-- A program: the operations it performs from a store, and its result. -/
def Prog (N E ε α : Type) : Type := Store N → List (Op N E) × Except ε α

namespace Prog

def pure (a : α) : Prog N E ε α := fun _ => ([], .ok a)

def bind (x : Prog N E ε α) (f : α → Prog N E ε β) : Prog N E ε β := fun s =>
  match x s with
  | (ops, .ok a) => (ops ++ (f a (exec s ops)).1, (f a (exec s ops)).2)
  | (ops, .error e) => (ops, .error e)

instance : Monad (Prog N E ε) where
  pure := Prog.pure
  bind := Prog.bind

/-- A computation without file operations. -/
def lift (r : Except ε α) : Prog N E ε α := fun _ => ([], r)

/-- Perform one operation. -/
def perform (o : Op N E) : Prog N E ε Unit := fun _ => ([o], .ok ())

/-- Look at directory entries (existence, sizes) without reading a file. -/
def inspect (f : Store N → α) : Prog N E ε α := fun s => ([], .ok (f s))

/-- Read a file. -/
def read (n : N) : Prog N E ε (Option Bytes) := fun s => ([.read n], .ok (s n))

/-- Run for the result, keeping a failure as a value. -/
def attempt (x : Prog N E ε α) : Prog N E ε (Except ε α) := fun s => ((x s).1, .ok (x s).2)

/-- Perform `body` for each element in turn. -/
def forEach : List α → (α → Prog N E ε Unit) → Prog N E ε Unit
  | [], _ => pure ()
  | a :: as, body => do
    body a
    forEach as body

/-- The store after a run from `s`. -/
def after (x : Prog N E ε α) (s : Store N) : Store N := exec s (x s).1

end Prog

section Exec

variable {s s' : Store N} {o : Op N E} {ops ops' : List (Op N E)}

/-- No operation changes nothing. -/
@[simp] lemma exec_nil : exec s ([] : List (Op N E)) = s := rfl

/-- The first operation comes first. -/
@[simp] lemma exec_cons : exec s (o :: ops) = exec (o.apply s) ops := rfl

/-- Joined lists run one after the other. -/
@[simp] lemma exec_append : exec s (ops ++ ops') = exec (exec s ops) ops' := by
  induction ops generalizing s with
  | nil => rfl
  | cons o ops ih => exact ih

/-- No operation cannot be interrupted. -/
@[simp] lemma interrupted_nil : Interrupted s ([] : List (Op N E)) s' ↔ s' = s := by
  constructor
  · intro h
    cases h
    rfl
  · rintro rfl
    exact .stop

/-- A crash comes before the first operation, in it or after it. -/
lemma interrupted_cons :
    Interrupted s (o :: ops) s' ↔ s' = s ∨ Torn s o s' ∨ Interrupted (o.apply s) ops s' := by
  constructor
  · intro h
    cases h with
    | stop => exact .inl rfl
    | torn h => exact .inr (.inl h)
    | step h => exact .inr (.inr h)
  · rintro (rfl | h | h)
    · exact .stop
    · exact .torn h
    · exact .step h

/-- A crash in a joined list is in the one or in the other. -/
lemma interrupted_append :
    Interrupted s (ops ++ ops') s' ↔ Interrupted s ops s' ∨ Interrupted (exec s ops) ops' s' := by
  induction ops generalizing s with
  | nil =>
    constructor
    · exact .inr
    · rintro (h | h)
      · cases h
        exact .stop
      · exact h
  | cons o ops ih =>
    rw [List.cons_append, interrupted_cons, interrupted_cons, ih, exec_cons]
    constructor
    · rintro (h | h | h | h)
      · exact .inl (.inl h)
      · exact .inl (.inr (.inl h))
      · exact .inl (.inr (.inr h))
      · exact .inr h
    · rintro ((h | h | h) | h)
      · exact .inl h
      · exact .inr (.inl h)
      · exact .inr (.inr (.inl h))
      · exact .inr (.inr (.inr h))

/-- A crash after the last operation leaves the final state. -/
lemma Interrupted.exec : Interrupted s ops (exec s ops) := by
  induction ops generalizing s with
  | nil => exact .stop
  | cons o ops ih => exact .step ih

/-- A crash can come between any two operations. -/
lemma Interrupted.take {k : Nat} : Interrupted s ops (Crash.exec s (ops.take k)) := by
  have cut : Interrupted s (ops.take k ++ ops.drop k) (Crash.exec s (ops.take k)) :=
    interrupted_append.mpr (.inl .exec)
  rwa [List.take_append_drop] at cut

/-- A crash happens after some of the operations. -/
lemma interrupted_iff : Interrupted s ops s' ↔ ∃ done, CutAfter s ops done s' := by
  constructor
  · intro h
    induction h with
    | stop => exact ⟨[], .stop⟩
    | torn ht => exact ⟨[], .torn ht⟩
    | step _ ih =>
      obtain ⟨done, h⟩ := ih
      exact ⟨_ :: done, .step h⟩
  · rintro ⟨done, h⟩
    induction h with
    | stop => exact .stop
    | torn ht => exact .torn ht
    | step _ ih => exact .step ih

/-- A crash during a sequence is one during its first half or one during its second half. -/
lemma CutAfter.append {done : List (Op N E)} (h : CutAfter s (ops ++ ops') done s') :
    CutAfter s ops done s' ∨
      ∃ done', done = ops ++ done' ∧ CutAfter (Crash.exec s ops) ops' done' s' := by
  induction ops generalizing s done with
  | nil => exact .inr ⟨done, rfl, h⟩
  | cons o ops ih =>
    cases h with
    | stop => exact .inl .stop
    | torn ht => exact .inl (.torn ht)
    | step h =>
      cases ih h with
      | inl first => exact .inl (.step first)
      | inr second =>
        obtain ⟨done', rfl, rest⟩ := second
        exact .inr ⟨done', rfl, rest⟩

/-- A crash after the last operation. -/
lemma CutAfter.all : CutAfter s ops ops (Crash.exec s ops) := by
  induction ops generalizing s with
  | nil => exact .stop
  | cons o ops ih => exact .step ih

/-- What was done is part of the list. -/
lemma CutAfter.mem {done : List (Op N E)} (h : CutAfter s ops done s') : ∀ o' ∈ done, o' ∈ ops := by
  induction h with
  | stop => exact fun _ h => by cases h
  | torn _ => exact fun _ h => by cases h
  | step _ ih =>
    intro o' ho'
    cases List.mem_cons.mp ho' with
    | inl heq => exact heq ▸ List.mem_cons_self
    | inr hmem => exact List.mem_cons_of_mem _ (ih o' hmem)

/-- An operation keeps the files it avoids. -/
lemma Op.Avoids.apply {n} (h : o.Avoids n) : o.apply s n = s n := by
  cases o with
  | create m bs => exact Function.update_of_ne (Ne.symm h) _ _
  | append m bs => exact Function.update_of_ne (Ne.symm h) _ _
  | overwrite m bs => exact Function.update_of_ne (Ne.symm h) _ _
  | setLen m len => exact Function.update_of_ne (Ne.symm h) _ _
  | rename src dst =>
    simp only [Op.apply]
    cases s src with
    | none => rfl
    | some bs =>
      simp only []
      rw [Function.update_of_ne (Ne.symm h.1), Function.update_of_ne (Ne.symm h.2)]
  | remove m => exact Function.update_of_ne (Ne.symm h) _ _
  | read m => rfl
  | call e => rfl

/-- Also when it is torn. -/
lemma Op.Avoids.torn {n} (h : o.Avoids n) (ht : Torn s o s') : s' n = s n := by
  cases ht with
  | create _ => exact Function.update_of_ne (Ne.symm h) _ _
  | append _ => exact Function.update_of_ne (Ne.symm h) _ _
  | overwrite _ => exact Function.update_of_ne (Ne.symm h) _ _

/-- A created file has the content. -/
@[simp] lemma apply_create {n bs m} :
    (Op.create n bs : Op N E).apply s m = if m = n then some bs else s m :=
  Function.update_apply s n (some bs) m

/-- An append adds to the file. -/
@[simp] lemma apply_append {n bs m} :
    (Op.append n bs : Op N E).apply s m = if m = n then some ((s n).getD [] ++ bs) else s m :=
  Function.update_apply s n _ m

/-- An overwrite replaces the start of the file. -/
@[simp] lemma apply_overwrite {n bs m} :
    (Op.overwrite n bs : Op N E).apply s m =
      if m = n then some (bs ++ ((s n).getD []).drop bs.length) else s m :=
  Function.update_apply s n _ m

/-- A file is cut or padded to the length. -/
@[simp] lemma apply_setLen {n len m} :
    (Op.setLen n len : Op N E).apply s m = if m = n then (s n).map (resize · len) else s m :=
  Function.update_apply s n _ m

/-- A removed file is gone. -/
@[simp] lemma apply_remove {n m} :
    (Op.remove n : Op N E).apply s m = if m = n then none else s m :=
  Function.update_apply s n none m

/-- A rename moves the file. -/
lemma apply_rename {src dst bs m} (h : s src = some bs) :
    (Op.rename src dst : Op N E).apply s m =
      if m = src then none else if m = dst then some bs else s m := by
  simp only [Op.apply, h, Function.update_apply]

/-- A read changes nothing. -/
@[simp] lemma apply_read {n} : (Op.read n : Op N E).apply s = s := rfl

/-- A call changes nothing. -/
@[simp] lemma apply_call {e} : (Op.call e : Op N E).apply s = s := rfl

end Exec

section Runs

variable {x : Prog N E ε α} {f : α → Prog N E ε β} {s : Store N}

/-- A sequence succeeds exactly when both halves do, and performs the one's operations before the
other's. -/
lemma Prog.bind_ok {b} (h : ((x >>= f) s).2 = .ok b) :
    ∃ a, (x s).2 = .ok a ∧ (f a (x.after s)).2 = .ok b ∧
      ((x >>= f) s).1 = (x s).1 ++ (f a (x.after s)).1 := by
  change (Prog.bind x f s).2 = .ok b at h
  change ∃ a, (x s).2 = .ok a ∧ (f a (x.after s)).2 = .ok b ∧
    (Prog.bind x f s).1 = (x s).1 ++ (f a (x.after s)).1
  rw [Prog.after]
  rw [Prog.bind] at h ⊢
  cases hrun : x s with
  | mk ops r =>
    rw [hrun] at h
    cases r with
    | error e => cases h
    | ok a => exact ⟨a, rfl, h, rfl⟩

/-- A program goes on where it returned. -/
lemma Prog.bind_of_ok {a} (h : (x s).2 = .ok a) :
    (x >>= f) s = ((x s).1 ++ (f a (x.after s)).1, (f a (x.after s)).2) := by
  change Prog.bind x f s = _
  rw [Prog.bind, Prog.after]
  cases hrun : x s with
  | mk ops r =>
    rw [hrun] at h
    obtain rfl : r = .ok a := h
    rfl

/-- A program stops where it failed. -/
lemma Prog.bind_of_error {e} (h : (x s).2 = .error e) : (x >>= f) s = ((x s).1, .error e) := by
  change Prog.bind x f s = _
  rw [Prog.bind]
  cases hrun : x s with
  | mk ops r =>
    rw [hrun] at h
    obtain rfl : r = .error e := h
    rfl

/-- The state behind a program that went on. -/
lemma Prog.after_bind {a} (h : (x s).2 = .ok a) : (x >>= f).after s = (f a).after (x.after s) := by
  rw [Prog.after, Prog.bind_of_ok h, exec_append]
  rfl

/-- Binding is associative. -/
lemma Prog.bind_assoc {γ : Type} {g : β → Prog N E ε γ} :
    x >>= f >>= g = x >>= fun a => f a >>= g := by
  funext s
  cases hx : (x s).2 with
  | error e =>
    have hxf := Prog.bind_of_error (f := f) hx
    rw [Prog.bind_of_error (by rw [hxf]), hxf, Prog.bind_of_error hx]
  | ok a =>
    rw [Prog.bind_of_ok hx]
    have hxf := Prog.bind_of_ok (f := f) hx
    cases hf : (f a (x.after s)).2 with
    | error e => rw [Prog.bind_of_error (by rw [hxf]; exact hf), hxf, Prog.bind_of_error hf]
    | ok b =>
      rw [Prog.bind_of_ok (by rw [hxf]; exact hf), Prog.bind_of_ok hf, hxf, Prog.after_bind hx,
        List.append_assoc]

/-- A pure value is passed on. -/
lemma Prog.pure_bind {a : α} : Pure.pure a >>= f = f a := by
  funext s
  exact Prog.bind_of_ok rfl

/-- Results of both parts give that of the whole. -/
lemma Prog.ok_bind {a b} (hx : (x s).2 = .ok a) (hf : (f a (x.after s)).2 = .ok b) :
    ((x >>= f) s).2 = .ok b := by
  rw [Prog.bind_of_ok hx]
  exact hf

/-- A lifted result is passed on. -/
lemma Prog.lift_bind {r : Except ε α} {a} (h : r = .ok a) : (Prog.lift r >>= f) s = f a s := by
  subst h
  rfl

/-- An inspected value is passed on. -/
lemma Prog.inspect_bind {g : Store N → α} {a} (h : g s = a) :
    (Prog.inspect g >>= f) s = f a s := by
  subst h
  rfl

/-- A performed operation comes first. -/
lemma Prog.perform_bind {o : Op N E} {f : Unit → Prog N E ε β} :
    (Prog.perform o >>= f) s = (o :: (f () (o.apply s)).1, (f () (o.apply s)).2) := rfl

/-- A loop of operations performs them in order. -/
lemma Prog.forEach_perform {γ : Type} {as : List γ} {g : γ → Op N E} :
    (Prog.forEach as fun a => Prog.perform (g a) : Prog N E ε Unit) s = (as.map g, .ok ()) := by
  induction as generalizing s with
  | nil => rfl
  | cons a as ih =>
    rw [Prog.forEach, Prog.bind_of_ok rfl, ih]
    rfl

/-- Whatever the store, `x` performs only operations in `φ` and does not fail with `e`. -/
def Prog.Within (φ : Op N E → Prop) (e : ε) (x : Prog N E ε α) : Prop :=
  ∀ s, (∀ o ∈ (x s).1, φ o) ∧ (x s).2 ≠ .error e

namespace Prog.Within

variable {φ : Op N E → Prop} {e : ε}

omit [DecidableEq N] in
/-- Bounds can be widened. -/
lemma mono {ψ : Op N E → Prop} (h : x.Within φ e) (imp : ∀ o, φ o → ψ o) : x.Within ψ e :=
  fun s => ⟨fun o ho => imp o ((h s).1 o ho), (h s).2⟩

/-- A pure value performs nothing. -/
lemma pure {a : α} : (Pure.pure a : Prog N E ε α).Within φ e :=
  fun _ => ⟨fun _ h => (nomatch h), fun h => nomatch h⟩

omit [DecidableEq N] in
/-- A lifted result performs nothing. -/
lemma lift {r : Except ε α} (h : r ≠ .error e) : (Prog.lift r : Prog N E ε α).Within φ e :=
  fun _ => ⟨fun _ h => (nomatch h), h⟩

omit [DecidableEq N] in
/-- An inspection performs nothing. -/
lemma inspect {g : Store N → α} : (Prog.inspect g : Prog N E ε α).Within φ e :=
  fun _ => ⟨fun _ h => (nomatch h), fun h => nomatch h⟩

omit [DecidableEq N] in
/-- An operation within the bound. -/
lemma perform {o : Op N E} (h : φ o) : (Prog.perform o : Prog N E ε Unit).Within φ e :=
  fun _ => ⟨fun _ ho => List.mem_singleton.mp ho ▸ h, fun h => nomatch h⟩

omit [DecidableEq N] in
/-- A read within the bound. -/
lemma read {n : N} (h : φ (.read n)) : (Prog.read n : Prog N E ε (Option Bytes)).Within φ e :=
  fun _ => ⟨fun _ ho => List.mem_singleton.mp ho ▸ h, fun h => nomatch h⟩

/-- Both parts are within the bound, the second for the values the first returns. -/
lemma bind_of_ok (hx : x.Within φ e)
    (hf : ∀ s a, (x s).2 = .ok a → (f a).Within φ e) : (x >>= f).Within φ e := by
  intro s
  obtain ⟨hops, herr⟩ := hx s
  cases hr : (x s).2 with
  | error e' =>
    rw [Prog.bind_of_error hr]
    refine ⟨hops, ?_⟩
    rw [hr] at herr
    exact fun h => herr (by cases h; rfl)
  | ok a =>
    obtain ⟨hops', herr'⟩ := hf s a hr (x.after s)
    rw [Prog.bind_of_ok hr]
    exact ⟨fun o ho => (List.mem_append.mp ho).elim (hops o) (hops' o), herr'⟩

/-- Both parts are within the bound. -/
lemma bind (hx : x.Within φ e) (hf : ∀ a, (f a).Within φ e) : (x >>= f).Within φ e :=
  bind_of_ok hx fun _ a _ => hf a

/-- Every pass of a loop is within the bound. -/
lemma forEach {γ : Type} {as : List γ} {body : γ → Prog N E ε Unit}
    (h : ∀ a ∈ as, (body a).Within φ e) : (Prog.forEach as body).Within φ e := by
  induction as with
  | nil => exact pure
  | cons a as ih => exact bind (h a (by simp)) fun _ => ih fun b hb => h b (by simp [hb])

end Prog.Within

/-- The program succeeds, whatever the store. -/
def Prog.Returns (x : Prog N E ε α) : Prop := ∀ s, ∃ a, (x s).2 = .ok a

namespace Prog.Returns

/-- A pure value returns. -/
lemma pure {a : α} : (Pure.pure a : Prog N E ε α).Returns := fun _ => ⟨a, rfl⟩

omit [DecidableEq N] in
/-- A good result returns. -/
lemma lift {r : Except ε α} {a} (h : r = .ok a) : (Prog.lift r : Prog N E ε α).Returns :=
  fun _ => ⟨a, h⟩

omit [DecidableEq N] in
/-- An operation returns. -/
lemma perform {o : Op N E} : (Prog.perform o : Prog N E ε Unit).Returns := fun _ => ⟨(), rfl⟩

omit [DecidableEq N] in
/-- An inspection returns. -/
lemma inspect {g : Store N → α} : (Prog.inspect g : Prog N E ε α).Returns := fun s => ⟨g s, rfl⟩

/-- Both parts return, the second for the values the first returns. -/
lemma bind_of_ok (hx : x.Returns) (hf : ∀ s a, (x s).2 = .ok a → (f a).Returns) :
    (x >>= f).Returns := by
  intro s
  obtain ⟨a, ha⟩ := hx s
  obtain ⟨b, hb⟩ := hf s a ha (x.after s)
  refine ⟨b, ?_⟩
  rw [Prog.bind_of_ok ha]
  exact hb

/-- Both parts return. -/
lemma bind (hx : x.Returns) (hf : ∀ a, (f a).Returns) : (x >>= f).Returns :=
  bind_of_ok hx fun _ a _ => hf a

end Prog.Returns

end Runs

section Logic

variable {J : Store N → Op N E → Prop} {pre : Store N → Prop}

/-- Every operation is performed in a state where `J` allows it. -/
def Steps (J : Store N → Op N E → Prop) : Store N → List (Op N E) → Prop
  | _, [] => True
  | s, o :: ops => J s o ∧ Steps J (o.apply s) ops

/-- The operation keeps `inv`, also when it is torn. -/
def Keeps (inv : Store N → Prop) (s : Store N) (o : Op N E) : Prop :=
  inv s → inv (o.apply s) ∧ ∀ s', Torn s o s' → inv s'

/-- Steps of a joined list. -/
lemma steps_append {s ops ops'} :
    Steps J s (ops ++ ops') ↔ Steps J s ops ∧ Steps J (exec s ops) ops' := by
  induction ops generalizing s with
  | nil => simp [Steps]
  | cons o ops ih => simp only [List.cons_append, Steps, ih, exec_cons, and_assoc]

/-- Steps can be widened. -/
lemma Steps.mono {J' : Store N → Op N E → Prop} {s ops} (h : Steps J s ops)
    (imp : ∀ t o, J t o → J' t o) : Steps J' s ops := by
  induction ops generalizing s with
  | nil => trivial
  | cons o ops ih => exact ⟨imp _ _ h.1, ih h.2⟩

/-- A file that no operation writes is left alone, wherever the run is cut. -/
lemma Interrupted.of_avoids {n : N} {s s' : Store N} {ops : List (Op N E)}
    (h : ∀ o ∈ ops, o.Avoids n) (cut : Interrupted s ops s') : s' n = s n := by
  induction cut with
  | stop => rfl
  | torn ht => exact (h _ List.mem_cons_self).torn ht
  | step _ ih =>
    rw [ih fun o ho => h o (List.mem_cons_of_mem _ ho)]
    exact (h _ List.mem_cons_self).apply

/-- An invariant that every operation keeps holds wherever a crash stops the run. -/
lemma Steps.interrupted {inv : Store N → Prop} {s s' : Store N} {ops : List (Op N E)}
    (h : Steps (Keeps inv) s ops) (hs : inv s) (cut : Interrupted s ops s') : inv s' := by
  induction cut with
  | stop => exact hs
  | torn ht => exact (h.1 hs).2 _ ht
  | step _ ih => exact ih h.2 (h.1 hs).1

/-- Steps that keep an invariant keep it to the end. -/
lemma Steps.exec {inv : Store N → Prop} {s : Store N} {ops : List (Op N E)}
    (h : Steps (Keeps inv) s ops) (hs : inv s) : inv (exec s ops) :=
  h.interrupted hs .exec

/-- From `pre`, every operation is allowed by `J` and a result satisfies `post`. -/
def Triple (J : Store N → Op N E → Prop) (pre : Store N → Prop) (x : Prog N E ε α)
    (post : α → Store N → Prop) : Prop :=
  ∀ s, pre s → Steps J s (x s).1 ∧ ∀ a, (x s).2 = .ok a → post a (x.after s)

namespace Triple

variable {x : Prog N E ε α} {f : α → Prog N E ε β} {mid : α → Store N → Prop}
  {post : β → Store N → Prop} {postα : α → Store N → Prop}

/-- A pure value needs its postcondition. -/
lemma pure {a : α} (h : ∀ s, pre s → postα a s) :
    Triple J pre (Pure.pure a : Prog N E ε α) postα := by
  intro s hs
  refine ⟨trivial, ?_⟩
  intro b hb
  cases hb
  exact h s hs

/-- The intermediate condition joins two programs. -/
lemma bind (hx : Triple J pre x mid) (hf : ∀ a, Triple J (mid a) (f a) post) :
    Triple J pre (x >>= f) post := by
  intro s hs
  obtain ⟨hsteps, hmid⟩ := hx s hs
  change Steps J s (Prog.bind x f s).1 ∧ ∀ b, (Prog.bind x f s).2 = .ok b →
    post b (Crash.exec s (Prog.bind x f s).1)
  cases hrun : x s with
  | mk ops r =>
    rw [hrun] at hsteps hmid
    cases r with
    | error e =>
      simp only [Prog.bind, hrun]
      refine ⟨hsteps, ?_⟩
      intro b hb
      cases hb
    | ok a =>
      have ha := hmid a rfl
      rw [Prog.after, hrun] at ha
      obtain ⟨hsteps', hpost⟩ := hf a _ ha
      simp only [Prog.bind, hrun]
      refine ⟨steps_append.mpr ⟨hsteps, hsteps'⟩, ?_⟩
      intro b hb
      rw [exec_append]
      exact hpost b hb

/-- `bind` with the intermediate assertion written out. -/
lemma seq (mid : α → Store N → Prop) (hx : Triple J pre x mid)
    (hf : ∀ a, Triple J (mid a) (f a) post) : Triple J pre (x >>= f) post :=
  bind hx hf

/-- The consequence rule. -/
lemma conseq {pre' : Store N → Prop} {post' : α → Store N → Prop} (h : Triple J pre x postα)
    (hpre : ∀ s, pre' s → pre s) (hpost : ∀ a s, postα a s → post' a s) :
    Triple J pre' x post' := by
  intro s hs
  obtain ⟨hsteps, hp⟩ := h s (hpre s hs)
  exact ⟨hsteps, fun a ha => hpost a _ (hp a ha)⟩

/-- Name the state a program starts in. -/
lemma fix (h : ∀ s₀, pre s₀ → Triple J (fun s => s = s₀) x postα) : Triple J pre x postα :=
  fun s hs => h s hs s rfl

/-- Use a consequence of the precondition. -/
lemma assume {φ : Prop} (h : ∀ s, pre s → φ) (hx : φ → Triple J pre x postα) :
    Triple J pre x postα :=
  fun s hs => hx (h s hs) s hs

/-- Allowed steps can be widened. -/
lemma mono {J' : Store N → Op N E → Prop} (h : Triple J pre x postα)
    (imp : ∀ s o, J s o → J' s o) : Triple J' pre x postα := by
  intro s hs
  obtain ⟨hsteps, hp⟩ := h s hs
  exact ⟨hsteps.mono imp, hp⟩

/-- A lifted result needs its postcondition if it is good. -/
lemma lift {r : Except ε α} (h : ∀ a s, r = .ok a → pre s → postα a s) :
    Triple J pre (Prog.lift r : Prog N E ε α) postα :=
  fun s hs => ⟨trivial, fun a ha => h a s ha hs⟩

/-- A computation without file operations keeps the state. -/
lemma lift_ok {r : Except ε α} :
    Triple J pre (Prog.lift r : Prog N E ε α) fun a s => pre s ∧ r = .ok a :=
  lift fun _ _ h hs => ⟨hs, h⟩

/-- An operation has to be allowed and to reach its postcondition. -/
lemma perform {o : Op N E} {post : Unit → Store N → Prop}
    (h : ∀ s, pre s → J s o ∧ post () (o.apply s)) :
    Triple J pre (Prog.perform o : Prog N E ε Unit) post :=
  fun s hs => ⟨⟨(h s hs).1, trivial⟩, fun _ _ => (h s hs).2⟩

/-- An inspection returns what it sees. -/
lemma inspect {f : Store N → α} (h : ∀ s, pre s → postα (f s) s) :
    Triple J pre (Prog.inspect f : Prog N E ε α) postα := by
  intro s hs
  refine ⟨trivial, ?_⟩
  intro a ha
  cases ha
  exact h s hs

/-- Looking at the directory keeps the state. -/
lemma inspect_eq {f : Store N → α} :
    Triple J pre (Prog.inspect f : Prog N E ε α) fun a s => pre s ∧ a = f s :=
  inspect fun _ hs => ⟨hs, rfl⟩

/-- A read has to be allowed, and returns the content. -/
lemma read {n : N} {post : Option Bytes → Store N → Prop}
    (h : ∀ s, pre s → J s (.read n) ∧ post (s n) s) :
    Triple J pre (Prog.read n : Prog N E ε (Option Bytes)) post := by
  intro s hs
  refine ⟨⟨(h s hs).1, trivial⟩, ?_⟩
  intro a ha
  cases ha
  exact (h s hs).2

/-- A loop keeps what its body keeps. -/
lemma forEach {γ : Type} {as : List γ} {body : γ → Prog N E ε Unit} {inv : Store N → Prop}
    (h : ∀ a ∈ as, Triple J inv (body a) fun _ => inv) :
    Triple J inv (Prog.forEach as body) fun _ => inv := by
  induction as with
  | nil => exact pure fun _ hs => hs
  | cons a as ih =>
    exact bind (h a (by simp)) fun _ => ih fun b hb => h b (by simp [hb])

end Triple

end Logic

end Crash
