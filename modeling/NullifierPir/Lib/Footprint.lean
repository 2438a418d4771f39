import NullifierPir.Lib.Crash

/-!
# Footprints

`x.Only φ` says that `x` performs only operations in `φ`, whatever the store. It is read off the text of
a program, with one rule for each way to build one. `Op.Inside ns` is such a `φ`: the operation writes at
most the files `ns` and calls nobody. Two things follow from a footprint: files outside it are as they
were (`Only.after_eq`), and what its operations keep is an invariant of the program (`Only.triple`).
Programs that only read return what they are told by the store (`Only.reads`).
-/

namespace Crash
open ByteString

variable {N E ε α β : Type} [DecidableEq N]

/-- The operation writes at most the files `ns`, and is no call. -/
def Op.Inside (ns : List N) : Op N E → Prop
  | .create n _ => n ∈ ns
  | .append n _ => n ∈ ns
  | .overwrite n _ => n ∈ ns
  | .setLen n _ => n ∈ ns
  | .rename src dst => src ∈ ns ∧ dst ∈ ns
  | .remove n => n ∈ ns
  | .read _ => True
  | .call _ => False

/-- Whatever the store, `x` performs only operations in `φ`. -/
def Prog.Only (φ : Op N E → Prop) (x : Prog N E ε α) : Prop := ∀ s, ∀ o ∈ (x s).1, φ o

section Inside

variable {ns ns' : List N} {n : N} {o : Op N E}

omit [DecidableEq N] in
/-- Files outside the footprint are not written. -/
lemma Op.Inside.avoids (h : o.Inside ns) (hn : n ∉ ns) : o.Avoids n := by
  cases o with
  | create m bs => exact fun heq => hn (heq ▸ h)
  | append m bs => exact fun heq => hn (heq ▸ h)
  | overwrite m bs => exact fun heq => hn (heq ▸ h)
  | setLen m len => exact fun heq => hn (heq ▸ h)
  | rename src dst => exact ⟨fun heq => hn (heq ▸ h.1), fun heq => hn (heq ▸ h.2)⟩
  | remove m => exact fun heq => hn (heq ▸ h)
  | read m => trivial
  | call e => trivial

omit [DecidableEq N] in
/-- A larger footprint. -/
lemma Op.Inside.mono (h : o.Inside ns) (sub : ∀ n ∈ ns, n ∈ ns') : o.Inside ns' := by
  cases o with
  | create m bs => exact sub m h
  | append m bs => exact sub m h
  | overwrite m bs => exact sub m h
  | setLen m len => exact sub m h
  | rename src dst => exact ⟨sub src h.1, sub dst h.2⟩
  | remove m => exact sub m h
  | read m => trivial
  | call e => exact h

omit [DecidableEq N] in
/-- Without files to write, only reads are left. -/
lemma Op.Inside.read (h : (o : Op N E).Inside []) : ∃ n, o = .read n := by
  cases o with
  | create m bs => exact absurd h List.not_mem_nil
  | append m bs => exact absurd h List.not_mem_nil
  | overwrite m bs => exact absurd h List.not_mem_nil
  | setLen m len => exact absurd h List.not_mem_nil
  | rename src dst => exact absurd h.1 List.not_mem_nil
  | remove m => exact absurd h List.not_mem_nil
  | read m => exact ⟨m, rfl⟩
  | call e => exact h.elim

end Inside

namespace Prog.Only

variable {φ ψ : Op N E → Prop} {x : Prog N E ε α} {f : α → Prog N E ε β} {s : Store N}

omit [DecidableEq N] in
/-- A larger class of operations. -/
lemma mono (h : x.Only φ) (imp : ∀ o, φ o → ψ o) : x.Only ψ := fun s o ho => imp o (h s o ho)

omit [DecidableEq N] in
/-- A computation performs nothing. -/
lemma lift {r : Except ε α} : (Prog.lift r : Prog N E ε α).Only φ :=
  fun _ _ h => absurd h List.not_mem_nil

/-- A value performs nothing. -/
lemma pure {a : α} : (Pure.pure a : Prog N E ε α).Only φ :=
  fun _ _ h => absurd h List.not_mem_nil

omit [DecidableEq N] in
/-- A look at the directory performs nothing. -/
lemma inspect {g : Store N → α} : (Prog.inspect g : Prog N E ε α).Only φ :=
  fun _ _ h => absurd h List.not_mem_nil

omit [DecidableEq N] in
/-- One operation. -/
lemma perform {o : Op N E} (h : φ o) : (Prog.perform o : Prog N E ε Unit).Only φ :=
  fun _ _ ho => List.mem_singleton.mp ho ▸ h

omit [DecidableEq N] in
/-- One read. -/
lemma read {n : N} (h : φ (.read n)) : (Prog.read n : Prog N E ε (Option Bytes)).Only φ :=
  fun _ _ ho => List.mem_singleton.mp ho ▸ h

omit [DecidableEq N] in
/-- A failure that is kept as a value has been reached by the same operations. -/
lemma attempt (h : x.Only φ) : (Prog.attempt x).Only φ := h

/-- One program after the other. -/
lemma bind (hx : x.Only φ) (hf : ∀ a, (f a).Only φ) : (x >>= f).Only φ := by
  intro s o ho
  cases hr : (x s).2 with
  | error e =>
    rw [Prog.bind_of_error hr] at ho
    exact hx s o ho
  | ok a =>
    rw [Prog.bind_of_ok hr] at ho
    cases List.mem_append.mp ho with
    | inl first => exact hx s o first
    | inr second => exact hf a _ o second

/-- A loop over such bodies. -/
lemma forEach {γ : Type} {as : List γ} {body : γ → Prog N E ε Unit}
    (h : ∀ a ∈ as, (body a).Only φ) : (Prog.forEach as body).Only φ := by
  induction as with
  | nil => exact pure
  | cons a as ih => exact bind (h a (by simp)) fun _ => ih fun b hb => h b (by simp [hb])

/-- A file that no operation writes is left alone. -/
lemma after_eq {n : N} (h : x.Only φ) (avoids : ∀ o, φ o → o.Avoids n) : x.after s n = s n :=
  Interrupted.of_avoids (fun o ho => avoids o (h s o ho)) .exec

/-- Reading leaves everything. -/
lemma after_self (h : x.Only (Op.Inside [])) : x.after s = s :=
  funext fun _ => h.after_eq fun _ ho => ho.avoids List.not_mem_nil

variable {J : Store N → Op N E → Prop} {pre : Store N → Prop}

/-- What every operation in the footprint keeps is kept. -/
lemma triple (h : x.Only φ) (keeps : ∀ s o, φ o → pre s → J s o ∧ pre (o.apply s)) :
    Triple J pre x fun _ => pre := by
  have hrun : ∀ {ops : List (Op N E)} {s : Store N}, (∀ o ∈ ops, φ o) → pre s →
      Steps J s ops ∧ pre (exec s ops) := by
    intro ops
    induction ops with
    | nil => exact fun _ hs => ⟨trivial, hs⟩
    | cons o ops ih =>
      intro s hops hs
      obtain ⟨hstep, hnext⟩ := keeps s o (hops o List.mem_cons_self) hs
      obtain ⟨hsteps, hend⟩ := ih (fun o' ho' => hops o' (List.mem_cons_of_mem _ ho')) hnext
      exact ⟨⟨hstep, hsteps⟩, hend⟩
  intro s hs
  obtain ⟨hsteps, hend⟩ := hrun (h s) hs
  exact ⟨hsteps, fun _ _ => hend⟩

/-- A program that only reads returns what it computes from the store as it stays. -/
lemma reads (h : x.Only (Op.Inside [])) (allowed : ∀ s n, pre s → J s (.read n)) :
    Triple J pre x fun a s => pre s ∧ (x s).2 = .ok a := by
  intro s hs
  obtain ⟨hsteps, _⟩ := @triple _ _ _ _ _ _ _ J (fun t => t = s) h (by
    rintro t o ho rfl
    obtain ⟨n, rfl⟩ := ho.read
    exact ⟨allowed _ n hs, rfl⟩) s rfl
  refine ⟨hsteps, ?_⟩
  intro a ha
  rw [h.after_self]
  exact ⟨hs, ha⟩

end Prog.Only

section Rules

variable {J : Store N → Op N E → Prop} {pre : Store N → Prop} {x : Prog N E ε α}
  {f : α → Prog N E ε β} {post : α → Store N → Prop} {s s' : Store N} {a : α}

/-- The result of a program whose failure is kept as a value. -/
lemma Triple.attempt (h : Triple J pre x post) :
    Triple J pre (Prog.attempt x) fun r s => ∀ a, r = .ok a → post a s := by
  intro s hs
  obtain ⟨hsteps, hpost⟩ := h s hs
  refine ⟨hsteps, ?_⟩
  intro r hr a ha
  cases hr
  exact hpost a ha

/-- What the steps keep may be added to both assertions. -/
lemma Triple.keeping {inv : Store N → Prop} (h : Triple J pre x post)
    (keeps : ∀ s o, J s o → Keeps inv s o) :
    Triple J (fun s => inv s ∧ pre s) x fun a s => inv s ∧ post a s := by
  rintro s ⟨hinv, hs⟩
  obtain ⟨hsteps, hpost⟩ := h s hs
  exact ⟨hsteps, fun a ha => ⟨(hsteps.mono keeps).exec hinv, hpost a ha⟩⟩

/-- Every performed operation was allowed. -/
lemma Steps.mem {φ : Op N E → Prop} {ops : List (Op N E)} (h : Steps J s ops)
    (imp : ∀ s o, J s o → φ o) : ∀ o ∈ ops, φ o := by
  induction ops generalizing s with
  | nil => exact fun _ ho => absurd ho List.not_mem_nil
  | cons o ops ih =>
    intro o' ho'
    cases List.mem_cons.mp ho' with
    | inl heq => exact heq ▸ imp s o h.1
    | inr hmem => exact ih h.2 o' hmem

/-- A sequence performs the operations of its first half first. -/
lemma bind_isPrefix : (x s).1 <+: ((x >>= f) s).1 := by
  cases hr : (x s).2 with
  | error e =>
    rw [Prog.bind_of_error hr]
  | ok a =>
    rw [Prog.bind_of_ok hr]
    exact List.prefix_append _ _

/-- A crash in the first half of a sequence. -/
lemma interrupted_bind (h : Interrupted s (x s).1 s') : Interrupted s ((x >>= f) s).1 s' := by
  obtain ⟨rest, hrest⟩ := bind_isPrefix (x := x) (f := f) (s := s)
  rw [← hrest]
  exact interrupted_append.mpr (.inl h)

/-- Looking and reading leave the store as it is. -/
lemma bind_reads {ops : List (Op N E)} (hx : x s = (ops, .ok a)) (hs : exec s ops = s) :
    ((x >>= f) s).1 = ops ++ (f a s).1 := by
  rw [Prog.bind_of_ok (by rw [hx]), Prog.after, hx, hs]

/-- A crash in the second half of a sequence. -/
lemma interrupted_bind_ok (ok : (x s).2 = .ok a)
    (h : Interrupted (x.after s) (f a (x.after s)).1 s') : Interrupted s ((x >>= f) s).1 s' := by
  rw [Prog.bind_of_ok ok]
  exact interrupted_append.mpr (.inr h)

end Rules

end Crash
