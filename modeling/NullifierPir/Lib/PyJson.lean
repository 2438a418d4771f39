import Mathlib

/-!
# JSON values as Python decodes them

The values `json.loads` returns and what Python's `==` says of them. A string is the list of its code
points, so that a lone surrogate is one too; a float is the rational number it stands for, or one of the
values that stand for none. Booleans are numbers: `True == 1`. A dictionary has at most one value for
a key.
-/

namespace PyJson

/-- Code points of a Python string. -/
abbrev Str := List Nat

/-- A Python string literal. -/
def lit (s : String) : Str := s.toList.map Char.toNat

/-- Different literals are different strings. -/
lemma lit_ne {a b : String} (h : a ≠ b) : lit a ≠ lit b := by
  intro heq
  have chars : Function.Injective Char.toNat := fun _ _ => Char.toNat_inj.mp
  exact h (String.toList_inj.mp (List.map_injective_iff.mpr chars heq))

/-- The value of a Python number. -/
inductive Num where
  | finite (q : ℚ)
  | infinite (negative : Bool)
  | nan
  deriving DecidableEq

/-- Python `==` of numbers. -/
def Num.eq : Num → Num → Bool
  | .finite a, .finite b => a == b
  | .infinite a, .infinite b => a == b
  | _, _ => false

/-- Values of `json.loads`. -/
inductive Json where
  | null
  | bool (b : Bool)
  | int (n : Int)
  | float (x : Num)
  | str (s : Str)
  | arr (xs : List Json)
  | obj (members : List (Str × Json))

/-- A Python dictionary with string keys. -/
abbrev Dict := List (Str × Json)

namespace Dict

/-- Python `d.get(key)`, which is `None` for a missing key. -/
def get (d : Dict) (key : Str) : Json := (d.lookup key).getD .null

/-- Python `d[key] = value`, up to the order of the keys. -/
def set (d : Dict) (key : Str) (value : Json) : Dict :=
  d.filter (fun member => member.1 != key) ++ [(key, value)]

/-- A key that was set has its value. -/
@[simp] lemma get_set_self (d : Dict) (key : Str) (value : Json) : (d.set key value).get key = value := by
  have hnone : (d.filter fun member => member.1 != key).lookup key = none := by
    rw [List.lookup_eq_none_iff]
    intro member hmem
    have hne : member.1 ≠ key := by simpa using (List.mem_filter.mp hmem).2
    simpa using hne.symm
  simp [get, set, List.lookup_append, hnone]

/-- The other keys keep theirs. -/
lemma get_set_of_ne (d : Dict) {key other : Str} (value : Json) (h : other ≠ key) :
    (d.set key value).get other = d.get other := by
  have hlookup : (d.filter fun member => member.1 != key).lookup other = d.lookup other := by
    induction d with
    | nil => rfl
    | cons member d ih =>
      obtain ⟨k, v⟩ := member
      by_cases hkey : k = key
      · simp [hkey, List.lookup_cons, ih, beq_false_of_ne h]
      · simp [hkey, List.lookup_cons, ih]
  simp [get, set, List.lookup_append, hlookup, List.lookup_cons, beq_false_of_ne h]

end Dict

namespace Json

/-- The number a value is; `bool` is a subclass of `int`. -/
def num : Json → Option Num
  | .bool b => some (.finite (if b then 1 else 0))
  | .int n => some (.finite n)
  | .float x => some x
  | _ => none

mutual

/-- Python `==`. -/
def eq : Json → Json → Bool
  | .null, .null => true
  | .str a, .str b => a == b
  | .arr xs, .arr ys => eqList xs ys
  | .obj xs, .obj ys => xs.length == ys.length && eqMembers xs ys
  | a, b =>
    match a.num, b.num with
    | some x, some y => x.eq y
    | _, _ => false

/-- Python `==` of lists. -/
def eqList : List Json → List Json → Bool
  | [], [] => true
  | x :: xs, y :: ys => eq x y && eqList xs ys
  | _, _ => false

/-- Every member is a member of the other dictionary. -/
def eqMembers : List (Str × Json) → Dict → Bool
  | [], _ => true
  | (key, x) :: xs, ys =>
    (match ys.lookup key with
      | some y => eq x y
      | none => false) && eqMembers xs ys

end

/-- Only a string equals a string. -/
@[simp] lemma eq_str {j : Json} {s : Str} : j.eq (.str s) = true ↔ j = .str s := by
  cases j <;> simp [eq, num]

/-- A number equals an integer if it stands for it. -/
lemma eq_int {j : Json} {n : Int} : j.eq (.int n) = true ↔ j.num = some (.finite n) := by
  cases j with
  | float x => cases x <;> simp [eq, num, Num.eq]
  | bool b => simp [eq, num, Num.eq]
  | int m => simp [eq, num, Num.eq]
  | _ => simp [eq, num]

/-- Integers are equal if they are the same. -/
@[simp] lemma int_eq_int {m n : Int} : (Json.int m).eq (.int n) = true ↔ m = n := by
  simp [eq_int, num]

end Json

end PyJson
