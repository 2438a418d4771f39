import NullifierPir.Lib.Crash
import NullifierPir.Field

/-!
# The data directory

The files of a nullifier data directory and of its tier directory, the outside calls a run makes, and
`Fs`, the programs over them. `Json` is the third-party serializer at one type: how a value is printed
is left open, a printed value parses back, and a text cut short does not parse. `Json.ofTexts` is such
a serializer with given texts for finitely many values.
-/

namespace NullifierPir
open ByteString Crash

/-- A file of the nullifier root or of the tier directory. -/
inductive DataFile where
  | nullifiersBin
  | nullifiersCheckpoint
  | nullifiersCheckpointTmp
  | nullifiersIndex
  | datasetMarker
  | datasetMarkerTmp
  | nullifiersTree
  | nullifiersTreeTmp
  | tier0
  | tier1
  | tier2
  | pirRoot
  | tier0Precompute
  | tier0PrecomputeTmp
  | tier1Precompute
  | tier1PrecomputeTmp
  | tier2Precompute
  | tier2PrecomputeTmp
  deriving DecidableEq, Repr

/-- File name inside its directory. -/
def DataFile.name : DataFile → String
  | .nullifiersBin => "nullifiers.bin"
  | .nullifiersCheckpoint => "nullifiers.checkpoint"
  | .nullifiersCheckpointTmp => "nullifiers.checkpoint.tmp"
  | .nullifiersIndex => "nullifiers.index"
  | .datasetMarker => "nullifiers.dataset.json"
  | .datasetMarkerTmp => "nullifiers.dataset.json.tmp"
  | .nullifiersTree => "nullifiers.tree"
  | .nullifiersTreeTmp => "nullifiers.tree.tmp"
  | .tier0 => "tier0.bin"
  | .tier1 => "tier1.bin"
  | .tier2 => "tier2.bin"
  | .pirRoot => "pir_root.json"
  | .tier0Precompute => "tier0.precompute"
  | .tier0PrecomputeTmp => "tier0.precompute.tmp"
  | .tier1Precompute => "tier1.precompute"
  | .tier1PrecomputeTmp => "tier1.precompute.tmp"
  | .tier2Precompute => "tier2.precompute"
  | .tier2PrecomputeTmp => "tier2.precompute.tmp"

/-- Outside calls of a run: a block-range request to the `server`-th connected lightwalletd, and the
hand-over of a nullifier list, labelled with a height, to the tree builder. -/
inductive Event where
  | getBlockRange (server start stop : Nat)
  | buildTree (nfs : List Fp) (height : Nat)
  deriving DecidableEq

/-- A data directory. -/
abbrev Dir := Store DataFile

/-- A file operation or outside call of a run. -/
abbrev FsOp := Op DataFile Event

/-- Programs over a data directory. -/
abbrev Fs := Prog DataFile Event Fault

/-- `serde_json` at one type. -/
structure Json (α : Type) where
  encode : α → Bytes
  decode : Bytes → Except String α
  decode_encode : ∀ a, decode (encode a) = .ok a
  decode_line : ∀ a, decode (encode a ++ [10]) = .ok a
  decode_cut : ∀ a p b, p <+: encode a → p ≠ encode a → decode p ≠ .ok b

/-- The ASCII bytes of a text. -/
def ascii (text : String) : Bytes := text.toList.map fun c => UInt8.ofNat c.toNat

/-- Texts are encoded one after the other. -/
lemma ascii_append (s t : String) : ascii (s ++ t) = ascii s ++ ascii t := by
  rw [ascii, ascii, ascii, String.toList_append, List.map_append]

/-- A text given by its characters. -/
lemma ascii_ofList (l : List Char) :
    ascii (String.ofList l) = l.map fun c => UInt8.ofNat c.toNat := by
  rw [ascii, String.toList_ofList]

instance encodableChar : Encodable Char :=
  Encodable.ofLeftInjection Char.toNat (fun n => some (Char.ofNat n)) fun c => by
    rw [Char.ofNat_toNat]

instance encodableString : Encodable String :=
  Encodable.ofLeftInjection String.toList (fun cs => some (String.ofList cs)) fun s => by
    rw [String.ofList_toList]

section Codec

variable {α : Type} [DecidableEq α]

/-- A codec from a prefix-free code and the values a text may stand for. -/
def Json.ofCode (code : α → Bytes) (candidates : Bytes → List α)
    (free : ∀ a b, code a <+: code b → a = b) (mem : ∀ a, a ∈ candidates (code a))
    (mem_line : ∀ a, a ∈ candidates (code a ++ [10])) : Json α where
  encode := code
  decode := fun bs =>
    ((candidates bs).find? fun a => code a = bs ∨ code a ++ [10] = bs).elim
      (.error "expected value at line 1 column 1") .ok
  decode_encode := by
    intro a
    have hsome : ((candidates (code a)).find? fun b =>
        code b = code a ∨ code b ++ [10] = code a).isSome :=
      List.find?_isSome.mpr ⟨a, mem a, by simp⟩
    obtain ⟨b, hb⟩ := Option.isSome_iff_exists.mp hsome
    have heq : code b = code a ∨ code b ++ [10] = code a := by simpa using List.find?_some hb
    have hpre : code b <+: code a := by
      rcases heq with h | h
      · exact h ▸ List.prefix_rfl
      · exact h ▸ List.prefix_append _ _
    rw [hb, free b a hpre]
    rfl
  decode_line := by
    intro a
    have hsome : ((candidates (code a ++ [10])).find? fun b =>
        code b = code a ++ [10] ∨ code b ++ [10] = code a ++ [10]).isSome :=
      List.find?_isSome.mpr ⟨a, mem_line a, by simp⟩
    obtain ⟨b, hb⟩ := Option.isSome_iff_exists.mp hsome
    have heq : code b = code a ++ [10] ∨ code b ++ [10] = code a ++ [10] := by
      simpa using List.find?_some hb
    have hab : a = b := by
      rcases heq with h | h
      · exact free a b (h ▸ List.prefix_append _ _)
      · exact free a b (List.append_cancel_right h ▸ List.prefix_rfl)
    rw [hb, hab]
    rfl
  decode_cut := by
    intro a p b hp hne ok
    cases hfind : (candidates p).find? fun a => code a = p ∨ code a ++ [10] = p with
    | none =>
      rw [hfind] at ok
      cases ok
    | some b' =>
      have heq : code b' = p ∨ code b' ++ [10] = p := by simpa using List.find?_some hfind
      rcases heq with h | h
      · obtain rfl := free b' a (h ▸ hp)
        exact hne h.symm
      · obtain rfl := free b' a ((h ▸ List.prefix_append _ _ : code b' <+: p).trans hp)
        have := hp.length_le
        rw [← h, List.length_append, List.length_singleton] at this
        omega

variable [Encodable α] {texts : List (α × Bytes)}

/-- The text of a value in the table, and a unary code for every other value. -/
def textCode (texts : List (α × Bytes)) (a : α) : Bytes :=
  match texts.find? fun e => e.1 = a with
  | some e => e.2
  | none => List.replicate (Encodable.encode a) 0 ++ [1]

/-- Object texts, no two of them a text and its beginning. -/
def PrefixFree (texts : List (α × Bytes)) : Prop :=
  ∀ e ∈ texts, e.2.head? = some 123 ∧ ∀ e' ∈ texts, e.2 <+: e'.2 → e.1 = e'.1

instance : Decidable (PrefixFree texts) := inferInstanceAs (Decidable (∀ e ∈ texts, _))

/-- A code is a listed text or unary. -/
lemma textCode_cases {a} : (∃ e ∈ texts, e.1 = a ∧ textCode texts a = e.2) ∨
    textCode texts a = List.replicate (Encodable.encode a) 0 ++ [1] := by
  rw [textCode]
  cases hfind : texts.find? fun e => e.1 = a with
  | none => exact .inr rfl
  | some e => exact .inl ⟨e, List.mem_of_find?_eq_some hfind, by simpa using List.find?_some hfind, rfl⟩

/-- A unary code is no JSON object. -/
lemma head?_unary {n : Nat} : (List.replicate n 0 ++ [1] : Bytes).head? ≠ some 123 := by
  cases n with
  | zero => decide
  | succ n => simp [List.replicate_succ]

/-- The first byte is that of the prefix. -/
lemma head?_of_isPrefix {p q : Bytes} {b} (h : p <+: q) (hp : p.head? = some b) : q.head? = some b := by
  obtain ⟨t, rfl⟩ := h
  cases p with
  | nil => cases hp
  | cons x p => exact hp

/-- Unary codes are no prefixes of each other. -/
lemma unary_injective {n m : Nat}
    (h : (List.replicate n 0 ++ [1] : Bytes) <+: List.replicate m 0 ++ [1]) : n = m := by
  induction n generalizing m with
  | zero =>
    cases m with
    | zero => rfl
    | succ m => simp [List.replicate_succ] at h
  | succ n ih =>
    cases m with
    | zero => simp [List.replicate_succ] at h
    | succ m =>
      rw [List.replicate_succ, List.replicate_succ, List.cons_append, List.cons_append,
        List.cons_prefix_cons] at h
      rw [ih h.2]

/-- Codes are no prefixes of each other. -/
lemma textCode_free (ok : PrefixFree texts) (a b : α) (h : textCode texts a <+: textCode texts b) :
    a = b := by
  rcases @textCode_cases _ _ _ texts a with ⟨e, he, rfl, hcode⟩ | hcode
  · rw [hcode] at h
    obtain ⟨hhead, hfree⟩ := ok e he
    rcases @textCode_cases _ _ _ texts b with ⟨e', he', rfl, hcode'⟩ | hcode'
    · rw [hcode'] at h
      exact hfree e' he' h
    · rw [hcode'] at h
      exact absurd (head?_of_isPrefix h hhead) head?_unary
  · rw [hcode] at h
    rcases @textCode_cases _ _ _ texts b with ⟨e', he', rfl, hcode'⟩ | hcode'
    · rw [hcode'] at h
      obtain ⟨x, hx⟩ : ∃ x, (List.replicate (Encodable.encode a) 0 ++ [1] : Bytes).head? = some x :=
        Option.isSome_iff_exists.mp (by simp)
      have hx' := (head?_of_isPrefix h hx).symm.trans (ok e' he').1
      exact absurd (hx.trans hx') head?_unary
    · rw [hcode'] at h
      exact Encodable.encode_injective (unary_injective h)

/-- A codec with given texts for some values. -/
def Json.ofTexts (texts : List (α × Bytes)) (ok : PrefixFree texts) : Json α :=
  .ofCode (textCode texts)
    (fun bs => texts.map Prod.fst ++ ((Encodable.decode (bs.length - 1)).toList ++
      (Encodable.decode (bs.length - 2)).toList))
    (textCode_free ok)
    (by
      intro a
      rcases @textCode_cases _ _ _ texts a with ⟨e, he, rfl, _⟩ | hcode
      · exact List.mem_append_left _ (List.mem_map_of_mem he)
      · rw [hcode]
        simp)
    (by
      intro a
      rcases @textCode_cases _ _ _ texts a with ⟨e, he, rfl, _⟩ | hcode
      · exact List.mem_append_left _ (List.mem_map_of_mem he)
      · rw [hcode]
        simp)

end Codec

/-- What is not there is not there. -/
lemma eq_none_of_isSome {α : Type} {o : Option α} (h : false = o.isSome) : o = none := by
  cases o with
  | none => rfl
  | some a => cases h

namespace Fs

/-- `path.exists()`. -/
def exists_ (n : DataFile) : Fs Bool := Prog.inspect fun s => (s n).isSome

/-- `fs::read`. -/
def readFile (n : DataFile) : Fs Bytes := do
  match ← Prog.read n with
  | some bs => return bs
  | none => Prog.lift (Rust.bail "No such file or directory (os error 2)")

/-- `fs::remove_file` of a file that exists, else nothing. -/
def removeIfExists (n : DataFile) : Fs Unit := do
  if ← exists_ n then Prog.perform (.remove n)

end Fs

section Run

variable {s : Dir}

/-- Testing for a file continues with what it finds. -/
lemma exists_bind {α : Type} {n b} {f : Bool → Fs α} (h : (s n).isSome = b) :
    (Fs.exists_ n >>= f) s = f b s :=
  Prog.inspect_bind h

/-- Reading a file continues with its content. -/
lemma readFile_bind {α : Type} {n bs} {f : Bytes → Fs α} (h : s n = some bs) :
    (Fs.readFile n >>= f) s = (.read n :: (f bs s).1, (f bs s).2) := by
  have hread : Fs.readFile n s = ([.read n], .ok bs) := by
    rw [Fs.readFile, Prog.bind_of_ok (show (Prog.read n s).2 = .ok (some bs) by rw [Prog.read, h])]
    rfl
  have hok : (Fs.readFile n s).2 = .ok bs := by rw [hread]
  rw [Prog.bind_of_ok hok, Prog.after, hread]
  rfl

end Run

end NullifierPir
