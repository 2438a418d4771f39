import Mathlib
import NullifierPir.Lib.Utf8
import NullifierPir.Rust

/-!
# Prometheus text parser

Port of `parse_line` and `parse_labels` of `deploy/pir-apm/src/metrics.rs`. A `&str` is a `Text`:
slices are taken at byte positions and panic at one inside a character. The number parser and the
quoting of its error are parameters.

`parseLabel` is one pass of the loop of `parse_labels`. On any input it starts and ends between two
characters (`parseLabel_spec`), from which the parser never panics; on a written entry it returns the
name and the bytes of the value, each as a character of its own (`parseLabel_entry`).
-/

namespace NullifierPir.Apm
open Utf8 Rust

/-! ### Strings -/

/-- ASCII white space (Rust `u8::is_ascii_whitespace`). -/
def isAsciiWhitespace (b : UInt8) : Bool :=
  b == 0x20 || b == 0x09 || b == 0x0a || b == 0x0c || b == 0x0d

/-- Byte position of the first character that satisfies `p` (Rust `str::find`). -/
def find (p : Char → Bool) (s : Text) : Option Nat :=
  if s.any p then some (byteLen (s.takeWhile fun c => !p c)) else none

/-- Byte position of the last character that satisfies `p` (Rust `str::rfind`). -/
def rfind (p : Char → Bool) (s : Text) : Option Nat :=
  if s.any p then some (byteLen (s.rdropWhile fun c => !p c).dropLast) else none

/-- The slice `s[from..to]`. -/
def slice (s : Text) (start stop : Nat) : Rust Text :=
  if start ≤ stop then
    match splitAt s stop with
    | none => panicked "byte index is not a char boundary"
    | some (front, _) =>
      match splitAt front start with
      | none => panicked "byte index is not a char boundary"
      | some (_, middle) => .ok middle
  else panicked "slice index starts after it ends"

/-! ### Labels -/

/-- Advance a cursor over the bytes that satisfy `p`. -/
def scanWhile (p : UInt8 → Bool) (bytes : List UInt8) (cursor : Nat) : Nat :=
  cursor + ((bytes.drop cursor).takeWhile p).length

def isSeparator (b : UInt8) : Bool := b == ascii ',' || isAsciiWhitespace b

/-- The character of an escape. -/
def unescape (b : UInt8) : Char :=
  if b = ascii 'n' then '\n'
  else if b = ascii '\\' then '\\'
  else if b = ascii '"' then '"'
  else byteAsChar b

/-- The loop over a quoted value: the bytes from the cursor on, the value so far and the cursor. -/
def readValue : List UInt8 → Text → Nat → Rust (Text × Nat)
  | [], _, _ => bail "unterminated quoted label value"
  | b :: rest, value, cursor =>
    if b = ascii '"' then .ok (value, cursor + 1)
    else if b = ascii '\\' then
      match rest with
      | [] => bail "unterminated label escape"
      | e :: rest => readValue rest (value ++ [unescape e]) (cursor + 2)
    else readValue rest (value ++ [byteAsChar b]) (cursor + 1)

/-- The rest of a pass, from the start of a key: the label read and the new cursor. -/
def parseEntry (input : Text) (keyStart : Nat) : Rust ((Text × Text) × Nat) := do
  let bytes := encode input
  let keyEnd := scanWhile (fun b => b != ascii '=') bytes keyStart
  ensure (keyEnd != bytes.length) "label missing '='"
  let key ← slice input keyStart keyEnd
  ensure (bytes[keyEnd + 1]? == some (ascii '"')) "label value must be quoted"
  let (value, cursor) ← readValue (bytes.drop (keyEnd + 2)) [] (keyEnd + 2)
  return ((trim key, value), cursor)

/-- One pass of the loop of `parse_labels`: the label read and the new cursor, or nothing when only
separators are left. -/
def parseLabel (input : Text) (cursor : Nat) : Rust (Option ((Text × Text) × Nat)) :=
  let keyStart := scanWhile isSeparator (encode input) cursor
  if keyStart = byteLen input then .ok none else do return some (← parseEntry input keyStart)

/-- The loop of `parse_labels`, for at most the given number of passes. -/
def parseLabelsFrom (input : Text) : Nat → Nat → Std.HashMap Text Text →
    Rust (Std.HashMap Text Text)
  | 0, _, _ => .error .diverge
  | passes + 1, cursor, labels =>
    if cursor < byteLen input then do
      match ← parseLabel input cursor with
      | none => return labels
      | some ((key, value), cursor) => parseLabelsFrom input passes cursor (labels.insert key value)
    else .ok labels

/-- Rust `parse_labels`. -/
def parseLabels (input : Text) : Rust (Std.HashMap Text Text) :=
  parseLabelsFrom input (byteLen input + 1) 0 ∅

/-! ### Lines -/

/-- The number parser, and the quoted form of a text that it rejects. -/
structure NumberParser (V : Type) where
  parse : Text → Option V
  debug : Text → String

/-- Rust `ParsedSample`. -/
structure ParsedSample (V : Type) where
  name : Text
  labels : Std.HashMap Text Text
  value : V

/-- Name and labels of a descriptor. -/
def parseDescriptor (descriptor : Text) : Rust (Text × Std.HashMap Text Text) :=
  match find (fun c => c == '\x7b') descriptor with
  | none => .ok (descriptor, ∅)
  | some start => do
    ensure (descriptor.getLast? == some '\x7d') "unterminated label set"
    let name ← slice descriptor 0 start
    let labels ← parseLabels (← slice descriptor (start + 1) (byteLen descriptor - 1))
    return (name, labels)

/-- Rust `parse_line`. -/
def parseLine {V : Type} (number : NumberParser V) (line : Text) : Rust (ParsedSample V) := do
  let split ← ofOption "missing metric value" (rfind isWhitespace line)
  let descriptor := trimEnd (← slice line 0 split)
  let valueText := trim (← slice line split (byteLen line))
  let value ← ofOption ("invalid metric value " ++ number.debug valueText)
    (number.parse valueText)
  let (name, labels) ← parseDescriptor descriptor
  ensure (!name.isEmpty) "empty metric name"
  return ⟨name, labels, value⟩

/-! ### No panic -/

/-- A slice between two positions that split the text. -/
lemma slice_append (a b c : Text) :
    slice (a ++ b ++ c) (byteLen a) (byteLen (a ++ b)) = .ok b := by
  have hle : byteLen a ≤ byteLen (a ++ b) := by
    rw [byteLen_append]
    exact Nat.le_add_right ..
  rw [slice, if_pos hle, splitAt_append]
  dsimp only
  rw [splitAt_append]

/-- A slice up to a position that splits the text. -/
lemma slice_take (a b : Text) : slice (a ++ b) 0 (byteLen a) = .ok a := slice_append [] a b

/-- A slice from a position that splits the text. -/
lemma slice_drop (a b : Text) : slice (a ++ b) (byteLen a) (byteLen (a ++ b)) = .ok b := by
  have h := slice_append a b []
  rw [List.append_nil] at h
  exact h

/-- A scan over the encoding of a text goes on behind it. -/
lemma scanWhile_append (p : UInt8 → Bool) (s t : Text) :
    scanWhile p (encode (s ++ t)) (byteLen s) = byteLen s + ((encode t).takeWhile p).length := by
  rw [scanWhile, drop_byteLen]

/-- A scan over bytes below 128 stops between two characters. -/
lemma exists_split_of_ascii {s : Text} {l l' : List UInt8} (h : encode s = l ++ l')
    (hl : ∀ b ∈ l, b.toNat < 128) : ∃ t t', s = t ++ t' ∧ encode t = l ∧ encode t' = l' := by
  cases l using List.reverseRecOn with
  | nil => exact ⟨[], s, rfl, rfl, h⟩
  | append_singleton l b =>
    rw [List.append_assoc, List.singleton_append] at h
    obtain ⟨t, c, t', rfl, ht, hc, hcb, ht'⟩ := exists_char_of_ascii h (hl b (by simp))
    refine ⟨t ++ [c], t', by simp, ?_, ht'⟩
    rw [encode_append, ht, encode_cons, encodeChar_of_lt hc, hcb]
    rfl

/-- Separators are ASCII. -/
lemma lt_of_isSeparator {b : UInt8} (h : isSeparator b = true) : b.toNat < 128 := by
  simp only [isSeparator, isAsciiWhitespace, Bool.or_eq_true, beq_iff_eq] at h
  rcases h with rfl | (((rfl | rfl) | rfl) | rfl) | rfl <;> decide

/-- The bytes up to a scanned-for byte, the byte and the rest. -/
lemma takeWhile_split {p : UInt8 → Bool} {l : List UInt8} (h : (l.takeWhile p).length ≠ l.length) :
    ∃ b rest, l = l.takeWhile p ++ b :: rest ∧ p b = false := by
  induction l with
  | nil => exact absurd rfl h
  | cons x l ih =>
    cases hx : p x with
    | false => exact ⟨x, l, by simp [hx], hx⟩
    | true =>
      rw [List.takeWhile_cons_of_pos hx] at h ⊢
      obtain ⟨b, rest, hrest, hb⟩ := ih fun heq => h (congrArg Nat.succ heq)
      exact ⟨b, rest, by rw [List.cons_append, ← hrest], hb⟩

/-- A quoted value ends behind a quote. -/
lemma readValue_spec (bytes : List UInt8) (value : Text) (cursor : Nat) :
    Graceful (readValue bytes value cursor) ∧
    ∀ value' cursor', readValue bytes value cursor = .ok (value', cursor') →
      ∃ l l', bytes = l ++ ascii '"' :: l' ∧ cursor' = cursor + l.length + 1 := by
  fun_induction readValue bytes value cursor with
  | case1 value cursor => exact ⟨.bail, fun _ _ h => by cases h⟩
  | case2 rest value cursor =>
    refine ⟨.ok, fun value' cursor' h => ⟨[], rest, rfl, ?_⟩⟩
    cases h
    rfl
  | case3 value cursor => exact ⟨.bail, fun _ _ h => by cases h⟩
  | case4 value cursor e rest _ ih =>
    refine ⟨ih.1, fun value' cursor' h => ?_⟩
    obtain ⟨l, l', rfl, rfl⟩ := ih.2 value' cursor' h
    refine ⟨ascii '\\' :: e :: l, l', rfl, ?_⟩
    simp only [List.length_cons]
    omega
  | case5 b rest value cursor _ _ ih =>
    refine ⟨ih.1, fun value' cursor' h => ?_⟩
    obtain ⟨l, l', rfl, rfl⟩ := ih.2 value' cursor' h
    refine ⟨b :: l, l', rfl, ?_⟩
    simp only [List.length_cons]
    omega

/-- A pass on a key and what follows its equals sign. -/
lemma parseEntry_eq (s key u : Text) (hkey : ∀ b ∈ encode key, b ≠ ascii '=') :
    parseEntry (s ++ (key ++ '=' :: u)) (byteLen s) = do
      ensure ((encode u)[0]? == some (ascii '"')) "label value must be quoted"
      let (value, cursor) ← readValue ((encode u).drop 1) [] (byteLen (s ++ key) + 2)
      return ((trim key, value), cursor) := by
  have hbytes : encode ('=' :: u) = ascii '=' :: encode u := by
    rw [encode_cons, encodeChar_of_lt (by decide)]
    rfl
  have hscan : ((encode (key ++ '=' :: u)).takeWhile fun b => b != ascii '=') = encode key := by
    rw [encode_append, List.takeWhile_append_of_pos fun b hb => by simpa using hkey b hb, hbytes,
      List.takeWhile_cons_of_neg (by simp), List.append_nil]
  have hassoc : s ++ (key ++ '=' :: u) = s ++ key ++ '=' :: u := (List.append_assoc ..).symm
  have hend : byteLen s + (encode key).length = byteLen (s ++ key) := (byteLen_append s key).symm
  have hdrop (n : Nat) : (encode (s ++ key ++ '=' :: u)).drop (byteLen (s ++ key) + n) =
      (ascii '=' :: encode u).drop n := by
    rw [← List.drop_drop, drop_byteLen, hbytes]
  have hquote : (encode (s ++ key ++ '=' :: u))[byteLen (s ++ key) + 1]? = (encode u)[0]? := by
    rw [← List.head?_drop, hdrop 1, List.head?_eq_getElem?]
    rfl
  have hlen : (byteLen (s ++ key) != (encode (s ++ key ++ '=' :: u)).length) = true := by
    rw [encode_append, hbytes, List.length_append, List.length_cons, bne_iff_ne, byteLen]
    omega
  rw [parseEntry]
  simp only [scanWhile_append, hscan, hend]
  rw [hassoc, slice_append, ensure_pos hlen, hquote, hdrop 2]
  rfl

/-- From the start of a key a pass ends between two characters, and does not panic. -/
lemma parseEntry_spec (s t : Text) :
    Graceful (parseEntry (s ++ t) (byteLen s)) ∧
    ∀ entry cursor, parseEntry (s ++ t) (byteLen s) = .ok (entry, cursor) →
      ∃ s' t', s ++ t = s' ++ t' ∧ cursor = byteLen s' ∧ byteLen s < cursor := by
  by_cases hfound : ((encode t).takeWhile fun b => b != ascii '=').length = (encode t).length
  · have hlen : (encode (s ++ t)).length = byteLen s + (encode t).length := by
      rw [encode_append, List.length_append]
      rfl
    rw [parseEntry]
    simp only [scanWhile_append]
    rw [hfound, hlen, bne_self_eq_false]
    exact ⟨.bail, fun entry cursor h => by cases h⟩
  obtain ⟨b, rest, hsplit, hb⟩ := takeWhile_split hfound
  obtain rfl : b = ascii '=' := by simpa using hb
  obtain ⟨key, c, u, rfl, hkey, hc, hceq, hu⟩ := exists_char_of_ascii hsplit (by decide)
  obtain rfl := (ascii_inj hc (by decide)).mp hceq
  have hnone : ∀ b ∈ encode key, b ≠ ascii '=' := by
    rw [hkey]
    intro b hb
    simpa using List.mem_takeWhile_imp hb
  rw [parseEntry_eq s key u hnone]
  refine ⟨.bind .ensure fun _ _ => .bind (readValue_spec ..).1 fun _ _ => .ok, fun entry cursor h => ?_⟩
  obtain ⟨_, hquote, h⟩ := bind_eq_ok.mp h
  obtain ⟨⟨value, cursor'⟩, hvalue, h⟩ := bind_eq_ok.mp h
  cases h
  obtain ⟨l, l', hrest, rfl⟩ := (readValue_spec ..).2 _ _ hvalue
  -- the opening quote and the closing quote are characters of the text
  rw [ensure_eq_ok, beq_iff_eq] at hquote
  have hopen : encode u = [] ++ ascii '"' :: (l ++ ascii '"' :: l') := by
    cases hbytes : encode u with
    | nil =>
      rw [hbytes] at hquote
      cases hquote
    | cons x xs =>
      rw [hbytes] at hquote hrest
      cases hquote
      rw [← hrest]
      rfl
  obtain ⟨e, c, v, rfl, he, hc', hceq', hv⟩ := exists_char_of_ascii hopen (by decide)
  obtain ⟨w, d, x, rfl, hw, hd, hdeq, _⟩ := exists_char_of_ascii hv (by decide)
  refine ⟨s ++ key ++ '=' :: (e ++ c :: (w ++ [d])), x, by simp, ?_, ?_⟩
  · simp only [byteLen, encode_append, encode_cons, he, hw, encodeChar_of_lt hc', encodeChar_of_lt hd,
      encodeChar_of_lt hc, List.length_append, List.length_cons, List.length_nil, encode_nil]
    omega
  · rw [byteLen_append]
    omega

/-- One pass starts and ends between two characters, and does not panic. -/
lemma parseLabel_spec (s t : Text) :
    Graceful (parseLabel (s ++ t) (byteLen s)) ∧
    ∀ entry cursor, parseLabel (s ++ t) (byteLen s) = .ok (some (entry, cursor)) →
      ∃ s' t', s ++ t = s' ++ t' ∧ cursor = byteLen s' ∧ byteLen s < cursor := by
  -- the key starts behind separators
  obtain ⟨sep, u, rfl, hsep, hu⟩ := @exists_split_of_ascii t ((encode t).takeWhile isSeparator)
    ((encode t).dropWhile isSeparator) (List.takeWhile_append_dropWhile ..).symm
    fun b hb => lt_of_isSeparator (List.mem_takeWhile_imp hb)
  have hstart : scanWhile isSeparator (encode (s ++ (sep ++ u))) (byteLen s) =
      byteLen (s ++ sep) := by
    rw [scanWhile_append, ← hsep, byteLen_append]
    rfl
  have hassoc : s ++ (sep ++ u) = s ++ sep ++ u := (List.append_assoc ..).symm
  rw [parseLabel]
  simp only [hstart]
  by_cases hnone : byteLen (s ++ sep) = byteLen (s ++ (sep ++ u))
  · rw [if_pos hnone]
    exact ⟨.ok, fun entry cursor h => by cases h⟩
  rw [if_neg hnone, hassoc]
  obtain ⟨hgraceful, hends⟩ := parseEntry_spec (s ++ sep) u
  refine ⟨.bind hgraceful fun _ _ => .ok, fun entry cursor h => ?_⟩
  obtain ⟨⟨entry', cursor'⟩, hentry, h⟩ := bind_eq_ok.mp h
  cases h
  obtain ⟨s', t', hsplit, hcursor, hlt⟩ := hends _ _ hentry
  refine ⟨s', t', hsplit, hcursor, lt_of_le_of_lt ?_ hlt⟩
  rw [byteLen_append]
  exact Nat.le_add_right ..

/-- The loop never panics, and the length of the rest of the input bounds its passes. -/
lemma parseLabelsFrom_graceful {passes : Nat} (s t : Text) (labels : Std.HashMap Text Text)
    (hpasses : byteLen t < passes) :
    Graceful (parseLabelsFrom (s ++ t) passes (byteLen s) labels) := by
  induction passes generalizing s t labels with
  | zero => exact absurd hpasses (Nat.not_lt_zero _)
  | succ passes ih =>
    rw [parseLabelsFrom]
    obtain ⟨hgraceful, hends⟩ := parseLabel_spec s t
    split
    · refine .bind hgraceful fun pass hpass => ?_
      cases pass with
      | none => exact .ok
      | some pass =>
        obtain ⟨⟨key, value⟩, cursor⟩ := pass
        obtain ⟨s', t', hsplit, rfl, hlt⟩ := hends _ _ hpass
        have hlen := congrArg byteLen hsplit
        rw [byteLen_append, byteLen_append] at hlen
        rw [hsplit]
        exact ih s' t' _ (by omega)
    · exact .ok

/-- Parsing labels does not panic. -/
lemma parseLabels_graceful (input : Text) : Graceful (parseLabels input) :=
  parseLabelsFrom_graceful [] input ∅ (Nat.lt_succ_self _)

/-- The first character that satisfies `p` splits the text. -/
lemma find_append {p : Char → Bool} {s t : Text} {c : Char} (hs : ∀ d ∈ s, p d = false)
    (hc : p c = true) : find p (s ++ c :: t) = some (byteLen s) := by
  have hany : (s ++ c :: t).any p = true := List.any_eq_true.mpr ⟨c, by simp, hc⟩
  have hstop : (c :: t).takeWhile (fun d => !p d) = [] := by simp [hc]
  rw [find, if_pos hany, List.takeWhile_append_of_pos fun d hd => by simp [hs d hd], hstop,
    List.append_nil]

/-- The last character that satisfies `p` splits the text. -/
lemma rfind_append {p : Char → Bool} {s t : Text} {c : Char} (hc : p c = true)
    (ht : ∀ d ∈ t, p d = false) : rfind p (s ++ c :: t) = some (byteLen s) := by
  have hany : (s ++ c :: t).any p = true := List.any_eq_true.mpr ⟨c, by simp, hc⟩
  have hdrop : (s ++ c :: t).rdropWhile (fun d => !p d) = s ++ [c] := by
    have hrev : (s ++ c :: t).reverse = t.reverse ++ c :: s.reverse := by simp
    have hstop : (c :: s.reverse).dropWhile (fun d => !p d) = c :: s.reverse := by simp [hc]
    rw [List.rdropWhile, hrev, List.dropWhile_append_of_pos fun d hd => by
      simp [ht d (List.mem_reverse.mp hd)], hstop]
    simp
  rw [rfind, if_pos hany, hdrop, List.dropLast_concat]

/-- A text with a character that satisfies `p` has a first one. -/
lemma exists_first {p : Char → Bool} {s : Text} (h : s.any p = true) :
    ∃ t c t', s = t ++ c :: t' ∧ p c = true ∧ ∀ d ∈ t, p d = false := by
  induction s with
  | nil => cases h
  | cons c s ih =>
    cases hc : p c with
    | true => exact ⟨[], c, s, rfl, hc, fun d hd => absurd hd List.not_mem_nil⟩
    | false =>
      rw [List.any_cons, hc, Bool.false_or] at h
      obtain ⟨t, d, t', rfl, hd, ht⟩ := ih h
      refine ⟨c :: t, d, t', rfl, hd, fun e he => ?_⟩
      rcases List.mem_cons.mp he with rfl | he
      · exact hc
      · exact ht e he

/-- A text with a character that satisfies `p` has a last one. -/
lemma exists_last {p : Char → Bool} {s : Text} (h : s.any p = true) :
    ∃ t c t', s = t ++ c :: t' ∧ p c = true ∧ ∀ d ∈ t', p d = false := by
  rw [← List.any_reverse] at h
  obtain ⟨t, c, t', hsplit, hc, ht⟩ := exists_first h
  refine ⟨t'.reverse, c, t.reverse, ?_, hc, fun d hd => ht d (List.mem_reverse.mp hd)⟩
  rw [← List.reverse_reverse s, hsplit]
  simp

/-- A descriptor with braces. -/
lemma parseDescriptor_braces {name : Text} (body : Text) (hname : ∀ c ∈ name, c ≠ '\x7b') :
    parseDescriptor (name ++ '\x7b' :: (body ++ ['\x7d'])) =
      parseLabels body >>= fun labels => .ok (name, labels) := by
  have hfind : find (fun c => c == '\x7b') (name ++ '\x7b' :: (body ++ ['\x7d'])) =
      some (byteLen name) := find_append (fun d hd => by simpa using hname d hd) rfl
  have hlast : ((name ++ '\x7b' :: (body ++ ['\x7d'])).getLast? == some '\x7d') = true := by
    simp [List.getLast?_append, List.getLast?_cons]
  have hassoc : name ++ '\x7b' :: (body ++ ['\x7d']) = name ++ ['\x7b'] ++ body ++ ['\x7d'] := by simp
  have hbody : slice (name ++ '\x7b' :: (body ++ ['\x7d'])) (byteLen name + 1)
      (byteLen (name ++ '\x7b' :: (body ++ ['\x7d'])) - 1) = .ok body := by
    have hstart : byteLen name + 1 = byteLen (name ++ ['\x7b']) :=
      (byteLen_append name ['\x7b']).symm
    have hstop : byteLen (name ++ '\x7b' :: (body ++ ['\x7d'])) - 1 =
        byteLen (name ++ ['\x7b'] ++ body) := by
      rw [hassoc, byteLen_append _ ['\x7d']]
      rfl
    rw [hstart, hstop, hassoc]
    exact slice_append (name ++ ['\x7b']) body ['\x7d']
  rw [parseDescriptor, hfind]
  dsimp only
  rw [ensure_pos hlast, slice_take, hbody]
  rfl

/-- Parsing a descriptor does not panic. -/
lemma parseDescriptor_graceful (descriptor : Text) : Graceful (parseDescriptor descriptor) := by
  cases hany : descriptor.any fun c => c == '\x7b' with
  | false =>
    rw [parseDescriptor, find, hany]
    exact .ok
  | true =>
    obtain ⟨name, c, rest, rfl, hc, hname⟩ := exists_first hany
    obtain rfl : c = '\x7b' := by simpa using hc
    cases rest using List.reverseRecOn with
    | nil =>
      rw [parseDescriptor, find_append hname rfl]
      refine .bind .ensure fun _ hlast => ?_
      simp at hlast
    | append_singleton body last =>
      by_cases hlast : last = '\x7d'
      · subst hlast
        rw [parseDescriptor_braces body fun c hc => by simpa using hname c hc]
        exact .bind (parseLabels_graceful body) fun _ _ => .ok
      · rw [parseDescriptor, find_append hname rfl]
        refine .bind .ensure fun _ hok => ?_
        simp [List.getLast?_append, List.getLast?_cons, hlast] at hok

/-- A line at its last white space. -/
lemma parseLine_eq {V : Type} (number : NumberParser V) {s t : Text} {c : Char}
    (hc : isWhitespace c = true) (ht : ∀ d ∈ t, isWhitespace d = false) :
    parseLine number (s ++ c :: t) = do
      let value ← ofOption ("invalid metric value " ++ number.debug (trim (c :: t)))
        (number.parse (trim (c :: t)))
      let (name, labels) ← parseDescriptor (trimEnd s)
      ensure (!name.isEmpty) "empty metric name"
      return ⟨name, labels, value⟩ := by
  rw [parseLine, rfind_append hc ht]
  dsimp only [ofOption]
  rw [ok_bind, slice_take, ok_bind, slice_drop, ok_bind]

/-- Parsing a line does not panic, whatever the text. -/
lemma parseLine_graceful {V : Type} (number : NumberParser V) (line : Text) :
    Graceful (parseLine number line) := by
  cases hany : line.any isWhitespace with
  | false =>
    rw [parseLine, rfind, hany]
    exact .bail
  | true =>
    obtain ⟨s, c, t, rfl, hc, ht⟩ := exists_last hany
    rw [parseLine_eq number hc ht]
    refine .bind .ofOption fun _ _ => ?_
    exact .bind (parseDescriptor_graceful _) fun _ _ => .bind .ensure fun _ _ => .ok

/-! ### Written lines -/

/-- Names of labels in the exposition format. -/
def isLabelName (s : Text) : Bool :=
  (s.head?.any fun c => c.isAlpha || c == '_') && s.all fun c => c.isAlphanum || c == '_'

/-- Names of metrics in the exposition format. -/
def isMetricName (s : Text) : Bool :=
  (s.head?.any fun c => c.isAlpha || c == '_' || c == ':') &&
    s.all fun c => c.isAlphanum || c == '_' || c == ':'

/-- A finite map from label names to values, with an order of its entries. -/
structure LabelMap where
  entries : List (Text × Text)
  names : ∀ entry ∈ entries, isLabelName entry.1 = true
  nodup : (entries.map Prod.fst).Nodup

/-- A character of a written value. -/
def escapeChar (c : Char) : Text :=
  if c = '\\' then ['\\', '\\']
  else if c = '"' then ['\\', '"']
  else if c = '\n' then ['\\', 'n']
  else [c]

def escape (value : Text) : Text := value.flatMap escapeChar

def writeEntry (entry : Text × Text) : Text := entry.1 ++ '=' :: '"' :: (escape entry.2 ++ ['"'])

def writeLabels (entries : List (Text × Text)) : Text :=
  List.intercalate [','] (entries.map writeEntry)

/-- A sample line of the exposition format; the braces of an empty label set may be left out. -/
def sampleLine (bare : Bool) (name : Text) (labels : LabelMap) (valueText : Text) : Text :=
  name ++ (if bare && labels.entries.isEmpty then []
    else '\x7b' :: (writeLabels labels.entries ++ ['\x7d'])) ++ ' ' :: valueText

/-- The parser reads a written line back. -/
def ReadsBack {V : Type} (number : NumberParser V) (bare : Bool) (name : Text) (labels : LabelMap)
    (valueText : Text) (value : V) : Prop :=
  ∃ sample, parseLine number (sampleLine bare name labels valueText) = .ok sample ∧
    sample.name = name ∧ (∀ key, sample.labels[key]? = labels.entries.lookup key) ∧
    sample.value = value

/-- Bytes that are neither quotes nor backslashes become characters one by one. -/
lemma readValue_plain {l : List UInt8} (h : ∀ b ∈ l, b ≠ ascii '"' ∧ b ≠ ascii '\\')
    (bytes : List UInt8) (value : Text) (cursor : Nat) :
    readValue (l ++ bytes) value cursor =
      readValue bytes (value ++ l.map byteAsChar) (cursor + l.length) := by
  induction l generalizing value cursor with
  | nil => simp
  | cons b l ih =>
    obtain ⟨hquote, hslash⟩ := h b List.mem_cons_self
    rw [List.cons_append, readValue.eq_def]
    dsimp only
    rw [if_neg hquote, if_neg hslash, ih fun b hb => h b (List.mem_cons_of_mem _ hb)]
    simp [Nat.add_comm, Nat.add_left_comm]

/-- A written character is read as the bytes of the character. -/
lemma readValue_escapeChar (c : Char) (bytes : List UInt8) (value : Text) (cursor : Nat) :
    readValue (encode (escapeChar c) ++ bytes) value cursor =
      readValue bytes (value ++ (String.utf8EncodeChar c).map byteAsChar)
        (cursor + byteLen (escapeChar c)) := by
  rw [escapeChar]
  split
  · subst c
    rfl
  split
  · subst c
    rfl
  split
  · subst c
    rfl
  rename_i hslash hquote _
  have hencode : encode [c] = String.utf8EncodeChar c := by rw [encode_cons, encode_nil, List.append_nil]
  have hplain : ∀ b ∈ String.utf8EncodeChar c, b ≠ ascii '"' ∧ b ≠ ascii '\\' := by
    by_cases hc : c.toNat < 128
    · rw [encodeChar_of_lt hc]
      intro b hb
      obtain rfl := List.mem_singleton.mp hb
      rw [Ne, Ne, ascii_inj hc (by decide), ascii_inj hc (by decide)]
      exact ⟨hquote, hslash⟩
    · intro b hb
      have hle := le_of_mem_encodeChar hc b hb
      constructor
      · rintro rfl
        exact absurd hle (by decide)
      · rintro rfl
        exact absurd hle (by decide)
  rw [byteLen, hencode]
  exact readValue_plain hplain bytes value cursor

/-- A written value is read as its bytes. -/
lemma readValue_escape (v t : Text) (value : Text) (cursor : Nat) :
    readValue (encode (escape v ++ '"' :: t)) value cursor =
      .ok (value ++ latin1 v, cursor + byteLen (escape v) + 1) := by
  induction v generalizing value cursor with
  | nil =>
    have hbytes : encode ('"' :: t) = ascii '"' :: encode t := rfl
    rw [escape, List.flatMap_nil, List.nil_append, hbytes, readValue.eq_def]
    dsimp only
    rw [if_pos rfl, latin1, encode_nil, List.map_nil, List.append_nil, byteLen_nil]
  | cons c v ih =>
    have hcons : escape (c :: v) = escapeChar c ++ escape v := List.flatMap_cons
    rw [hcons, List.append_assoc, encode_append, readValue_escapeChar, ih, byteLen_append]
    simp [latin1, encode_cons, Nat.add_assoc]

/-- Alphanumerics are ASCII. -/
lemma toNat_lt_of_isAlphanum {c : Char} (h : c.isAlphanum = true) : c.toNat < 128 := by
  simp only [Char.isAlphanum, Char.isAlpha, Char.isUpper, Char.isLower, Char.isDigit, Bool.or_eq_true,
    Bool.and_eq_true, decide_eq_true_eq, UInt32.le_iff_toNat_le] at h
  rcases h with (h | h) | h
  · exact lt_of_le_of_lt (b := 90) h.2 (by decide)
  · exact lt_of_le_of_lt (b := 122) h.2 (by decide)
  · exact lt_of_le_of_lt (b := 57) h.2 (by decide)

/-- Characters of names are below 128, and no other character the parser looks for is one. -/
lemma nameChar_spec {c : Char} (h : (c.isAlphanum || c == '_' || c == ':') = true) :
    c.toNat < 128 ∧ isSeparator (ascii c) = false ∧ ascii c ≠ ascii '=' ∧
      isWhitespace c = false ∧ c ≠ '\x7b' := by
  have hlt : c.toNat < 128 := by
    simp only [Bool.or_eq_true, beq_iff_eq] at h
    rcases h with (h | rfl) | rfl
    · exact toNat_lt_of_isAlphanum h
    · decide
    · decide
  have hall : ∀ n : Fin 128,
      (((Char.ofNat n).isAlphanum || Char.ofNat n == '_' || Char.ofNat n == ':') = true →
        isSeparator (ascii (Char.ofNat n)) = false ∧ ascii (Char.ofNat n) ≠ ascii '=' ∧
          isWhitespace (Char.ofNat n) = false ∧ Char.ofNat n ≠ '\x7b') := by decide
  have hc := hall ⟨c.toNat, hlt⟩
  simp only [Char.ofNat_toNat] at hc
  exact ⟨hlt, hc h⟩

/-- Characters of a label name. -/
lemma isLabelName_mem {s : Text} (h : isLabelName s = true) {c : Char} (hc : c ∈ s) :
    (c.isAlphanum || c == '_' || c == ':') = true := by
  rw [isLabelName, Bool.and_eq_true, List.all_eq_true] at h
  rw [h.2 c hc, Bool.true_or]

/-- Characters of a metric name. -/
lemma isMetricName_mem {s : Text} (h : isMetricName s = true) {c : Char} (hc : c ∈ s) :
    (c.isAlphanum || c == '_' || c == ':') = true := by
  rw [isMetricName, Bool.and_eq_true, List.all_eq_true] at h
  exact h.2 c hc

/-- The bytes of a label name. -/
lemma encode_labelName {s : Text} (h : isLabelName s = true) :
    (∀ b ∈ encode s, b ≠ ascii '=') ∧ ∃ b rest, encode s = b :: rest ∧ isSeparator b = false := by
  constructor
  · intro b hb
    obtain ⟨c, hc, hb⟩ := List.mem_flatMap.mp hb
    obtain ⟨hlt, _, hne, _⟩ := nameChar_spec (isLabelName_mem h hc)
    rw [encodeChar_of_lt hlt] at hb
    obtain rfl := List.mem_singleton.mp hb
    exact hne
  · cases s with
    | nil => cases h
    | cons c s =>
      obtain ⟨hlt, hsep, _⟩ := nameChar_spec (isLabelName_mem h List.mem_cons_self)
      refine ⟨ascii c, encode s, ?_, hsep⟩
      rw [encode_cons, encodeChar_of_lt hlt]
      rfl

/-- One pass reads a written entry behind separators. -/
lemma parseLabel_entry {entry : Text × Text} (hname : isLabelName entry.1 = true) {sep : Text}
    (hsep : ∀ b ∈ encode sep, isSeparator b = true) (s t : Text) :
    parseLabel (s ++ (sep ++ (writeEntry entry ++ t))) (byteLen s) =
      .ok (some ((entry.1, latin1 entry.2), byteLen (s ++ (sep ++ writeEntry entry)))) := by
  obtain ⟨key, v⟩ := entry
  obtain ⟨hkey, b, rest, hfirst, hb⟩ := encode_labelName hname
  have hwritten : writeEntry (key, v) ++ t = key ++ '=' :: ('"' :: (escape v ++ '"' :: t)) := by
    simp [writeEntry]
  have hstart : scanWhile isSeparator (encode (s ++ (sep ++ (writeEntry (key, v) ++ t)))) (byteLen s) =
      byteLen (s ++ sep) := by
    rw [scanWhile_append, encode_append, List.takeWhile_append_of_pos hsep, hwritten, encode_append,
      hfirst, List.cons_append, List.takeWhile_cons_of_neg (by simp [hb]), List.append_nil,
      byteLen_append]
    rfl
  have hne : byteLen (s ++ sep) ≠ byteLen (s ++ (sep ++ (writeEntry (key, v) ++ t))) := by
    rw [hwritten, ← List.append_assoc, byteLen_append (s ++ sep), byteLen, byteLen, encode_append key,
      hfirst, List.cons_append, List.length_cons]
    omega
  have hquote : encode ('"' :: (escape v ++ '"' :: t)) = ascii '"' :: encode (escape v ++ '"' :: t) := rfl
  have htrim : trim key = key := trim_eq_self fun c hc =>
    (nameChar_spec (isLabelName_mem hname hc)).2.2.2.1
  have hentry : parseEntry (s ++ sep ++ (key ++ '=' :: ('"' :: (escape v ++ '"' :: t))))
      (byteLen (s ++ sep)) = .ok ((key, latin1 v), byteLen (s ++ sep ++ key) + 2 +
        byteLen (escape v) + 1) := by
    rw [parseEntry_eq _ _ _ hkey, hquote, List.getElem?_cons_zero, List.drop_succ_cons, List.drop_zero,
      readValue_escape, ensure_pos (beq_self_eq_true _), htrim]
    rfl
  have hcursor : byteLen (s ++ sep ++ key) + 2 + byteLen (escape v) + 1 =
      byteLen (s ++ (sep ++ writeEntry (key, v))) := by
    have hequals : ('=' : Char).utf8Size = 1 := rfl
    have hquotes : ('"' : Char).utf8Size = 1 := rfl
    simp only [writeEntry, byteLen_append, byteLen_cons, byteLen_nil, hequals, hquotes]
    omega
  rw [parseLabel, hstart]
  dsimp only
  rw [if_neg hne, hwritten, ← List.append_assoc, hentry, ok_bind, hcursor]
  rfl

/-- The labels read from written entries. -/
def readEntries (entries : List (Text × Text)) (labels : Std.HashMap Text Text) :
    Std.HashMap Text Text :=
  entries.foldl (fun labels entry => labels.insert entry.1 (latin1 entry.2)) labels

/-- One pass of the loop at a written entry. -/
lemma parseLabelsFrom_entry {entry : Text × Text} (hname : isLabelName entry.1 = true) {sep : Text}
    (hsep : ∀ b ∈ encode sep, isSeparator b = true) (s t : Text) (passes : Nat)
    (labels : Std.HashMap Text Text) :
    parseLabelsFrom (s ++ (sep ++ (writeEntry entry ++ t))) (passes + 1) (byteLen s) labels =
      parseLabelsFrom (s ++ (sep ++ writeEntry entry) ++ t) passes
        (byteLen (s ++ (sep ++ writeEntry entry))) (labels.insert entry.1 (latin1 entry.2)) := by
  have hlt : byteLen s < byteLen (s ++ (sep ++ (writeEntry entry ++ t))) := by
    have hequals : ('=' : Char).utf8Size = 1 := rfl
    simp only [writeEntry, byteLen_append, byteLen_cons, hequals]
    omega
  rw [parseLabelsFrom, if_pos hlt, parseLabel_entry hname hsep, ok_bind]
  simp only [List.append_assoc]

/-- The loop on the entries behind the first. -/
lemma parseLabelsFrom_entries {entries : List (Text × Text)}
    (hnames : ∀ entry ∈ entries, isLabelName entry.1 = true) (s : Text) {passes : Nat}
    (labels : Std.HashMap Text Text) (hpasses : entries.length < passes) :
    parseLabelsFrom (s ++ entries.flatMap fun entry => ',' :: writeEntry entry) passes (byteLen s)
      labels = .ok (readEntries entries labels) := by
  induction entries generalizing s passes labels with
  | nil =>
    obtain ⟨passes, rfl⟩ := Nat.exists_eq_add_one.mpr (Nat.zero_lt_of_lt hpasses)
    rw [List.flatMap_nil, List.append_nil, parseLabelsFrom, if_neg (lt_irrefl _)]
    rfl
  | cons entry entries ih =>
    obtain ⟨passes, rfl⟩ := Nat.exists_eq_add_one.mpr (Nat.zero_lt_of_lt hpasses)
    have hcomma : ∀ b ∈ encode [','], isSeparator b = true := by
      intro b hb
      obtain rfl : b = ascii ',' := List.mem_singleton.mp hb
      rfl
    have hstep := parseLabelsFrom_entry (hnames entry List.mem_cons_self) hcomma s
      (entries.flatMap fun entry => ',' :: writeEntry entry) passes labels
    rw [List.flatMap_cons]
    refine hstep.trans ?_
    exact ih (fun entry' h => hnames entry' (List.mem_cons_of_mem _ h)) _ _
      (Nat.lt_of_succ_lt_succ hpasses)

/-- Every entry behind the first takes a byte at least. -/
lemma length_le_byteLen_entries (entries : List (Text × Text)) :
    entries.length ≤ byteLen (entries.flatMap fun entry => ',' :: writeEntry entry) := by
  induction entries with
  | nil => exact le_rfl
  | cons entry entries ih =>
    have hpos := Char.utf8Size_pos ','
    rw [List.flatMap_cons, byteLen_append, byteLen_cons, List.length_cons]
    omega

/-- A joined list starts with its first text. -/
lemma intercalate_cons (x : Text) (xs : List Text) :
    List.intercalate [','] (x :: xs) = x ++ xs.flatMap fun y => ',' :: y := by
  induction xs generalizing x with
  | nil => simp [List.intercalate]
  | cons y ys ih =>
    have hcons : List.intercalate [','] (x :: y :: ys) = x ++ ([','] ++ List.intercalate [','] (y :: ys)) := by
      simp [List.intercalate]
    rw [hcons, ih]
    simp

/-- The parser on written labels. -/
lemma parseLabels_write {entries : List (Text × Text)}
    (hnames : ∀ entry ∈ entries, isLabelName entry.1 = true) :
    parseLabels (writeLabels entries) = .ok (readEntries entries ∅) := by
  cases entries with
  | nil => rfl
  | cons entry entries =>
    have hwritten : writeLabels (entry :: entries) =
        [] ++ ([] ++ (writeEntry entry ++ entries.flatMap fun entry => ',' :: writeEntry entry)) := by
      rw [writeLabels, List.map_cons, intercalate_cons, List.flatMap_map]
      rfl
    have hlen : entries.length < byteLen ([] ++ ([] ++ (writeEntry entry ++
        entries.flatMap fun entry => ',' :: writeEntry entry))) := by
      have hle := length_le_byteLen_entries entries
      have hpos := Char.utf8Size_pos '='
      simp only [List.nil_append, writeEntry, byteLen_append, byteLen_cons] at hle ⊢
      omega
    rw [parseLabels, hwritten]
    refine (parseLabelsFrom_entry (hnames entry List.mem_cons_self) (by simp) [] _ _ ∅).trans ?_
    exact parseLabelsFrom_entries (fun entry' h => hnames entry' (List.mem_cons_of_mem _ h)) _ _ hlen

/-- With distinct keys, a lookup finds every entry. -/
lemma lookup_of_mem {entries : List (Text × Text)} (hnodup : (entries.map Prod.fst).Nodup)
    {entry : Text × Text} (h : entry ∈ entries) : entries.lookup entry.1 = some entry.2 := by
  obtain ⟨before, behind, rfl⟩ := List.append_of_mem h
  refine List.lookup_eq_some_iff.mpr ⟨before, behind, rfl, fun other hother => ?_⟩
  rw [List.map_append, List.nodup_append] at hnodup
  have hne := hnodup.2.2 other.1 (List.mem_map_of_mem hother) entry.1 List.mem_cons_self
  exact bne_iff_ne.mpr hne.symm

/-- What a lookup finds is an entry. -/
lemma mem_of_lookup {entries : List (Text × Text)} {key v : Text}
    (h : entries.lookup key = some v) : (key, v) ∈ entries := by
  obtain ⟨before, behind, rfl, _⟩ := List.lookup_eq_some_iff.mp h
  exact List.mem_append_right _ List.mem_cons_self

/-- What is read from written entries, key by key. -/
lemma readEntries_getElem? {entries : List (Text × Text)} (hnodup : (entries.map Prod.fst).Nodup)
    (labels : Std.HashMap Text Text) (key : Text) :
    (readEntries entries labels)[key]? = ((entries.lookup key).map latin1).or labels[key]? := by
  induction entries generalizing labels with
  | nil => rfl
  | cons entry entries ih =>
    rw [List.map_cons, List.nodup_cons] at hnodup
    have hstep : readEntries (entry :: entries) labels =
        readEntries entries (labels.insert entry.1 (latin1 entry.2)) := rfl
    rw [hstep, ih hnodup.2, Std.HashMap.getElem?_insert, List.lookup_cons]
    by_cases hkey : entry.1 = key
    · subst hkey
      have hnone : entries.lookup entry.1 = none := by
        rw [List.lookup_eq_none_iff]
        intro other hother
        refine bne_iff_ne.mpr fun heq => hnodup.1 ?_
        exact heq ▸ List.mem_map_of_mem hother
      simp [hnone]
    · have hne : (key == entry.1) = false := beq_false_of_ne (Ne.symm hkey)
      rw [if_neg (by simpa using hkey), hne]

/-- Name and labels of a written descriptor. -/
lemma parseDescriptor_write (bare : Bool) {name : Text} (hname : isMetricName name = true)
    (labels : LabelMap) :
    parseDescriptor (name ++ if bare && labels.entries.isEmpty then []
      else '\x7b' :: (writeLabels labels.entries ++ ['\x7d'])) =
        .ok (name, readEntries labels.entries ∅) := by
  have hbrace : ∀ c ∈ name, c ≠ '\x7b' := fun c hc =>
    (nameChar_spec (isMetricName_mem hname hc)).2.2.2.2
  split
  · rename_i hbare
    rw [Bool.and_eq_true, List.isEmpty_iff] at hbare
    have hnone : (name.any fun c => c == '\x7b') = false := by
      rw [List.any_eq_false]
      exact fun c hc => by simpa using hbrace c hc
    rw [List.append_nil, parseDescriptor, find, hnone, hbare.2]
    rfl
  · rw [parseDescriptor_braces _ hbrace, parseLabels_write labels.names]
    rfl

/-- The parser on a written line: the values come back as their bytes. -/
lemma parseLine_sampleLine {V : Type} (number : NumberParser V) (bare : Bool) {name : Text}
    (hname : isMetricName name = true) (labels : LabelMap) {valueText : Text} {value : V}
    (hspace : ∀ c ∈ valueText, isWhitespace c = false) (hvalue : number.parse valueText = some value) :
    parseLine number (sampleLine bare name labels valueText) =
      .ok ⟨name, readEntries labels.entries ∅, value⟩ := by
  have htrim : trim (' ' :: valueText) = valueText := by
    rw [trim, List.dropWhile_cons_of_pos (by decide)]
    exact trim_eq_self hspace
  have hend : trimEnd (name ++ if bare && labels.entries.isEmpty then []
      else '\x7b' :: (writeLabels labels.entries ++ ['\x7d'])) =
      name ++ if bare && labels.entries.isEmpty then []
        else '\x7b' :: (writeLabels labels.entries ++ ['\x7d']) := by
    refine trimEnd_eq_self fun c hc => ?_
    split at hc
    · rw [List.append_nil] at hc
      exact (nameChar_spec (isMetricName_mem hname (List.mem_of_getLast? hc))).2.2.2.1
    · rw [← List.cons_append, ← List.append_assoc, List.getLast?_concat] at hc
      cases hc
      decide
  have hnonempty : (!name.isEmpty) = true := by
    cases name with
    | nil => cases hname
    | cons c name => rfl
  rw [sampleLine, parseLine_eq number (by decide) hspace, htrim, hvalue, hend,
    parseDescriptor_write bare hname labels]
  dsimp only [ofOption]
  rw [ok_bind, ok_bind]
  dsimp only
  rw [ensure_pos hnonempty]
  rfl

/-- A written line is read back iff the label values are ASCII, and no text makes the parser panic. -/
theorem parseLine_reads_back_iff {V : Type} (number : NumberParser V) :
    (∀ bare name labels valueText value, isMetricName name = true →
      (∀ c ∈ valueText, isWhitespace c = false) → number.parse valueText = some value →
      (ReadsBack number bare name labels valueText value ↔
        ∀ entry ∈ labels.entries, ∀ c ∈ entry.2, c.toNat < 128)) ∧
    (∀ line, Graceful (parseLine number line)) ∧ ∀ input, Graceful (parseLabels input) := by
  refine ⟨fun bare name labels valueText value hname hspace hvalue => ?_, parseLine_graceful number,
    parseLabels_graceful⟩
  have hread (key : Text) : (readEntries labels.entries ∅)[key]? =
      (labels.entries.lookup key).map latin1 := by
    rw [readEntries_getElem? labels.nodup, Std.HashMap.getElem?_empty, Option.or_none]
  rw [ReadsBack, parseLine_sampleLine number bare hname labels hspace hvalue]
  constructor
  · intro h entry hentry
    obtain ⟨sample, hsample, _, hlabels, _⟩ := h
    cases hsample
    have hkey := hlabels entry.1
    rw [hread, lookup_of_mem labels.nodup hentry] at hkey
    exact latin1_eq_iff.mp (Option.some.inj hkey)
  · intro h
    refine ⟨_, rfl, rfl, fun key => ?_, rfl⟩
    rw [hread]
    cases hlookup : labels.entries.lookup key with
    | none => rfl
    | some v =>
      have hmem : (key, v) ∈ labels.entries := mem_of_lookup hlookup
      rw [Option.map_some, latin1_eq_iff.mpr (h (key, v) hmem)]

/-- A number parser that knows one numeral. -/
def numeralOne : NumberParser Nat where
  parse s := if s = ['1'] then some 1 else none
  debug _ := ""

/-- A single label `a`. -/
def singleLabel (value : Text) : LabelMap where
  entries := [(['a'], value)]
  names := by
    intro entry hentry
    obtain rfl := List.mem_singleton.mp hentry
    rfl
  nodup := List.nodup_singleton _

/-- The number has no blank in it. -/
lemma numeralOne_space : ∀ c ∈ ['1'], isWhitespace c = false := by
  intro c hc
  obtain rfl := List.mem_singleton.mp hc
  rfl

/-- A label value with a brace, a quote, a backslash, a line break and a comma reads back. -/
theorem parseLine_reads_back_braces :
    ReadsBack numeralOne false ['m'] (singleLabel ['\x7d', ' ', '"', '\\', '\n', ',']) ['1'] 1 :=
  ((parseLine_reads_back_iff numeralOne).1 false ['m'] (singleLabel _) ['1'] 1 rfl numeralOne_space
    rfl).mpr (by
      intro entry hentry
      obtain rfl := List.mem_singleton.mp hentry
      simp)

/-- An accented letter comes back as two characters. -/
theorem parseLine_garbles_accent :
    (∃ sample, parseLine numeralOne (sampleLine false ['m'] (singleLabel ['é']) ['1']) = .ok sample ∧
      sample.labels[['a']]? = some ['Ã', '©']) ∧
    ¬ ReadsBack numeralOne false ['m'] (singleLabel ['é']) ['1'] 1 := by
  have hline := @parseLine_sampleLine _ numeralOne false ['m'] rfl (singleLabel ['é']) ['1'] 1
    numeralOne_space rfl
  have hread : (readEntries (singleLabel ['é']).entries ∅)[['a']]? = some ['Ã', '©'] := by
    rw [readEntries_getElem? (singleLabel ['é']).nodup, Std.HashMap.getElem?_empty]
    rfl
  refine ⟨⟨_, hline, hread⟩, fun h => ?_⟩
  obtain ⟨sample, hsample, _, hlabels, _⟩ := h
  rw [hline] at hsample
  cases hsample
  have hkey := hlabels ['a']
  rw [hread] at hkey
  have hlookup : (singleLabel ['é']).entries.lookup ['a'] = some ['é'] := rfl
  rw [hlookup] at hkey
  exact absurd hkey (by decide)

end NullifierPir.Apm
