import Mathlib

/-!
# Byte positions in UTF-8 text

A text is its list of characters and a position in it counts the bytes of their encodings. A position
between two characters splits the text (`splitAt_append`); other positions do not. Bytes below 128
encode a character of their own (`exists_char_of_ascii`), so that a scan of the bytes for one of them
stops between two characters.
-/

namespace Utf8

/-- Characters of a text. -/
abbrev Text := List Char

/-- Bytes of a text. -/
def encode (s : Text) : List UInt8 := s.flatMap String.utf8EncodeChar

/-- Number of bytes of a text. -/
def byteLen (s : Text) : Nat := (encode s).length

/-- The two parts of a text at a byte position, if the position is between two characters. -/
def splitAt : Text → Nat → Option (Text × Text)
  | s, 0 => some ([], s)
  | [], _ + 1 => none
  | c :: s, n + 1 =>
    if c.utf8Size ≤ n + 1 then
      (splitAt s (n + 1 - c.utf8Size)).map fun parts => (c :: parts.1, parts.2)
    else none

/-- The byte of a character below 128 (Rust `b'c'`). -/
def ascii (c : Char) : UInt8 := UInt8.ofNat c.toNat

/-- Whether bytes are the encoding of a text (Rust `str::from_utf8`). -/
def valid (bs : List UInt8) : Bool := bs.toByteArray.validateUTF8

/-- The character with the number of a byte (Rust `byte as char`). -/
def byteAsChar (b : UInt8) : Char := Char.ofNat b.toNat

/-- The empty text. -/
@[simp] lemma encode_nil : encode [] = [] := rfl

/-- Characters are encoded one after the other. -/
lemma encode_cons (c : Char) (s : Text) : encode (c :: s) = String.utf8EncodeChar c ++ encode s :=
  List.flatMap_cons

/-- Texts are encoded one after the other. -/
lemma encode_append (s t : Text) : encode (s ++ t) = encode s ++ encode t := List.flatMap_append

/-- An encoded text is valid. -/
lemma valid_encode (s : Text) : valid (encode s) = true :=
  ByteArray.validateUTF8_eq_true_iff.mpr ⟨s, rfl⟩

/-- The empty text has no bytes. -/
@[simp] lemma byteLen_nil : byteLen [] = 0 := rfl

/-- The bytes of the first character come first. -/
lemma byteLen_cons (c : Char) (s : Text) : byteLen (c :: s) = c.utf8Size + byteLen s := by
  rw [byteLen, encode_cons, List.length_append, String.length_utf8EncodeChar]
  rfl

/-- Lengths in bytes add up. -/
lemma byteLen_append (s t : Text) : byteLen (s ++ t) = byteLen s + byteLen t := by
  rw [byteLen, encode_append, List.length_append]
  rfl

/-- The bytes of a string are those of its characters. -/
lemma length_encode_toList (s : String) : (encode s.toList).length = s.utf8ByteSize := by
  rw [← String.size_toByteArray, ← String.utf8Encode_toList, List.utf8Encode, List.size_toByteArray]
  rfl

/-- The position after a part of a text splits it there. -/
lemma splitAt_append (s t : Text) : splitAt (s ++ t) (byteLen s) = some (s, t) := by
  induction s with
  | nil => cases t <;> rfl
  | cons c s ih =>
    obtain ⟨n, hn⟩ : ∃ n, byteLen (c :: s) = n + 1 := by
      refine Nat.exists_eq_add_one.mpr ?_
      rw [byteLen_cons]
      exact Nat.add_pos_left (Char.utf8Size_pos c) _
    have hlen := byteLen_cons c s
    rw [hn, List.cons_append, splitAt, if_pos (by omega)]
    have hrest : n + 1 - c.utf8Size = byteLen s := by omega
    rw [hrest, ih]
    rfl

/-- Behind the bytes of a text come those of the rest. -/
lemma drop_byteLen (s t : Text) : (encode (s ++ t)).drop (byteLen s) = encode t := by
  rw [encode_append, byteLen, List.drop_left]

/-! ### Bytes below 128 -/

/-- ASCII characters are one byte. -/
lemma encodeChar_of_lt {c : Char} (h : c.toNat < 128) : String.utf8EncodeChar c = [ascii c] := by
  have hle : c.val.toNat ≤ 0x7f := Nat.le_of_lt_succ h
  rw [String.utf8EncodeChar, if_pos hle]
  rfl

/-- Characters below 128 are their own bytes. -/
lemma encode_eq_map {s : Text} (h : ∀ c ∈ s, c.toNat < 128) : encode s = s.map ascii := by
  induction s with
  | nil => rfl
  | cons c s ih =>
    rw [encode_cons, encodeChar_of_lt (h c List.mem_cons_self),
      ih fun d hd => h d (List.mem_cons_of_mem c hd)]
    rfl

/-- And only they are. -/
lemma utf8Size_eq_one_iff {c : Char} : c.utf8Size = 1 ↔ c.toNat < 128 := by
  rw [Char.utf8Size_eq_one_iff, UInt32.le_iff_toNat_le]
  exact Nat.lt_succ_iff.symm

/-- The bytes of the other characters are not below 128. -/
lemma le_of_mem_encodeChar {c : Char} (h : ¬ c.toNat < 128) :
    ∀ b ∈ String.utf8EncodeChar c, 128 ≤ b.toNat := by
  have hv : ¬ c.val.toNat ≤ 0x7f := fun hle => h (Nat.lt_succ_of_le hle)
  rw [String.utf8EncodeChar, if_neg hv]
  have hbyte (x y : Nat) (hx : x < 128) (hy : 128 ≤ y) (hxy : x + y < 256) :
      128 ≤ (UInt8.ofNat (x + y)).toNat := by
    rw [UInt8.toNat_ofNat', Nat.mod_eq_of_lt hxy]
    exact hy.trans (Nat.le_add_left y x)
  have hmod (v n : Nat) (hn : 0 < n) : v % n < n := Nat.mod_lt v hn
  intro b hb
  split at hb
  · simp only [List.mem_cons, List.not_mem_nil, or_false] at hb
    have h1 := hmod (c.val.toNat / 64) 0x20 (by decide)
    have h2 := hmod c.val.toNat 0x40 (by decide)
    rcases hb with rfl | rfl
    all_goals exact hbyte _ _ (by omega) (by omega) (by omega)
  · split at hb
    · simp only [List.mem_cons, List.not_mem_nil, or_false] at hb
      have h1 := hmod (c.val.toNat / 4096) 0x10 (by decide)
      have h2 := hmod (c.val.toNat / 64) 0x40 (by decide)
      have h3 := hmod c.val.toNat 0x40 (by decide)
      rcases hb with rfl | rfl | rfl
      all_goals exact hbyte _ _ (by omega) (by omega) (by omega)
    · simp only [List.mem_cons, List.not_mem_nil, or_false] at hb
      have h0 := hmod (c.val.toNat / 262144) 0x08 (by decide)
      have h1 := hmod (c.val.toNat / 4096) 0x40 (by decide)
      have h2 := hmod (c.val.toNat / 64) 0x40 (by decide)
      have h3 := hmod c.val.toNat 0x40 (by decide)
      rcases hb with rfl | rfl | rfl | rfl
      all_goals exact hbyte _ _ (by omega) (by omega) (by omega)

/-- An ASCII byte read as a character. -/
lemma byteAsChar_ascii {c : Char} (h : c.toNat < 128) : byteAsChar (ascii c) = c := by
  rw [byteAsChar, ascii, UInt8.toNat_ofNat', Nat.mod_eq_of_lt (by omega)]
  exact Char.ofNat_toNat c

/-- ASCII characters have bytes of their own. -/
lemma ascii_inj {c d : Char} (hc : c.toNat < 128) (hd : d.toNat < 128) :
    ascii c = ascii d ↔ c = d := by
  constructor
  · intro h
    rw [← byteAsChar_ascii hc, h, byteAsChar_ascii hd]
  · exact congrArg ascii

/-- A byte below 128 is a character of the text, which it splits. -/
lemma exists_char_of_ascii {s : Text} {l l' : List UInt8} {b : UInt8}
    (h : encode s = l ++ b :: l') (hb : b.toNat < 128) :
    ∃ t c t', s = t ++ c :: t' ∧ encode t = l ∧ c.toNat < 128 ∧ ascii c = b ∧ encode t' = l' := by
  induction s generalizing l with
  | nil => cases l <;> cases h
  | cons c s ih =>
    rw [encode_cons] at h
    by_cases hc : c.toNat < 128
    · rw [encodeChar_of_lt hc, List.singleton_append] at h
      cases l with
      | nil =>
        obtain ⟨hbyte, hrest⟩ := List.cons.inj h
        exact ⟨[], c, s, rfl, rfl, hc, hbyte, hrest⟩
      | cons x l =>
        obtain ⟨hbyte, hrest⟩ := List.cons.inj h
        obtain ⟨t, d, t', rfl, ht, hd, hdb, ht'⟩ := ih hrest
        refine ⟨c :: t, d, t', rfl, ?_, hd, hdb, ht'⟩
        rw [encode_cons, encodeChar_of_lt hc, ht, hbyte]
        rfl
    · -- the byte is behind those of the first character
      have hbehind : ∃ m, l = String.utf8EncodeChar c ++ m := by
        rcases List.append_eq_append_iff.mp h with ⟨m, hm, _⟩ | ⟨m, hm, hrest⟩
        · exact ⟨m, hm⟩
        · cases m with
          | nil => exact ⟨[], by simpa using hm.symm⟩
          | cons x m =>
            obtain ⟨rfl, _⟩ := List.cons.inj hrest
            have hlow := le_of_mem_encodeChar hc b (by rw [hm]; simp)
            exact absurd hb (not_lt.mpr hlow)
      obtain ⟨m, rfl⟩ := hbehind
      rw [List.append_assoc] at h
      obtain ⟨t, d, t', rfl, ht, hd, hdb, ht'⟩ := ih (List.append_cancel_left h)
      refine ⟨c :: t, d, t', rfl, ?_, hd, hdb, ht'⟩
      rw [encode_cons, ht]

/-- The bytes of a text read one by one as characters. -/
def latin1 (s : Text) : Text := (encode s).map byteAsChar

/-- Read as Latin-1, an ASCII character stays. -/
lemma latin1_cons_of_lt {c : Char} (h : c.toNat < 128) (s : Text) :
    latin1 (c :: s) = c :: latin1 s := by
  rw [latin1, encode_cons, encodeChar_of_lt h, List.singleton_append, List.map_cons,
    byteAsChar_ascii h]
  rfl

/-- One character a byte. -/
lemma length_latin1 (s : Text) : (latin1 s).length = byteLen s := List.length_map ..

/-- A character has at least one byte. -/
lemma length_le_byteLen (s : Text) : s.length ≤ byteLen s := by
  induction s with
  | nil => exact le_rfl
  | cons c s ih =>
    have hpos := Char.utf8Size_pos c
    rw [byteLen_cons, List.length_cons]
    omega

/-- Reading the bytes as characters gives the text back iff they are all below 128. -/
lemma latin1_eq_iff {s : Text} : latin1 s = s ↔ ∀ c ∈ s, c.toNat < 128 := by
  constructor
  · intro h
    have hlen : byteLen s = s.length := by rw [← length_latin1, h]
    clear h
    induction s with
    | nil => exact fun c hc => absurd hc List.not_mem_nil
    | cons c s ih =>
      have hle := length_le_byteLen s
      have hpos := Char.utf8Size_pos c
      rw [byteLen_cons, List.length_cons] at hlen
      have hsize : c.utf8Size = 1 := by omega
      intro d hd
      rcases List.mem_cons.mp hd with rfl | hd
      · exact utf8Size_eq_one_iff.mp hsize
      · exact ih (by omega) d hd
  · intro h
    induction s with
    | nil => rfl
    | cons c s ih =>
      rw [latin1_cons_of_lt (h c List.mem_cons_self),
        ih fun d hd => h d (List.mem_cons_of_mem c hd)]

/-- A text whose bytes are all below 128. -/
lemma lt_of_encode_lt {s : Text} (h : ∀ b ∈ encode s, b.toNat < 128) : ∀ c ∈ s, c.toNat < 128 := by
  intro c hc
  by_contra hge
  obtain ⟨b, hb⟩ : ∃ b, b ∈ String.utf8EncodeChar c := by
    refine List.exists_mem_of_length_pos ?_
    rw [String.length_utf8EncodeChar]
    exact Char.utf8Size_pos c
  have hlow := h b (List.mem_flatMap.mpr ⟨c, hc, hb⟩)
  exact absurd hlow (not_lt.mpr (le_of_mem_encodeChar hge b hb))

/-- Such texts are told apart by their bytes. -/
lemma encode_inj_of_lt {s t : Text} (hs : ∀ c ∈ s, c.toNat < 128) (ht : ∀ c ∈ t, c.toNat < 128)
    (h : encode s = encode t) : s = t := by
  rw [← latin1_eq_iff.mpr hs, ← latin1_eq_iff.mpr ht, latin1, latin1, h]

/-- Each of their characters is one byte. -/
lemma length_of_lt {s : Text} (hs : ∀ c ∈ s, c.toNat < 128) : s.length = byteLen s := by
  rw [← length_latin1, latin1_eq_iff.mpr hs]

/-! ### White space -/

/-- Unicode white space (Rust `char::is_whitespace`). -/
def isWhitespace (c : Char) : Bool :=
  let n := c.toNat
  (0x09 ≤ n && n ≤ 0x0d) || n == 0x20 || n == 0x85 || n == 0xa0 || n == 0x1680 ||
    (0x2000 ≤ n && n ≤ 0x200a) || n == 0x2028 || n == 0x2029 || n == 0x202f || n == 0x205f ||
    n == 0x3000

/-- Rust `str::trim_end`. -/
def trimEnd (s : Text) : Text := s.rdropWhile isWhitespace

/-- Rust `str::trim`. -/
def trim (s : Text) : Text := trimEnd (s.dropWhile isWhitespace)

/-- Rust `str::trim_end_matches` with one character. -/
def trimEndMatches (c : Char) (s : Text) : Text := s.rdropWhile fun d => d == c

/-- Rust `str::contains`. -/
def contains (s pattern : Text) : Bool := s.tails.any fun t => pattern.isPrefixOf t

/-- Without a blank at the end nothing is trimmed there. -/
lemma trimEnd_eq_self {s : Text} (h : ∀ c, s.getLast? = some c → isWhitespace c = false) :
    trimEnd s = s := by
  cases s using List.reverseRecOn with
  | nil => rfl
  | append_singleton s c =>
    exact List.rdropWhile_concat_neg _ _ _ (by simp [h c List.getLast?_concat])

/-- Without blanks nothing is trimmed. -/
lemma trim_eq_self {s : Text} (h : ∀ c ∈ s, isWhitespace c = false) : trim s = s := by
  have hdrop : s.dropWhile isWhitespace = s := by
    cases s with
    | nil => rfl
    | cons c s => exact List.dropWhile_cons_of_neg (by simp [h c List.mem_cons_self])
  rw [trim, hdrop]
  exact trimEnd_eq_self fun c hc => h c (List.mem_of_getLast? hc)

end Utf8
