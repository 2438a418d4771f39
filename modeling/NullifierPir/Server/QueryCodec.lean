import NullifierPir.Server.Query

/-!
# The query codec

`parse_query` inverts `serialize_ypir_query`: it accepts a body exactly when the body is the serialization
of two word lists of the sizes the parameters require, and the two buffers that `answer_query` fills
from the accepted sections are those lists (`parseQuery_accepts_iff`).
-/

namespace NullifierPir.Server
open Rust ByteString NullifierPir.Types

/-- `slice[i] = w`. -/
def setWord (words : List UInt64) (i : Nat) (w : UInt64) : Rust (List UInt64) :=
  if i < words.length then .ok (words.set i w)
  else panicked s!"index out of bounds: the len is {words.length} but the index is {i}"

/-- The word of chunk `i` of `chunks_exact(8)`. -/
def chunkWord (bytes : Bytes) (i : Nat) : UInt64 :=
  UInt64.ofNat (ofLe (slice bytes (i * U64_BYTES) U64_BYTES))

/-- A zeroed aligned buffer of words (Rust `Aligned64::new`). -/
def aligned64 (len : Nat) : Rust (List UInt64) := do
  assert (decide (0 < len)) "Aligned64::new called with zero length"
  return List.replicate len 0

/-- Copy a section into an aligned buffer, chunk by chunk. -/
def copyWords (bytes : Bytes) : Rust (List UInt64) := do
  let buffer ← aligned64 (bytes.length / U64_BYTES)
  (List.range (bytes.length / U64_BYTES)).foldlM
    (fun words i => setWord words i (chunkWord bytes i)) buffer

/-- The two buffers that `answer_query` computes with. -/
def queryBuffers (queryBytes : Bytes) (params : Params) : Rust (List UInt64 × List UInt64) := do
  let sections ← parseQuery queryBytes params
  let pqr ← copyWords sections.1
  let pubParams ← copyWords sections.2
  return (pqr, pubParams)

/-- Words of the packing parameters: one `1 x t_exp_left` matrix of polynomials per level. -/
def Params.pubParamsWords (params : Params) : Nat := params.polyLenLog2 * params.tExpLeft * params.polyLen

/-- The body is the serialization of two word lists of the required sizes. -/
structure IsQuery (params : Params) (body : Bytes) (words : List UInt64 × List UInt64) : Prop where
  pqr : words.1.length = params.dbRowsPaddedSimplepir
  pubParams : words.2.length = params.pubParamsWords
  body : body = serializeYpirQuery words.1 words.2

section Words

/-- A word reads back as its bytes. -/
lemma toLe_toNat_ofLe {bs : Bytes} (h : bs.length = U64_BYTES) :
    toLe U64_BYTES (UInt64.ofNat (ofLe bs)).toNat = bs := by
  have hlt : ofLe bs < 2 ^ 64 := by
    have := @ofLe_lt bs
    rw [h] at this
    exact this
  rw [UInt64.toNat_ofNat_of_lt' hlt, ← h, toLe_ofLe]

/-- Chunk `i` of written words is word `i`. -/
lemma chunkWord_wordsLe {ws : List UInt64} {i} (h : i < ws.length) : chunkWord (wordsLe ws) i = ws[i] := by
  rw [chunkWord, wordsLe, slice_flatMap (fun _ _ => length_toLe) h, ofLe_toLe ws[i].toNat_lt,
    UInt64.ofNat_toNat]

/-- Whole words are the words of their chunks. -/
lemma wordsLe_chunks {n} {bs : Bytes} (h : bs.length = n * U64_BYTES) :
    wordsLe ((List.range n).map (chunkWord bs)) = bs := by
  induction n generalizing bs with
  | zero => exact (List.length_eq_zero_iff.mp (by simpa using h)).symm
  | succ n ih =>
    rw [Nat.succ_mul] at h
    have hhead : (bs.take U64_BYTES).length = U64_BYTES := by
      rw [List.length_take]
      omega
    have hdrop : (bs.drop U64_BYTES).length = n * U64_BYTES := by
      rw [List.length_drop]
      omega
    have hrest : ∀ i, chunkWord bs (i + 1) = chunkWord (bs.drop U64_BYTES) i := by
      intro i
      rw [chunkWord, chunkWord, slice, slice, List.drop_drop,
        show (i + 1) * U64_BYTES = U64_BYTES + i * U64_BYTES by ring]
    have htail : ((List.range n).map fun i => chunkWord bs (i + 1)) =
        (List.range n).map (chunkWord (bs.drop U64_BYTES)) :=
      List.map_congr_left fun i _ => hrest i
    rw [List.range_succ_eq_map, List.map_cons, List.map_map, wordsLe, List.flatMap_cons]
    change toLe U64_BYTES (chunkWord bs 0).toNat ++
      wordsLe ((List.range n).map fun i => chunkWord bs (i + 1)) = bs
    rw [htail, ih hdrop, chunkWord, Nat.zero_mul]
    change toLe U64_BYTES (UInt64.ofNat (ofLe (bs.take U64_BYTES))).toNat ++ bs.drop U64_BYTES = bs
    rw [toLe_toNat_ofLe hhead, List.take_append_drop]

/-- Encoded words determine the words. -/
lemma wordsLe_injective {ws ws' : List UInt64} (hlen : ws.length = ws'.length)
    (h : wordsLe ws = wordsLe ws') : ws = ws' := by
  apply List.ext_getElem hlen
  intro i hi hi'
  rw [← chunkWord_wordsLe hi, h, chunkWord_wordsLe hi']

/-- After `k` passes the first `k` words are written. -/
lemma copyLoop_eq {f : Nat → UInt64} {n k} (hk : k ≤ n) :
    (List.range k).foldlM (fun words i => setWord words i (f i)) (List.replicate n 0) =
      (.ok ((List.range k).map f ++ List.replicate (n - k) 0) : Rust _) := by
  induction k with
  | zero => rfl
  | succ k ih =>
    have hlen : ((List.range k).map f ++ List.replicate (n - k) 0).length = n := by
      rw [List.length_append, List.length_map, List.length_range, List.length_replicate]
      omega
    obtain ⟨r, hr⟩ : ∃ r, n - k = r + 1 := ⟨n - k - 1, by omega⟩
    rw [List.range_succ, List.foldlM_append, ih (by omega)]
    simp only [ok_bind, List.foldlM_cons, List.foldlM_nil, setWord, hlen]
    rw [if_pos (by omega)]
    simp only [ok_bind]
    rw [List.set_append_right _ _ (by simp), hr, List.length_map, List.length_range, Nat.sub_self,
      List.replicate_succ, List.set_cons_zero, List.map_append, List.append_assoc,
      show n - (k + 1) = r by omega]
    rfl

/-- The buffer holds the words of the section. -/
lemma copyWords_wordsLe {ws : List UInt64} (h : 0 < ws.length) : copyWords (wordsLe ws) = .ok ws := by
  have hlen : (wordsLe ws).length / U64_BYTES = ws.length := by
    rw [length_wordsLe, Nat.mul_div_cancel _ (by decide)]
  rw [copyWords, hlen, aligned64, decide_eq_true h]
  change (List.range ws.length).foldlM
    (fun words i => setWord words i (chunkWord (wordsLe ws) i)) (List.replicate ws.length 0) = _
  rw [copyLoop_eq le_rfl, Nat.sub_self, List.replicate_zero, List.append_nil]
  refine congrArg Except.ok (List.ext_getElem (by simp) ?_)
  intro i hi hi'
  rw [List.getElem_map, List.getElem_range, chunkWord_wordsLe hi']

end Words

section Parse

variable {params : Params} {body : Bytes}

/-- What `parse_query` checks, and the sections it returns. -/
lemma parseQuery_ok {sections} (ok : parseQuery body params = .ok sections) :
    U64_BYTES ≤ body.length ∧ ofLe (body.take U64_BYTES) = params.dbRowsPaddedSimplepir * U64_BYTES ∧
      sections.1 = (body.drop U64_BYTES).take (params.dbRowsPaddedSimplepir * U64_BYTES) ∧
      sections.2 = (body.drop U64_BYTES).drop (params.dbRowsPaddedSimplepir * U64_BYTES) ∧
      sections.1.length = params.dbRowsPaddedSimplepir * U64_BYTES ∧
      sections.2.length = params.pubParamsWords * U64_BYTES := by
  obtain ⟨_, hshort, ok⟩ := bind_eq_ok.mp ok
  obtain ⟨expected, hexpected, ok⟩ := bind_eq_ok.mp ok
  obtain ⟨_, hdeclared, ok⟩ := bind_eq_ok.mp ok
  obtain ⟨_, hinside, ok⟩ := bind_eq_ok.mp ok
  obtain ⟨words, hwords, ok⟩ := bind_eq_ok.mp ok
  obtain ⟨_, hlen, ok⟩ := bind_eq_ok.mp ok
  simp only [ensure_eq_ok, decide_eq_true_eq, beq_iff_eq] at hshort hdeclared hinside hlen
  have hrows := checkedMul_ok (ofOption_ok hexpected)
  have hproduct : words = params.pubParamsWords * U64_BYTES := by
    obtain ⟨n, hn, hwords⟩ := Option.bind_eq_some_iff.mp (ofOption_ok hwords)
    obtain ⟨n', hn', hn⟩ := Option.bind_eq_some_iff.mp hn
    obtain rfl := checkedMul_ok hn'
    obtain rfl := checkedMul_ok hn
    exact (checkedMul_ok hwords).symm
  obtain rfl := Except.ok.inj ok
  rw [hdeclared, ← hrows] at hinside hlen ⊢
  refine ⟨hshort, rfl, rfl, rfl, ?_, hlen.trans hproduct⟩
  rw [List.length_take]
  exact Nat.min_eq_left hinside

/-- Parsing neither panics nor overflows. -/
lemma parseQuery_graceful : Graceful (parseQuery body params) := by
  refine .bind .ensure fun _ _ => .bind .ofOption fun _ _ => .bind .ensure fun _ _ => ?_
  exact .bind .ensure fun _ _ => .bind .ofOption fun _ _ => .bind .ensure fun _ _ => .ok

/-- Accepted sections are the words of two lists, and the body is their serialization. -/
lemma isQuery_of_ok {sections} (ok : parseQuery body params = .ok sections) :
    ∃ words, IsQuery params body words := by
  obtain ⟨hshort, hdeclared, hpqr, hpub, hpqrLen, hpubLen⟩ := parseQuery_ok ok
  refine ⟨((List.range params.dbRowsPaddedSimplepir).map (chunkWord sections.1),
    (List.range params.pubParamsWords).map (chunkWord sections.2)), by simp, by simp, ?_⟩
  have hhead : toLe U64_BYTES (params.dbRowsPaddedSimplepir * U64_BYTES) = body.take U64_BYTES := by
    have hlen : (body.take U64_BYTES).length = U64_BYTES := by
      rw [List.length_take]
      exact Nat.min_eq_left hshort
    have hword := @toLe_ofLe (body.take U64_BYTES)
    rw [hlen, hdeclared] at hword
    exact hword
  rw [serializeYpirQuery, wordsLe_chunks hpqrLen, wordsLe_chunks hpubLen, List.length_map,
    List.length_range, hhead, hpqr, hpub, List.append_assoc, List.take_append_drop,
    List.take_append_drop]

/-- A body is the serialization of one pair of lists only. -/
lemma IsQuery.unique {words words'} (h : IsQuery params body words) (h' : IsQuery params body words') :
    words = words' := by
  have hpqr := h.pqr.trans h'.pqr.symm
  have hpub := h.pubParams.trans h'.pubParams.symm
  have hbody := h.body.symm.trans h'.body
  rw [serializeYpirQuery, serializeYpirQuery, hpqr, List.append_assoc, List.append_assoc] at hbody
  have hrest := List.append_cancel_left hbody
  have hwidth : (wordsLe words.1).length = (wordsLe words'.1).length := by
    rw [length_wordsLe, length_wordsLe, hpqr]
  obtain ⟨hfirst, hsecond⟩ := List.append_inj hrest hwidth
  exact Prod.ext (wordsLe_injective hpqr hfirst) (wordsLe_injective hpub hsecond)

/-- The products of the parser do not overflow on a body that fits in memory. -/
lemma IsQuery.products {words} (h : IsQuery params body words) (hpoly : 0 < params.polyLen)
    (hbody : body.length < U64) : words.1.length * U64_BYTES < U64 ∧
    ((checkedMul params.polyLenLog2 params.tExpLeft).bind fun n =>
      checkedMul n params.polyLen).bind (fun n => checkedMul n U64_BYTES) =
      some (words.2.length * U64_BYTES) := by
  rw [h.body, length_serializeYpirQuery, Nat.add_mul] at hbody
  have hpub : params.pubParamsWords * U64_BYTES < U64 := by
    rw [← h.pubParams]
    omega
  have hwords : params.pubParamsWords < U64 := (Nat.le_mul_of_pos_right _ (by decide)).trans_lt hpub
  have hlevels : params.polyLenLog2 * params.tExpLeft < U64 :=
    (Nat.le_mul_of_pos_right _ hpoly).trans_lt hwords
  refine ⟨by omega, ?_⟩
  rw [checkedMul_eq hlevels, Option.bind_some, checkedMul_eq hwords, Option.bind_some]
  rw [h.pubParams]
  exact checkedMul_eq hpub

/-- Parameters of a server: nothing is empty. -/
structure Params.Positive (params : Params) : Prop where
  rows : 0 < params.dbRowsPaddedSimplepir
  polyLen : 0 < params.polyLen
  polyLenLog2 : 0 < params.polyLenLog2
  tExpLeft : 0 < params.tExpLeft

/-- The public parameters are not empty. -/
lemma Params.Positive.pubParamsWords (pos : params.Positive) : 0 < params.pubParamsWords :=
  Nat.mul_pos (Nat.mul_pos pos.polyLenLog2 pos.tExpLeft) pos.polyLen

/-- The buffers of a serialized query are its words. -/
lemma IsQuery.queryBuffers_eq {words} (h : IsQuery params body words) (pos : params.Positive)
    (hbody : body.length < U64) :
    parseQuery body params = .ok (wordsLe words.1, wordsLe words.2) ∧
      queryBuffers body params = .ok words := by
  obtain ⟨hfit, hproducts⟩ := h.products pos.polyLen hbody
  have hparse : parseQuery body params = .ok (wordsLe words.1, wordsLe words.2) := by
    rw [h.body]
    exact parseQuery_wordsLe h.pqr.symm hfit hproducts
  refine ⟨hparse, ?_⟩
  rw [queryBuffers, hparse, ok_bind, copyWords_wordsLe (h.pqr ▸ pos.rows), ok_bind,
    copyWords_wordsLe (h.pubParams ▸ pos.pubParamsWords)]
  rfl

/-- `parse_query` accepts exactly the serialized queries: it succeeds on a body if and only if the body is
the serialization of word lists of the required sizes, the lists are unique, and the two buffers
`answer_query` fills from the sections are those lists; it never panics. -/
theorem parseQuery_accepts_iff (pos : params.Positive) (hbody : body.length < U64) :
    ((∃ sections, parseQuery body params = .ok sections) ↔ ∃ words, IsQuery params body words) ∧
    (∀ words words', IsQuery params body words → IsQuery params body words' → words = words') ∧
    (∀ words, IsQuery params body words → queryBuffers body params = .ok words) ∧
    ((¬ ∃ words, IsQuery params body words) → ∃ msg, parseQuery body params = .error (.err msg)) := by
  have accepts : (∃ sections, parseQuery body params = .ok sections) ↔
      ∃ words, IsQuery params body words := by
    constructor
    · rintro ⟨sections, ok⟩
      exact isQuery_of_ok ok
    · rintro ⟨words, h⟩
      exact ⟨_, (h.queryBuffers_eq pos hbody).1⟩
  refine ⟨accepts, fun _ _ h h' => h.unique h', fun _ h => (h.queryBuffers_eq pos hbody).2, ?_⟩
  intro hnot
  rcases @parseQuery_graceful params body with hok | herr
  · exact absurd (accepts.mp hok) hnot
  · exact herr

/-- A query of one packed word and one parameter word. -/
theorem parseQuery_accepts_sample :
    queryBuffers (serializeYpirQuery [7] [9]) ⟨1, 1, 1, 1⟩ = .ok ([7], [9]) :=
  (@parseQuery_accepts_iff ⟨1, 1, 1, 1⟩ _ ⟨by decide, by decide, by decide, by decide⟩
    (by decide)).2.2.1 ([7], [9]) ⟨rfl, rfl, rfl⟩

end Parse

end NullifierPir.Server
