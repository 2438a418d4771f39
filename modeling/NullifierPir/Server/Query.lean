import NullifierPir.Types.Ypir

/-!
# Query admission

Port of `pir/server/src/query.rs` and of the body limit of `pir/server/src/lib.rs`. `Params` holds the
fields of the YPIR parameters that the parser reads; how they follow from a scenario is the third
party's, and `YpirSizes` states what the parser relies on. Every query of a supported layout parses
back into its sections (`parseQuery_serialize`), and it fits the body limit except at the largest
row count with the larger degree (`query_admitted_iff`).
-/

namespace NullifierPir.Server
open Rust ByteString NullifierPir.Types

/-- Maximum accepted HTTP request body size. -/
def MAX_QUERY_BODY_BYTES : Nat := 2 * 1024 * 1024

/-- The YPIR parameters the parser reads. -/
structure Params where
  dbRowsPaddedSimplepir : Nat
  polyLen : Nat
  polyLenLog2 : Nat
  tExpLeft : Nat

/-- Validate both wire sections (Rust `parse_query`). -/
def parseQuery (queryBytes : Bytes) (params : Params) : Rust (Bytes × Bytes) := do
  ensure (decide (U64_BYTES ≤ queryBytes.length)) s!"query too short: {queryBytes.length} bytes"
  let pqrByteLen := ofLe (queryBytes.take U64_BYTES)
  let expectedPqrBytes ← ofOption "packed query size overflow"
    (checkedMul params.dbRowsPaddedSimplepir U64_BYTES)
  ensure (pqrByteLen == expectedPqrBytes)
    s!"packed query size mismatch: got {pqrByteLen} bytes, expected {expectedPqrBytes}"
  let payload := queryBytes.drop U64_BYTES
  ensure (decide (pqrByteLen ≤ payload.length))
    s!"pqr_byte_len {pqrByteLen} exceeds payload ({payload.length})"
  let pqr := payload.take pqrByteLen
  let pubParams := payload.drop pqrByteLen
  let expectedPubParamsBytes ← ofOption "public parameter size overflow" <|
    ((checkedMul params.polyLenLog2 params.tExpLeft).bind fun n =>
      checkedMul n params.polyLen).bind fun n => checkedMul n U64_BYTES
  ensure (pubParams.length == expectedPubParamsBytes)
    (s!"pub_params size mismatch: got {pubParams.length} bytes, " ++
      s!"expected {expectedPubParamsBytes}")
  return (pqr, pubParams)

/-- Rows padded up to a multiple of the degree. -/
def queryWords (scenario : YpirScenario) : Nat :=
  (scenario.numItems + scenario.polyLen - 1) / scenario.polyLen * scenario.polyLen

/-- Packing parameter words of a degree. -/
def parameterWords (polyLen : Nat) : Nat := if polyLen = 2048 then 67584 else 196608

/-- The sizes YPIR derives from a scenario. -/
structure YpirSizes (paramsFor : YpirScenario → Params) : Prop where
  rows : ∀ sc, (paramsFor sc).dbRowsPaddedSimplepir = queryWords sc
  polyLen : ∀ sc, (paramsFor sc).polyLen = sc.polyLen
  degree2048 : ∀ sc, sc.polyLen = 2048 →
    (paramsFor sc).polyLenLog2 = 11 ∧ (paramsFor sc).tExpLeft = 3
  degree4096 : ∀ sc, sc.polyLen = 4096 →
    (paramsFor sc).polyLenLog2 = 12 ∧ (paramsFor sc).tExpLeft = 4

section Admission

variable {paramsFor : YpirScenario → Params} {sc : YpirScenario} {pqr pubParams : List UInt64}

/-- The words of the packing parameters, as the parser computes them. -/
lemma YpirSizes.parameters (sizes : YpirSizes paramsFor) (hpoly : sc.polyLen = 2048 ∨ sc.polyLen = 4096) :
    ((checkedMul (paramsFor sc).polyLenLog2 (paramsFor sc).tExpLeft).bind fun n =>
      checkedMul n (paramsFor sc).polyLen).bind (fun n => checkedMul n U64_BYTES) =
      some (parameterWords sc.polyLen * U64_BYTES) := by
  rw [sizes.polyLen]
  rcases hpoly with h | h
  · rw [(sizes.degree2048 sc h).1, (sizes.degree2048 sc h).2, h]
    decide
  · rw [(sizes.degree4096 sc h).1, (sizes.degree4096 sc h).2, h]
    decide

/-- A body with sections of the required sizes parses into them. -/
lemma parseQuery_wordsLe {params : Params} (hrows : params.dbRowsPaddedSimplepir = pqr.length)
    (hfit : pqr.length * U64_BYTES < U64)
    (hwords : ((checkedMul params.polyLenLog2 params.tExpLeft).bind fun n =>
      checkedMul n params.polyLen).bind (fun n => checkedMul n U64_BYTES) =
      some (pubParams.length * U64_BYTES)) :
    parseQuery (serializeYpirQuery pqr pubParams) params = .ok (wordsLe pqr, wordsLe pubParams) := by
  have hlen := @length_serializeYpirQuery pqr pubParams
  have hhead : (serializeYpirQuery pqr pubParams).take U64_BYTES =
      toLe U64_BYTES (pqr.length * U64_BYTES) := by
    rw [serializeYpirQuery, List.append_assoc, List.take_append_of_le_length (by simp),
      List.take_of_length_le (by simp)]
  have hrest : (serializeYpirQuery pqr pubParams).drop U64_BYTES = wordsLe pqr ++ wordsLe pubParams := by
    rw [serializeYpirQuery, List.append_assoc, List.drop_append_of_le_length (by simp),
      List.drop_of_length_le (by simp), List.nil_append]
  have hdecl : ofLe (toLe U64_BYTES (pqr.length * U64_BYTES)) = pqr.length * U64_BYTES :=
    ofLe_toLe hfit
  have htake : (wordsLe pqr ++ wordsLe pubParams).take (pqr.length * U64_BYTES) = wordsLe pqr := by
    rw [← length_wordsLe, List.take_left]
  have hdrop : (wordsLe pqr ++ wordsLe pubParams).drop (pqr.length * U64_BYTES) =
      wordsLe pubParams := by
    rw [← length_wordsLe, List.drop_left]
  have hshort : U64_BYTES ≤ (serializeYpirQuery pqr pubParams).length := by omega
  have hinside : pqr.length * U64_BYTES ≤ (wordsLe pqr ++ wordsLe pubParams).length := by
    rw [List.length_append, length_wordsLe]
    omega
  rw [parseQuery]
  simp only [hhead, hrest, hdecl, htake, hdrop, hrows, checkedMul_eq hfit, hwords,
    ofOption_some, ok_bind, decide_eq_true hshort, decide_eq_true hinside, beq_self_eq_true,
    ensure_true]
  rw [length_wordsLe, ensure_pos (beq_self_eq_true _)]
  rfl

/-- A body with sections of the scenario's sizes parses into them. -/
lemma parseQuery_serialize (sizes : YpirSizes paramsFor)
    (hpoly : sc.polyLen = 2048 ∨ sc.polyLen = 4096) (hfit : queryWords sc * U64_BYTES < U64)
    (hpqr : pqr.length = queryWords sc) (hpub : pubParams.length = parameterWords sc.polyLen) :
    parseQuery (serializeYpirQuery pqr pubParams) (paramsFor sc) =
      .ok (wordsLe pqr, wordsLe pubParams) := by
  refine parseQuery_wordsLe ((sizes.rows sc).trans hpqr.symm) ?_ ?_
  · rw [hpqr]
    exact hfit
  · rw [hpub]
    exact sizes.parameters hpoly

/-- Words of a padded query: the rows, or the degree when that is larger. -/
lemma queryWords_supported {layout : PirLayout} (sup : layout.Supported) {bits} :
    queryWords ⟨2 ^ layout.tier0Layers, bits, layout.polyLen⟩ =
      max (2 ^ layout.tier0Layers) layout.polyLen := by
  obtain ⟨hlow, hhigh⟩ := sup.tier0
  simp only [MAX_TIER0_LAYERS] at hhigh
  rw [queryWords]
  dsimp only
  rcases sup.poly with h | h
  · rw [h]
    interval_cases layout.tier0Layers <;> decide
  · rw [h]
    interval_cases layout.tier0Layers <;> decide

/-- A client's query is admitted exactly when the layout does not combine the largest row count with
the larger degree. -/
theorem query_admitted_iff {layout : PirLayout} (hsup : layout.validateSupported = .ok ())
    (sizes : YpirSizes paramsFor) (hsc : tier1ScenarioForLayout layout = .ok sc) :
    (∀ pqr pubParams : List UInt64, pqr.length = queryWords sc →
      pubParams.length = parameterWords sc.polyLen →
      (serializeYpirQuery pqr pubParams).length ≤ MAX_QUERY_BODY_BYTES ∧
      parseQuery (serializeYpirQuery pqr pubParams) (paramsFor sc) =
        .ok (wordsLe pqr, wordsLe pubParams)) ↔
    ¬ (layout.tier0Layers = 16 ∧ layout.polyLen = 4096) := by
  have sup := PirLayout.validateSupported_ok hsup
  rw [tier1ScenarioForLayout_eq sup] at hsc
  obtain rfl := Except.ok.inj hsc
  have hrows := sup.two_pow_tier0_le
  constructor
  · rintro admitted ⟨hlayers, hpoly⟩
    obtain ⟨hbody, _⟩ := admitted (List.replicate _ 0) (List.replicate _ 0) List.length_replicate
      List.length_replicate
    rw [length_serializeYpirQuery, List.length_replicate, List.length_replicate,
      queryWords_supported sup, hlayers, hpoly] at hbody
    change U64_BYTES + (max (2 ^ 16) 4096 + parameterWords 4096) * U64_BYTES ≤
      MAX_QUERY_BODY_BYTES at hbody
    exact absurd hbody (by decide)
  · intro hne pqr pubParams hpqr hpub
    have hwords := @queryWords_supported layout sup (2 ^ layout.tier1Layers * 96 * 8)
    refine ⟨?_, parseQuery_serialize sizes sup.poly ?_ hpqr hpub⟩
    · rw [length_serializeYpirQuery, hpqr, hpub, hwords]
      rcases sup.poly with h | h
      · simp only [h, parameterWords, U64_BYTES, MAX_QUERY_BODY_BYTES, if_true]
        omega
      · have hlayers : layout.tier0Layers ≤ 15 := by
          have := sup.tier0.2
          simp only [MAX_TIER0_LAYERS] at this
          omega
        have hpow : 2 ^ layout.tier0Layers ≤ 2 ^ 15 := Nat.pow_le_pow_right (by decide) hlayers
        have hparams : parameterWords 4096 = 196608 := rfl
        simp only [h, hparams, U64_BYTES, MAX_QUERY_BODY_BYTES]
        omega
    · rw [hwords]
      simp only [U64_BYTES, U64]
      rcases sup.poly with h | h
      · omega
      · omega

/-- The parameters of the two degrees. -/
def sampleParams (sc : YpirScenario) : Params where
  dbRowsPaddedSimplepir := queryWords sc
  polyLen := sc.polyLen
  polyLenLog2 := if sc.polyLen = 2048 then 11 else 12
  tExpLeft := if sc.polyLen = 2048 then 3 else 4

/-- The sample parameters have positive sizes. -/
lemma sampleParams_sizes : YpirSizes sampleParams where
  rows := fun _ => rfl
  polyLen := fun _ => rfl
  degree2048 := fun _ h => ⟨if_pos h, if_pos h⟩
  degree4096 := fun sc h => ⟨if_neg (by rw [h]; decide), if_neg (by rw [h]; decide)⟩

/-- The compiled layout is admitted. -/
theorem query_admitted_compiled :
    tier1ScenarioForLayout COMPILED_PIR_LAYOUT = .ok ⟨4096, 98304, 4096⟩ ∧
    ∀ pqr pubParams : List UInt64, pqr.length = 4096 → pubParams.length = 196608 →
      (serializeYpirQuery pqr pubParams).length ≤ MAX_QUERY_BODY_BYTES ∧
      parseQuery (serializeYpirQuery pqr pubParams) (sampleParams ⟨4096, 98304, 4096⟩) =
        .ok (wordsLe pqr, wordsLe pubParams) := by
  have hsc : tier1ScenarioForLayout COMPILED_PIR_LAYOUT = .ok ⟨4096, 98304, 4096⟩ := by
    decide +kernel
  exact ⟨hsc, (query_admitted_iff (by decide +kernel) sampleParams_sizes hsc).mpr (by decide)⟩

/-- With 65,536 rows and degree 4096 the body is eight bytes over the limit. -/
theorem query_over_limit :
    PirLayout.validateSupported ⟨22, 16, 6, 4096⟩ = .ok () ∧
    tier1ScenarioForLayout ⟨22, 16, 6, 4096⟩ = .ok ⟨65536, 49152, 4096⟩ ∧
    ∃ pqr pubParams : List UInt64, pqr.length = queryWords ⟨65536, 49152, 4096⟩ ∧
      pubParams.length = parameterWords 4096 ∧
      (serializeYpirQuery pqr pubParams).length = MAX_QUERY_BODY_BYTES + 8 := by
  refine ⟨by decide +kernel, by decide +kernel, List.replicate _ 0, List.replicate _ 0,
    List.length_replicate, List.length_replicate, ?_⟩
  rw [length_serializeYpirQuery, List.length_replicate, List.length_replicate]
  decide

end Admission

end NullifierPir.Server
