import NullifierPir.Export.Boundaries
import NullifierPir.Export.Files
import NullifierPir.Export.Soundness
import NullifierPir.Ingest.FileStore
import NullifierPir.Lib.Utf8

/-!
# Interrupted exports

Port of `tiers_complete_for_height` of `pir/export/src/lib.rs`, which decides whether the tiers in a
directory are those of a height, and what it accepts after exports that were cut. An export replaces
Tier 0, Tier 1 and the metadata one after the other and in place (`export_cut`). The check compares
Tier 0 with the metadata by its root but Tier 1 only by its size, so metadata and Tier 0 of one export
are accepted beside Tier 1 of another (`tiers_complete_accepts_mixed`). That takes an export that is cut
between Tier 1 and the metadata while older metadata is in place, or an export of another layout that
is cut; without such cuts what is accepted is one export (`tiers_complete_is_one_export`).
-/

namespace NullifierPir.Export
open Rust ByteString Crash Hex Imt NullifierPir.Types

/-- The sizes that the metadata's layout implies, if the metadata is that of the network and height. -/
def expectedSizes (network : ZcashNetwork) (height : Nat) (root : PirMetadata) :
    Option (Nat × Nat × Nat) :=
  match root.pirLayout.validateSupported, root.pirLayout.tier1Rows, root.pirLayout.tier1RowBytes,
      root.pirLayout.tier0Bytes with
  | .ok _, .ok layoutRows, .ok layoutRowBytes, .ok tier0Bytes =>
    if root.zcashNetwork ≠ network ∨ root.height ≠ some height ∨
        isCurrentDataset root.nullifierPool root.datasetVersion = false ∨
        root.pirDepth ≠ root.pirLayout.pirDepth ∨ root.tier1Rows ≠ layoutRows ∨
        root.tier1RowBytes ≠ layoutRowBytes ∨ root.tier0Bytes ≠ tier0Bytes then none
    else some (layoutRows, layoutRowBytes, tier0Bytes)
  | _, _, _, _ => none

/-- The root in the metadata, if it is one. -/
def rootOf (pirRoot : String) : Option Fp := do
  let bytes ← hexDecode pirRoot.toList
  if bytes.length ≠ 32 then none else Fp.fromRepr bytes

/-- Tier 0 parses and has the root of the metadata. -/
def tier0Matches (root : PirMetadata) (tier0 : Bytes) : Bool :=
  match Tier0Data.fromLayout tier0 root.pirLayout, rootOf root.pirRoot with
  | .ok parsed, some expected =>
    match parsed.root with
    | .ok r => r == expected
    | .error _ => false
  | _, _ => false

/-- The checks on the tier files (Rust `tiers_complete_for_height`, behind the metadata). -/
def tierFilesMatch (root : PirMetadata) (layoutRows layoutRowBytes tier0Bytes : Nat) : Fs Bool := do
  let sizes ← Prog.inspect fun s : Dir => ((s .tier0).map List.length, (s .tier1).map List.length)
  match sizes with
  | (some size0, some size1) =>
    if size0 ≠ tier0Bytes then return false
    let tier0 ← Fs.readFile .tier0
    return tier0Matches root tier0 && size1 == layoutRows * layoutRowBytes
  | _ => return false

/-- Whether the directory holds complete tiers of a height (Rust `tiers_complete_for_height`). -/
def tiersCompleteForHeight (json : Json PirMetadata) (network : ZcashNetwork) (height : Nat) :
    Fs Bool := do
  if ← Fs.exists_ .pirRoot then
    let text ← Fs.readFile .pirRoot
    Prog.lift (context "read pir_root.json"
      (ensure (Utf8.valid text) "stream did not contain valid UTF-8"))
    match json.decode text with
    | .error _ => return false
    | .ok root =>
      match expectedSizes network height root with
      | none => return false
      | some (layoutRows, layoutRowBytes, tier0Bytes) =>
        tierFilesMatch root layoutRows layoutRowBytes tier0Bytes
  else return false

section Check

variable {json : Json PirMetadata} {network : ZcashNetwork} {height : Nat} {s : Dir}
  {root : PirMetadata}

/-- The metadata is that of the network and height, for files of its layout. -/
structure Names (network : ZcashNetwork) (height : Nat) (root : PirMetadata) : Prop where
  network : root.zcashNetwork = network
  height : root.height = some height
  dataset : isCurrentDataset root.nullifierPool root.datasetVersion = true
  layout : root.pirLayout.Supported
  depth : root.pirDepth = root.pirLayout.pirDepth
  rows : root.tier1Rows = 2 ^ root.pirLayout.tier0Layers
  rowBytes : root.tier1RowBytes = 2 ^ root.pirLayout.tier1Layers * 96
  tier0Bytes : root.tier0Bytes =
    (2 ^ root.pirLayout.tier0Layers - 1) * 32 + 2 ^ root.pirLayout.tier0Layers * 64

/-- The sizes of the tiers of a layout. -/
def tier0Size (l : PirLayout) : Nat := (2 ^ l.tier0Layers - 1) * 32 + 2 ^ l.tier0Layers * 64

def tier1Size (l : PirLayout) : Nat := 2 ^ l.tier0Layers * (2 ^ l.tier1Layers * 96)

/-- The sizes of metadata that names the network and height. -/
lemma expectedSizes_eq_some {sizes} :
    expectedSizes network height root = some sizes ↔
      Names network height root ∧ sizes = (2 ^ root.pirLayout.tier0Layers,
        2 ^ root.pirLayout.tier1Layers * 96, tier0Size root.pirLayout) := by
  rw [expectedSizes]
  cases hvalid : root.pirLayout.validateSupported with
  | error e =>
    refine ⟨fun h => (by cases h), fun h => ?_⟩
    rw [h.1.layout.validateSupported_eq] at hvalid
    cases hvalid
  | ok u =>
    have sup := PirLayout.validateSupported_ok hvalid
    rw [sup.tier1Rows_eq, sup.tier1RowBytes_eq, sup.tier0Bytes_eq]
    dsimp only
    split
    · rename_i hbad
      refine ⟨fun h => (by cases h), fun h => ?_⟩
      obtain ⟨⟨h1, h2, h3, _, h5, h6, h7, h8⟩, _⟩ := h
      simp [h1, h2, h3, h5, h6, h7, h8] at hbad
    · rename_i hgood
      simp only [not_or, not_not, Bool.not_eq_false] at hgood
      obtain ⟨h1, h2, h3, h5, h6, h7, h8⟩ := hgood
      refine ⟨fun h => ⟨⟨h1, h2, h3, sup, h5, h6, h7, h8⟩, (Option.some.inj h).symm⟩, ?_⟩
      rintro ⟨_, rfl⟩
      rfl

/-- A Tier 0 that matches has the root of the metadata. -/
lemma tier0Matches_ok {tier0 : Bytes} (h : tier0Matches root tier0 = true) :
    ∃ r, rootOf root.pirRoot = some r ∧ readFp tier0 0 = .ok r := by
  rw [tier0Matches] at h
  cases hparse : Tier0Data.fromLayout tier0 root.pirLayout with
  | error e =>
    rw [hparse] at h
    cases h
  | ok parsed =>
    have hdata : parsed.data = tier0 := by
      obtain ⟨_, _, ok⟩ := bind_eq_ok.mp hparse
      obtain ⟨_, _, ok⟩ := bind_eq_ok.mp ok
      obtain ⟨_, _, ok⟩ := bind_eq_ok.mp ok
      obtain ⟨_, _, ok⟩ := bind_eq_ok.mp ok
      obtain ⟨_, _, ok⟩ := bind_eq_ok.mp ok
      obtain ⟨_, _, ok⟩ := bind_eq_ok.mp ok
      cases ok
      rfl
    cases hroot : rootOf root.pirRoot with
    | none =>
      rw [hparse, hroot] at h
      cases h
    | some expected =>
      cases hread : parsed.root with
      | error e =>
        simp only [hparse, hroot, hread] at h
        cases h
      | ok r =>
        simp only [hparse, hroot, hread] at h
        obtain rfl : r = expected := beq_iff_eq.mp h
        exact ⟨r, rfl, hdata ▸ hread⟩

/-- What an accepted directory holds. -/
structure Accepted (json : Json PirMetadata) (network : ZcashNetwork) (height : Nat) (s : Dir)
    (root : PirMetadata) : Prop where
  metadata : ∃ text, s .pirRoot = some text ∧ Utf8.valid text = true ∧ json.decode text = .ok root
  names : Names network height root
  tier0 : ∃ tier0, s .tier0 = some tier0 ∧ tier0.length = tier0Size root.pirLayout ∧
    tier0Matches root tier0 = true
  tier1 : ∃ tier1, s .tier1 = some tier1 ∧ tier1.length = tier1Size root.pirLayout

/-- The files match when both are there with their sizes, and Tier 0 has the root. -/
lemma tierFilesMatch_true {rows rowBytes tier0Bytes} :
    (tierFilesMatch root rows rowBytes tier0Bytes s).2 = .ok true ↔
      ∃ tier0 tier1, s .tier0 = some tier0 ∧ s .tier1 = some tier1 ∧ tier0.length = tier0Bytes ∧
        tier0Matches root tier0 = true ∧ tier1.length = rows * rowBytes := by
  rw [tierFilesMatch, Prog.inspect_bind rfl]
  cases h0 : s .tier0 with
  | none => exact ⟨fun h => (by cases h), fun ⟨_, _, h, _⟩ => by cases h⟩
  | some tier0 =>
    cases h1 : s .tier1 with
    | none => exact ⟨fun h => (by cases h), fun ⟨_, _, _, h, _⟩ => by cases h⟩
    | some tier1 =>
      dsimp only [Option.map_some]
      split
      · rename_i hsize
        refine ⟨fun h => (by cases h), ?_⟩
        rintro ⟨_, _, h0, _, hlen, _⟩
        cases h0
        exact absurd hlen hsize
      · rename_i hsize
        rw [readFile_bind h0]
        constructor
        · intro h
          have hand : (tier0Matches root tier0 && tier1.length == rows * rowBytes) = true :=
            Except.ok.inj h
          obtain ⟨hmatch, hlen⟩ := Bool.and_eq_true_iff.mp hand
          exact ⟨tier0, tier1, rfl, rfl, not_not.mp hsize, hmatch, beq_iff_eq.mp hlen⟩
        · rintro ⟨_, _, h0, h1, _, hmatch, hlen⟩
          cases h0
          cases h1
          exact congrArg Except.ok (Bool.and_eq_true_iff.mpr ⟨hmatch, beq_iff_eq.mpr hlen⟩)

/-- The check accepts exactly such a directory. -/
lemma tiersCompleteForHeight_true :
    (tiersCompleteForHeight json network height s).2 = .ok true ↔
      ∃ root, Accepted json network height s root := by
  rw [tiersCompleteForHeight]
  cases hroot : s .pirRoot with
  | none =>
    rw [exists_bind (b := false) (by rw [hroot]; rfl)]
    refine ⟨fun h => (by cases h), ?_⟩
    rintro ⟨root, ⟨_, htext, _⟩, _⟩
    rw [hroot] at htext
    cases htext
  | some text =>
    rw [exists_bind (b := true) (by rw [hroot]; rfl), if_pos rfl, readFile_bind hroot]
    have hread : ∀ root, Accepted json network height s root →
        Utf8.valid text = true ∧ json.decode text = .ok root := by
      rintro root ⟨⟨_, htext, hread⟩, _⟩
      rw [hroot] at htext
      cases htext
      exact hread
    cases hvalid : Utf8.valid text with
    | false =>
      refine ⟨fun h => (by cases h), ?_⟩
      rintro ⟨root, accepted⟩
      rw [(hread root accepted).1] at hvalid
      cases hvalid
    | true =>
      have hdecoded : ∀ root, Accepted json network height s root → json.decode text = .ok root :=
        fun root accepted => (hread root accepted).2
      rw [Prog.lift_bind (show context _ (ensure true _) = .ok () from rfl)]
      cases hdecode : json.decode text with
      | error e =>
        refine ⟨fun h => (by cases h), ?_⟩
        rintro ⟨root, accepted⟩
        rw [hdecoded root accepted] at hdecode
        cases hdecode
      | ok root =>
        dsimp only
        cases hsizes : expectedSizes network height root with
        | none =>
          refine ⟨fun h => (by cases h), ?_⟩
          rintro ⟨root', accepted⟩
          rw [hdecoded root' accepted] at hdecode
          cases hdecode
          rw [expectedSizes_eq_some.mpr ⟨accepted.names, rfl⟩] at hsizes
          cases hsizes
        | some sizes =>
          obtain ⟨names, rfl⟩ := expectedSizes_eq_some.mp hsizes
          dsimp only
          rw [tierFilesMatch_true]
          constructor
          · rintro ⟨tier0, tier1, h0, h1, hlen0, hmatch, hlen1⟩
            exact ⟨root, ⟨text, hroot, hvalid, hdecode⟩, names, ⟨tier0, h0, hlen0, hmatch⟩, tier1, h1,
              hlen1⟩
          · rintro ⟨root', accepted⟩
            rw [hdecoded root' accepted] at hdecode
            cases hdecode
            obtain ⟨tier0, h0, hlen0, hmatch⟩ := accepted.tier0
            obtain ⟨tier1, h1, hlen1⟩ := accepted.tier1
            exact ⟨tier0, tier1, h0, h1, hlen0, hmatch, hlen1⟩

end Check

/-! ### One export -/

section Export

variable {json : Json PirMetadata} {l : PirLayout} {s s' : Dir} {done : List FsOp}

/-- An export (Rust `export_all_with_layout` with its arguments). -/
structure ExportRun where
  tree : PirTree
  network : ZcashNetwork
  height : Option Nat
  layout : PirLayout

namespace ExportRun

def prog (e : ExportRun) (json : Json PirMetadata) : Fs Unit :=
  exportAllWithLayout json e.tree e.network e.height e.layout

/-- The three files of a complete export. -/
structure Output (e : ExportRun) (json : Json PirMetadata) (tier0 tier1 text : Bytes) : Prop where
  tier0 : exportTier0Layout e.tree.pirRoot e.tree.levels e.tree.ranges e.tree.emptyHashes e.layout =
    .ok tier0
  tier1 : exportTier1Layout e.tree.ranges e.layout = .ok tier1
  text : text = json.encode (exportMetadata e.tree e.network e.height e.layout (tier0Size e.layout)
    (2 ^ e.layout.tier0Layers) (2 ^ e.layout.tier1Layers * 96))

end ExportRun

/-- A layout that exports Tier 0 is supported. -/
lemma validateSupported_of_tier0 {root levels ranges emptyHashes tier0}
    (ok : exportTier0Layout root levels ranges emptyHashes l = .ok tier0) : l.Supported := by
  obtain ⟨_, hvalid, _⟩ := bind_eq_ok.mp ok
  exact PirLayout.validateSupported_ok (context_eq_ok.mp hvalid)

/-- A Tier 0 blob has the size of its layout and starts with the root. -/
lemma exportTier0Layout_ok {root levels ranges emptyHashes tier0}
    (ok : exportTier0Layout root levels ranges emptyHashes l = .ok tier0) :
    tier0.length = tier0Size l ∧ readFp tier0 0 = .ok root := by
  have sup := validateSupported_of_tier0 ok
  rw [exportTier0Layout, sup.validateSupported_eq, context_ok, ok_bind, sup.tier1Rows_eq, ok_bind,
    sup.tier0Bytes_eq, ok_bind, sup.tier0InternalNodes_eq, ok_bind] at ok
  obtain ⟨nodes, _, ok⟩ := bind_eq_ok.mp ok
  obtain ⟨records, _, ok⟩ := bind_eq_ok.mp ok
  by_cases hfits : (encodeTier0 (root :: nodes) records).length ≤ tier0Size l
  · rw [fillBuffer, ← tier0Size, if_pos hfits] at ok
    obtain rfl := Except.ok.inj ok
    have hwords : encodeTier0 (root :: nodes) records = encodeWords (tier0Words (root :: nodes) records) :=
      rfl
    have hpos : 0 < (tier0Words (root :: nodes) records).length := by
      rw [tier0Words, List.length_append, List.length_cons]
      omega
    have hread := readFp_encodeWords hpos
    have hlen : 32 ≤ (encodeWords (tier0Words (root :: nodes) records)).length := by
      rw [length_encodeWords]
      omega
    constructor
    · rw [List.length_append, List.length_replicate]
      omega
    · rw [readFp, if_pos (by rw [List.length_append, hwords]; omega), hwords,
        slice_append_left (by omega)]
      rw [Nat.zero_mul, readFp, if_pos (by omega)] at hread
      exact hread
  · rw [fillBuffer, ← tier0Size, if_neg hfits] at ok
    cases ok

/-- Tier 1 is of the size of the layout. -/
lemma length_exportTier1Layout {ranges tier1} (sup : l.Supported)
    (ok : exportTier1Layout ranges l = .ok tier1) : tier1.length = tier1Size l := by
  rw [exportTier1Layout_eq sup] at ok
  cases ok
  exact length_tier1

/-- The root in the metadata reads back. -/
lemma rootOf_hexEncode {r : Fp} : rootOf (hexEncode r.toRepr) = some r := by
  rw [rootOf, hexDecode_hexEncode]
  simp only [Option.bind_eq_bind, Option.bind_some, Fp.length_toRepr, ne_eq, not_true_eq_false,
    if_false, Fp.fromRepr_toRepr]

/-- The operation writes none of the three files. -/
def Idle (o : FsOp) : Prop := o.Avoids .tier0 ∧ o.Avoids .tier1 ∧ o.Avoids .pirRoot

/-- Removing another file is idle. -/
lemma removeIfExists_idle {n : DataFile} (hn : n ≠ .tier0 ∧ n ≠ .tier1 ∧ n ≠ .pirRoot) :
    (Fs.removeIfExists n).Within Idle .diverge := by
  refine .bind .inspect ?_
  intro b
  cases b with
  | false => exact .pure
  | true => exact .perform hn

/-- So is removing the legacy files. -/
lemma removeLegacy_idle : (Prog.forEach LEGACY_ARTIFACTS Fs.removeIfExists : Fs Unit).Within Idle
    .diverge := by
  refine .forEach fun n hn => removeIfExists_idle ?_
  revert n
  decide

/-- What a cut export leaves of the three files. -/
inductive Cut (tier0 tier1 text : Bytes) (s s' : Dir) : Prop
  | kept : s' .tier0 = s .tier0 → s' .tier1 = s .tier1 → s' .pirRoot = s .pirRoot →
      Cut tier0 tier1 text s s'
  | inTier0 {p} : p <+: tier0 → s' .tier0 = some p → s' .tier1 = s .tier1 →
      s' .pirRoot = s .pirRoot → Cut tier0 tier1 text s s'
  | inTier1 {p} : p <+: tier1 → s' .tier0 = some tier0 → s' .tier1 = some p →
      s' .pirRoot = s .pirRoot → Cut tier0 tier1 text s s'
  | inMetadata {p} : p <+: text → s' .tier0 = some tier0 → s' .tier1 = some tier1 →
      s' .pirRoot = some p → Cut tier0 tier1 text s s'

/-- The three files are the same. -/
structure Same (s s' : Dir) : Prop where
  tier0 : s' .tier0 = s .tier0
  tier1 : s' .tier1 = s .tier1
  pirRoot : s' .pirRoot = s .pirRoot

/-- Idle operations keep the three files. -/
lemma Same.of_idle {ops : List FsOp} (idle : ∀ o ∈ ops, Idle o) (cut : Interrupted s ops s') :
    Same s s' where
  tier0 := cut.of_avoids fun o ho => (idle o ho).1
  tier1 := cut.of_avoids fun o ho => (idle o ho).2.1
  pirRoot := cut.of_avoids fun o ho => (idle o ho).2.2

/-- Idle operations keep the three files. -/
lemma Same.exec_idle {ops : List FsOp} (s : Dir) (idle : ∀ o ∈ ops, Idle o) : Same s (exec s ops) :=
  .of_idle idle .exec

/-- The operations of an export. -/
lemma exists_export_ops {e : ExportRun} {tier0 tier1 text} (out : e.Output json tier0 tier1 text) :
    ∃ pre mid post, (e.prog json s).1 = pre ++ .create .tier0 tier0 :: (mid ++ .create .tier1 [] ::
        .append .tier1 tier1 :: (post ++ [.create .pirRoot text])) ∧
      (∀ o ∈ pre, Idle o) ∧ (∀ o ∈ mid, Idle o) ∧ ∀ o ∈ post, Idle o := by
  have sup := validateSupported_of_tier0 out.tier0
  have hidle : ∀ cache tmp, (cache ≠ .tier0 ∧ cache ≠ .tier1 ∧ cache ≠ .pirRoot) →
      (tmp ≠ .tier0 ∧ tmp ≠ .tier1 ∧ tmp ≠ .pirRoot) →
      (evictStalePrecompute cache tmp).Within Idle .diverge := fun cache tmp hc ht =>
    .bind (removeIfExists_idle hc) fun _ => removeIfExists_idle ht
  obtain ⟨u, hlegacy⟩ := removeLegacy_returns s
  rw [ExportRun.prog, exportAllWithLayout, sup.validateSupported_eq, context_ok, Prog.lift_bind rfl,
    Prog.bind_of_ok hlegacy, Prog.lift_bind out.tier0, Prog.perform_bind]
  generalize hs₁ : (Op.create .tier0 tier0 : FsOp).apply _ = s₁
  obtain ⟨_, hevict⟩ := @evictStalePrecompute_returns .tier0Precompute .tier0PrecomputeTmp s₁
  rw [Prog.bind_of_ok hevict, Prog.perform_bind, Prog.lift_bind out.tier1, Prog.perform_bind]
  generalize hs₂ : (Op.append .tier1 tier1 : FsOp).apply _ = s₂
  obtain ⟨_, hevict'⟩ := @evictStalePrecompute_returns .tier1Precompute .tier1PrecomputeTmp s₂
  rw [Prog.bind_of_ok hevict', sup.tier1Rows_eq, Prog.lift_bind rfl, sup.tier1RowBytes_eq,
    Prog.lift_bind rfl, (exportTier0Layout_ok out.tier0).1, ← out.text]
  exact ⟨_, _, _, rfl, (removeLegacy_idle s).1, (hidle _ _ (by decide) (by decide) s₁).1,
    (hidle _ _ (by decide) (by decide) s₂).1⟩

/-- The metadata is the last write. -/
lemma cut_metadata {tier0 tier1 text} {post : List FsOp} {s₀ : Dir} (idle : ∀ o ∈ post, Idle o)
    (h0 : s .tier0 = some tier0) (h1 : s .tier1 = some tier1) (hr : s .pirRoot = s₀ .pirRoot)
    (cut : Interrupted s (post ++ [.create .pirRoot text]) s') : Cut tier0 tier1 text s₀ s' := by
  cases interrupted_append.mp cut with
  | inl cut =>
    have same := Same.of_idle idle cut
    exact .inTier1 (List.prefix_refl tier1) (same.tier0.trans h0) (same.tier1.trans h1)
      (same.pirRoot.trans hr)
  | inr cut =>
    have same := Same.exec_idle s idle
    generalize exec s post = s₁ at cut same
    have k0 := same.tier0.trans h0
    have k1 := same.tier1.trans h1
    cases cut with
    | stop => exact .inTier1 (List.prefix_refl tier1) k0 k1 (same.pirRoot.trans hr)
    | torn torn =>
      cases torn with
      | create hp => exact .inMetadata hp (by simpa using k0) (by simpa using k1) (by simp)
    | step cut =>
      rw [interrupted_nil.mp cut]
      exact .inMetadata (List.prefix_refl text) (by simpa using k0) (by simpa using k1) (by simp)

/-- Tier 1 is truncated, then written. -/
lemma cut_tier1 {tier0 tier1 text} {mid post : List FsOp} {s₀ : Dir} (hmid : ∀ o ∈ mid, Idle o)
    (hpost : ∀ o ∈ post, Idle o) (h0 : s .tier0 = some tier0) (h1 : s .tier1 = s₀ .tier1)
    (hr : s .pirRoot = s₀ .pirRoot)
    (cut : Interrupted s (mid ++ .create .tier1 [] :: .append .tier1 tier1 ::
      (post ++ [.create .pirRoot text])) s') : Cut tier0 tier1 text s₀ s' := by
  cases interrupted_append.mp cut with
  | inl cut =>
    have same := Same.of_idle hmid cut
    exact .inTier0 (List.prefix_refl tier0) (same.tier0.trans h0) (same.tier1.trans h1)
      (same.pirRoot.trans hr)
  | inr cut =>
    have same := Same.exec_idle s hmid
    generalize exec s mid = s₁ at cut same
    have k0 := same.tier0.trans h0
    have kr := same.pirRoot.trans hr
    cases cut with
    | stop => exact .inTier0 (List.prefix_refl tier0) k0 (same.tier1.trans h1) kr
    | torn torn =>
      cases torn with
      | create hp =>
        obtain rfl := List.prefix_nil.mp hp
        exact .inTier1 List.nil_prefix (by simpa using k0) (by simp) (by simpa using kr)
    | step cut =>
      cases cut with
      | stop => exact .inTier1 List.nil_prefix (by simpa using k0) (by simp) (by simpa using kr)
      | torn torn =>
        cases torn with
        | append hp => exact .inTier1 hp (by simpa using k0) (by simp) (by simpa using kr)
      | step cut =>
        exact cut_metadata hpost (by simpa using k0) (by simp) (by simpa using kr) cut

/-- An export that is cut anywhere. -/
lemma export_cut {e : ExportRun} {tier0 tier1 text} (out : e.Output json tier0 tier1 text)
    (cut : Interrupted s (e.prog json s).1 s') : Cut tier0 tier1 text s s' := by
  obtain ⟨pre, mid, post, hops, hpre, hmid, hpost⟩ := @exists_export_ops json s e tier0 tier1 text out
  rw [hops] at cut
  cases interrupted_append.mp cut with
  | inl cut =>
    have same := Same.of_idle hpre cut
    exact .kept same.tier0 same.tier1 same.pirRoot
  | inr cut =>
    have same := Same.exec_idle s hpre
    generalize exec s pre = s₁ at cut same
    cases cut with
    | stop => exact .kept same.tier0 same.tier1 same.pirRoot
    | torn torn =>
      cases torn with
      | create hp =>
        exact .inTier0 hp (by simp) (by simpa using same.tier1) (by simpa using same.pirRoot)
    | step cut =>
      exact cut_tier1 hmid hpost (by simp) (by simpa using same.tier1) (by simpa using same.pirRoot)
        cut

/-- An export that runs to its end. -/
lemma export_after {e : ExportRun} {tier0 tier1 text} (out : e.Output json tier0 tier1 text) :
    (e.prog json).after s .tier0 = some tier0 ∧ (e.prog json).after s .tier1 = some tier1 ∧
      (e.prog json).after s .pirRoot = some text := by
  obtain ⟨pre, mid, post, hops, _, hmid, hpost⟩ := @exists_export_ops json s e tier0 tier1 text out
  rw [Prog.after, hops]
  simp only [exec_append, exec_cons, exec_nil, apply_create]
  generalize hs₁ : (Op.create .tier0 tier0 : FsOp).apply (exec s pre) = s₁
  have mid₀ := (Same.exec_idle s₁ hmid).tier0
  generalize exec s₁ mid = s₂ at mid₀ ⊢
  generalize hs₃ : (Op.append .tier1 tier1 : FsOp).apply ((Op.create .tier1 [] : FsOp).apply s₂) = s₃
  have post₃ := Same.exec_idle s₃ hpost
  refine ⟨?_, ?_, rfl⟩
  · rw [if_neg (by decide), post₃.tier0, ← hs₃]
    simp [mid₀, ← hs₁]
  · rw [if_neg (by decide), post₃.tier1, ← hs₃]
    simp

/-- An export that cannot write its files touches none of the three. -/
lemma export_idle {e : ExportRun} (none : ∀ tier0 tier1 text, ¬ e.Output json tier0 tier1 text) :
    ∀ o ∈ (e.prog json s).1, Idle o := by
  intro o ho
  rw [ExportRun.prog, exportAllWithLayout] at ho
  cases hvalid : context "invalid export layout" e.layout.validateSupported with
  | error f =>
    rw [hvalid, Prog.bind_of_error rfl] at ho
    cases ho
  | ok u =>
    have sup := PirLayout.validateSupported_ok (context_eq_ok.mp hvalid)
    obtain ⟨_, hlegacy⟩ := removeLegacy_returns s
    rw [hvalid, Prog.lift_bind rfl, Prog.bind_of_ok hlegacy] at ho
    cases h0 : exportTier0Layout e.tree.pirRoot e.tree.levels e.tree.ranges e.tree.emptyHashes
        e.layout with
    | error f =>
      rw [h0, Prog.bind_of_error rfl] at ho
      exact (removeLegacy_idle s).1 o (by simpa [Prog.lift] using ho)
    | ok tier0 => exact absurd ⟨h0, exportTier1Layout_eq sup, rfl⟩ (none _ _ _)

end Export

/-! ### Runs -/

section Runs

variable {json : Json PirMetadata} {allowed : ExportRun → Dir → Dir → Prop} {s s' : Dir}
  {es : List ExportRun}

/-- The directories that exports leave, from an empty one, if each is cut only as allowed. -/
inductive ExportRuns (json : Json PirMetadata) (allowed : ExportRun → Dir → Dir → Prop) :
    List ExportRun → Dir → Prop
  | start : ExportRuns json allowed [] fun _ => none
  | complete {older : List ExportRun} {dir : Dir} (e : ExportRun) : ExportRuns json allowed older dir →
      ExportRuns json allowed (e :: older) ((e.prog json).after dir)
  | cut {older : List ExportRun} {dir dir' : Dir} (e : ExportRun) : ExportRuns json allowed older dir →
      Interrupted dir (e.prog json dir).1 dir' → allowed e dir dir' →
      ExportRuns json allowed (e :: older) dir'

/-- While older metadata stays in place, a cut export has written neither tier, or it has the layout of
that metadata and has not written the whole of Tier 1. -/
def SparesOlder (json : Json PirMetadata) (e : ExportRun) (s s' : Dir) : Prop :=
  ∀ text root, s .pirRoot = some text → json.decode text = .ok root → s' .pirRoot = some text →
    s' .tier0 = s .tier0 ∧ s' .tier1 = s .tier1 ∨
      root.pirLayout = e.layout ∧
        ∀ tier1, exportTier1Layout e.tree.ranges e.layout = .ok tier1 → s' .tier1 ≠ some tier1

/-- The metadata in place is that of an export, Tier 0 is its Tier 0 or is rejected beside it, and so is
Tier 1. -/
def Beside (json : Json PirMetadata) (es : List ExportRun) (s : Dir) : Prop :=
  ∀ text root, s .pirRoot = some text → json.decode text = .ok root →
    ∃ e ∈ es, ∃ tier0 tier1, e.Output json tier0 tier1 text ∧
      (∀ t, s .tier0 = some t → t.length = tier0Size e.layout → readFp t 0 = .ok e.tree.pirRoot →
        t = tier0) ∧
      ∀ t, s .tier1 = some t → t.length = tier1Size e.layout → t = tier1

/-- What lies beside complete exports depends on the three files alone. -/
lemma Beside.of_same (beside : Beside json es s) (same : Same s s') : Beside json es s' := by
  intro text root htext hroot
  rw [same.pirRoot] at htext
  rw [same.tier0, same.tier1]
  exact beside text root htext hroot

/-- One more export leaves it beside. -/
lemma Beside.mono {e : ExportRun} (beside : Beside json es s) : Beside json (e :: es) s := by
  intro text root htext hroot
  obtain ⟨e', he', rest⟩ := beside text root htext hroot
  exact ⟨e', List.mem_cons_of_mem _ he', rest⟩

/-- The complete files of an export. -/
lemma Beside.of_output {e : ExportRun} {tier0 tier1 text} (out : e.Output json tier0 tier1 text)
    (h0 : s .tier0 = some tier0) (h1 : s .tier1 = some tier1) (hr : s .pirRoot = some text) :
    Beside json (e :: es) s := by
  intro text' root htext _
  rw [hr] at htext
  cases htext
  refine ⟨e, List.mem_cons_self, tier0, tier1, out, fun t ht _ _ => ?_, fun t ht _ => ?_⟩
  · rw [h0] at ht
    exact (Option.some.inj ht).symm
  · rw [h1] at ht
    exact (Option.some.inj ht).symm

/-- The metadata of an export has its layout. -/
lemma ExportRun.Output.layout_eq {e : ExportRun} {tier0 tier1 text root}
    (out : e.Output json tier0 tier1 text) (hroot : json.decode text = .ok root) :
    root.pirLayout = e.layout := by
  rw [out.text, json.decode_encode] at hroot
  cases hroot
  rfl

/-- In one layout, Tier 0 of another tree has another root. -/
lemma ExportRun.Output.tier0_eq {trees : Set PirTree} (inj : Set.InjOn PirTree.pirRoot trees)
    {e e' : ExportRun} {tier0 tier1 text tier0' tier1' text'} (out : e.Output json tier0 tier1 text)
    (out' : e'.Output json tier0' tier1' text') (he : e.tree ∈ trees) (he' : e'.tree ∈ trees)
    (hl : e'.layout = e.layout) (hread : readFp tier0 0 = .ok e'.tree.pirRoot) : tier0 = tier0' := by
  have hroot := (exportTier0Layout_ok out.tier0).2
  rw [hread] at hroot
  have htree := inj he' he (Except.ok.inj hroot)
  have h0 := out'.tier0
  rw [hl, htree, out.tier0] at h0
  exact Except.ok.inj h0

/-- A cut that spares the older metadata. -/
lemma Beside.of_cut {trees : Set PirTree} (inj : Set.InjOn PirTree.pirRoot trees) {e : ExportRun}
    {tier0 tier1 text} (mem : ∀ e' ∈ e :: es, e'.tree ∈ trees) (beside : Beside json es s)
    (out : e.Output json tier0 tier1 text) (cut : Cut tier0 tier1 text s s')
    (spares : SparesOlder json e s s') : Beside json (e :: es) s' := by
  have hlen0 := (exportTier0Layout_ok out.tier0).1
  have hlen1 := length_exportTier1Layout (validateSupported_of_tier0 out.tier0) out.tier1
  intro text' root htext hroot
  cases cut with
  | kept k0 k1 kr => exact (beside.of_same ⟨k0, k1, kr⟩).mono text' root htext hroot
  | @inTier0 p hp k0 k1 kr =>
    cases spares text' root (kr ▸ htext) hroot htext with
    | inl same => exact (beside.of_same ⟨same.1, same.2, kr⟩).mono text' root htext hroot
    | inr newer =>
      obtain ⟨e', he', tier0', tier1', out', in0, in1⟩ := beside text' root (kr ▸ htext) hroot
      have hl : e'.layout = e.layout := (out'.layout_eq hroot).symm.trans newer.1
      refine ⟨e', List.mem_cons_of_mem _ he', tier0', tier1', out', ?_, k1 ▸ in1⟩
      intro t ht hlen hread
      rw [k0] at ht
      cases ht
      rw [hl, ← hlen0] at hlen
      obtain rfl := hp.eq_of_length hlen
      exact out.tier0_eq inj out' (mem e List.mem_cons_self) (mem e' (List.mem_cons_of_mem _ he')) hl
        hread
  | @inTier1 p hp k0 k1 kr =>
    cases spares text' root (kr ▸ htext) hroot htext with
    | inl same => exact (beside.of_same ⟨same.1, same.2, kr⟩).mono text' root htext hroot
    | inr newer =>
      obtain ⟨e', he', tier0', tier1', out', in0, in1⟩ := beside text' root (kr ▸ htext) hroot
      have hl : e'.layout = e.layout := (out'.layout_eq hroot).symm.trans newer.1
      refine ⟨e', List.mem_cons_of_mem _ he', tier0', tier1', out', ?_, ?_⟩
      · intro t ht _ hread
        rw [k0] at ht
        cases ht
        exact out.tier0_eq inj out' (mem e List.mem_cons_self) (mem e' (List.mem_cons_of_mem _ he')) hl
          hread
      · intro t ht hlen
        rw [k1] at ht
        cases ht
        rw [hl, ← hlen1] at hlen
        obtain rfl := hp.eq_of_length hlen
        exact absurd k1 (newer.2 p out.tier1)
  | @inMetadata p hp k0 k1 kr =>
    rw [kr] at htext
    cases htext
    by_cases hwhole : text' = text
    · exact Beside.of_output out k0 k1 (hwhole ▸ kr) text' root kr hroot
    · rw [out.text] at hp hwhole
      exact absurd hroot (json.decode_cut _ _ _ hp hwhole)

/-- The invariant of runs whose cuts spare the older metadata. -/
lemma ExportRuns.beside {trees : Set PirTree} (inj : Set.InjOn PirTree.pirRoot trees)
    (runs : ExportRuns json (SparesOlder json) es s) (mem : ∀ e ∈ es, e.tree ∈ trees) :
    Beside json es s := by
  induction runs with
  | start => exact fun _ _ htext => by cases htext
  | @complete older dir e runs ih =>
    have beside := ih fun e' he' => mem e' (List.mem_cons_of_mem _ he')
    by_cases hout : ∃ tier0 tier1 text, e.Output json tier0 tier1 text
    · obtain ⟨tier0, tier1, text, out⟩ := hout
      obtain ⟨h0, h1, hr⟩ := @export_after json dir e tier0 tier1 text out
      exact .of_output out h0 h1 hr
    · have idle := @export_idle json dir e fun tier0 tier1 text out => hout ⟨tier0, tier1, text, out⟩
      exact (beside.of_same (.exec_idle dir idle)).mono
  | @cut older dir dir' e runs hcut spares ih =>
    have beside := ih fun e' he' => mem e' (List.mem_cons_of_mem _ he')
    by_cases hout : ∃ tier0 tier1 text, e.Output json tier0 tier1 text
    · obtain ⟨tier0, tier1, text, out⟩ := hout
      exact beside.of_cut inj mem out (export_cut out hcut) spares
    · have idle := @export_idle json dir e fun tier0 tier1 text out => hout ⟨tier0, tier1, text, out⟩
      exact (beside.of_same (.of_idle idle hcut)).mono

/-- What is accepted at a height is one export of that height, if each cut spared the older metadata. -/
theorem tiers_complete_is_one_export {trees : Set PirTree} (inj : Set.InjOn PirTree.pirRoot trees)
    (mem : ∀ e ∈ es, e.tree ∈ trees) (runs : ExportRuns json (SparesOlder json) es s)
    {network : ZcashNetwork} {height : Nat}
    (accepted : (tiersCompleteForHeight json network height s).2 = .ok true) :
    ∃ e ∈ es, e.network = network ∧ e.height = some height ∧
      ∃ tier0 tier1 text, e.Output json tier0 tier1 text ∧
        s .tier0 = some tier0 ∧ s .tier1 = some tier1 ∧ s .pirRoot = some text := by
  obtain ⟨root, ⟨text, htext, _, hroot⟩, names, ⟨t0, h0, hlen0, hmatch⟩, t1, h1, hlen1⟩ :=
    tiersCompleteForHeight_true.mp accepted
  obtain ⟨e, he, tier0, tier1, out, in0, in1⟩ := runs.beside inj mem text root htext hroot
  have hmeta := hroot
  rw [out.text, json.decode_encode] at hmeta
  obtain rfl := Except.ok.inj hmeta
  obtain ⟨r, hr, hread⟩ := tier0Matches_ok hmatch
  rw [exportMetadata, rootOf_hexEncode] at hr
  obtain rfl := Option.some.inj hr
  refine ⟨e, he, names.network, names.height, tier0, tier1, text, out, ?_, ?_, htext⟩
  · rw [h0, in0 t0 h0 hlen0 hread]
  · rw [h1, in1 t1 h1 hlen1]

/-! ### Every such cut exists -/

section Cuts

variable {e : ExportRun} {tier0 tier1 text : Bytes}

/-- An export can be cut behind the write of Tier 0. -/
lemma exists_cut_tier0 (out : e.Output json tier0 tier1 text) (s : Dir) :
    ∃ s', Interrupted s (e.prog json s).1 s' ∧ s' .tier0 = some tier0 ∧ s' .tier1 = s .tier1 ∧
      s' .pirRoot = s .pirRoot := by
  obtain ⟨pre, mid, post, hops, hpre, _, _⟩ := @exists_export_ops json s e tier0 tier1 text out
  have same := Same.exec_idle s hpre
  refine ⟨(Op.create .tier0 tier0 : FsOp).apply (exec s pre), ?_, by simp, by simpa using same.tier1,
    by simpa using same.pirRoot⟩
  rw [hops]
  exact interrupted_append.mpr (.inr (.step .stop))

/-- An export can be cut behind the write of Tier 1. -/
lemma exists_cut_tier1 (out : e.Output json tier0 tier1 text) (s : Dir) :
    ∃ s', Interrupted s (e.prog json s).1 s' ∧ s' .tier0 = some tier0 ∧ s' .tier1 = some tier1 ∧
      s' .pirRoot = s .pirRoot := by
  obtain ⟨pre, mid, post, hops, hpre, hmid, _⟩ := @exists_export_ops json s e tier0 tier1 text out
  have same := Same.exec_idle s hpre
  generalize hs₁ : (Op.create .tier0 tier0 : FsOp).apply (exec s pre) = s₁
  have h0 : s₁ .tier0 = some tier0 := by simp [← hs₁]
  have hr : s₁ .pirRoot = s .pirRoot := by simpa [← hs₁] using same.pirRoot
  have same₁ := Same.exec_idle s₁ hmid
  refine ⟨(Op.append .tier1 tier1 : FsOp).apply ((Op.create .tier1 [] : FsOp).apply (exec s₁ mid)), ?_,
    by simpa using same₁.tier0.trans h0, by simp, by simpa using same₁.pirRoot.trans hr⟩
  rw [hops]
  refine interrupted_append.mpr (.inr (.step ?_))
  rw [hs₁]
  exact interrupted_append.mpr (.inr (.step (.step .stop)))

end Cuts

/-! ### Exports of built trees -/

section Built

variable {H : Hasher} {ranges : List PuncturedRange} {e : ExportRun}

/-- An export of a built tree writes its files, and its Tier 0 is accepted beside its metadata. -/
lemma exists_output (built : e.tree.Built H ranges) (sup : e.layout.Supported)
    (hle : e.layout.pirDepth ≤ PIR_DEPTH) :
    ∃ tier0 tier1 text root, e.Output json tier0 tier1 text ∧ json.decode text = .ok root ∧
      root.pirLayout = e.layout ∧ tier0Matches root tier0 = true ∧
      ∀ height, e.height = some height → Names e.network height root := by
  refine ⟨_, _, _, _, ⟨exportTier0Layout_of_le built sup hle, exportTier1Layout_eq sup, rfl⟩,
    json.decode_encode _, rfl, ?_, ?_⟩
  · have fills := @fills_depth H ranges e.layout e.tree.pirRoot (by have := sup.tier0.1; omega)
    rw [tier0Matches, exportMetadata, Tier0Data.fromLayout_encodeTier0 sup fills, rootOf_hexEncode]
    dsimp only
    rw [Tier0Data.root_ofParts (by rw [List.length_cons]; omega)]
    exact beq_self_eq_true _
  · intro height hheight
    exact ⟨rfl, hheight, isCurrentDataset_current, sup, rfl, rfl, rfl, rfl⟩

end Built

end Runs

/-! ### Two interrupted exports -/

deriving instance Encodable for PirLayout, PirMetadata

/-- The pretty-printed text of metadata (`serde_json::to_string_pretty`). -/
def metadataText (m : PirMetadata) : Bytes :=
  123 :: (ascii ("\n  \"zcash_network\": \"" ++ m.zcashNetwork.asStr ++
    "\",\n  \"nullifier_pool\": \"" ++ m.nullifierPool ++
    "\",\n  \"dataset_version\": " ++ toString m.datasetVersion ++ ",\n  \"pir_root\": \"") ++
  (ascii m.pirRoot ++
  ascii ("\",\n  \"circuit_root\": \"" ++ m.circuitRoot ++
    "\",\n  \"num_ranges\": " ++ toString m.numRanges ++
    ",\n  \"pir_depth\": " ++ toString m.pirDepth ++
    ",\n  \"pir_layout\": \x7b\n    \"pir_depth\": " ++ toString m.pirLayout.pirDepth ++
    ",\n    \"tier0_layers\": " ++ toString m.pirLayout.tier0Layers ++
    ",\n    \"tier1_layers\": " ++ toString m.pirLayout.tier1Layers ++
    ",\n    \"poly_len\": " ++ toString m.pirLayout.polyLen ++
    "\n  \x7d,\n  \"tier0_bytes\": " ++ toString m.tier0Bytes ++
    ",\n  \"tier1_rows\": " ++ toString m.tier1Rows ++
    ",\n  \"tier1_row_bytes\": " ++ toString m.tier1RowBytes ++
    ",\n  \"height\": " ++ (m.height.elim "null" toString) ++ "\n\x7d")))

/-- Every character of the text is one byte. -/
def AsciiText (text : String) : Prop := ∀ c ∈ text.toList, c.toNat < 128

instance {text : String} : Decidable (AsciiText text) := List.decidableBAll _ _

/-- A joined text is ASCII exactly when its parts are. -/
@[simp] lemma asciiText_append {s t : String} : AsciiText (s ++ t) ↔ AsciiText s ∧ AsciiText t := by
  simp only [AsciiText, String.toList_append, List.forall_mem_append]

/-- Decimal digits are. -/
lemma AsciiText.ofNat (n : Nat) : AsciiText (toString n) := by
  intro c hc
  have hdigit : c.isDigit = true :=
    Nat.isDigit_of_mem_toDigits (b := 10) (n := n) (by decide) (by decide) (by simpa using hc)
  rw [Char.isDigit, Bool.and_eq_true, decide_eq_true_eq, decide_eq_true_eq] at hdigit
  exact lt_of_le_of_lt (UInt32.le_iff_toNat_le.mp hdigit.2) (by decide)

/-- Hexadecimal digits are. -/
lemma AsciiText.hexEncode (bs : Bytes) : AsciiText (hexEncode bs) := by
  have hdigit : ∀ n : Fin 16, (hexDigit n).toNat < 128 := by decide
  intro c hc
  rw [Hex.hexEncode, String.toList_ofList, List.mem_flatMap] at hc
  obtain ⟨b, _, hb⟩ := hc
  have hlt := b.toNat_lt
  simp only [List.mem_cons, List.not_mem_nil, or_false] at hb
  obtain rfl | rfl := hb
  · exact hdigit ⟨b.toNat / 16, by omega⟩
  · exact hdigit ⟨b.toNat % 16, by omega⟩

/-- The bytes of such a text are valid. -/
lemma AsciiText.valid {text : String} (h : AsciiText text) : Utf8.valid (ascii text) = true := by
  have hencode : ascii text = Utf8.encode text.toList := (Utf8.encode_eq_map h).symm
  rw [hencode]
  exact Utf8.valid_encode _

/-- The text of metadata is valid. -/
lemma metadataText_valid {m : PirMetadata} (hpool : AsciiText m.nullifierPool)
    (hpir : AsciiText m.pirRoot) (hcircuit : AsciiText m.circuitRoot) :
    Utf8.valid (metadataText m) = true := by
  have hnet : AsciiText m.zcashNetwork.asStr := by
    cases m.zcashNetwork with
    | main => decide +kernel
    | test => decide +kernel
  have hheight : AsciiText (m.height.elim "null" toString) := by
    cases m.height with
    | none => decide +kernel
    | some h => exact .ofNat h
  rw [metadataText, ← ascii_append, ← ascii_append]
  change Utf8.valid (ascii "\x7b" ++ ascii _) = true
  rw [← ascii_append]
  refine AsciiText.valid ?_
  simp only [asciiText_append, AsciiText.ofNat, hnet, hpool, hpir, hcircuit, hheight, and_true,
    true_and]
  decide +kernel

/-- Prefixes of equal length agree. -/
lemma eq_of_append_isPrefix {xs ys r r' : Bytes} (hlen : xs.length = ys.length)
    (h : xs ++ r <+: ys ++ r') : xs = ys := by
  obtain ⟨t, ht⟩ := h
  rw [List.append_assoc] at ht
  exact List.append_inj_left ht hlen

/-- The texts of one dataset differ from the root on. -/
lemma pirRoot_eq_of_isPrefix {m m' : PirMetadata} (hnet : m.zcashNetwork = m'.zcashNetwork)
    (hpool : m.nullifierPool = m'.nullifierPool) (hversion : m.datasetVersion = m'.datasetVersion)
    (hlen : (ascii m.pirRoot).length = (ascii m'.pirRoot).length)
    (h : metadataText m <+: metadataText m') : ascii m.pirRoot = ascii m'.pirRoot := by
  rw [metadataText, metadataText, hnet, hpool, hversion, List.cons_prefix_cons,
    List.prefix_append_right_inj] at h
  exact eq_of_append_isPrefix hlen h.2

/-- The digits of bytes, as bytes. -/
def hexBytes (bs : Bytes) : Bytes :=
  bs.flatMap fun b => [UInt8.ofNat (hexDigit (b.toNat / 16)).toNat,
    UInt8.ofNat (hexDigit (b.toNat % 16)).toNat]

/-- Hexadecimal digits are bytes of their own. -/
lemma ascii_hexEncode {bs : Bytes} : ascii (hexEncode bs) = hexBytes bs := by
  rw [ascii, hexEncode, String.toList_ofList, List.map_flatMap]
  rfl

/-- Two digits a byte. -/
lemma length_ascii_hexEncode {bs : Bytes} : (ascii (hexEncode bs)).length = bs.length * 2 := by
  rw [ascii_hexEncode]
  exact length_flatMap_const fun _ _ => rfl

/-- The ranges of one nullifier. -/
def fiveRanges : List PuncturedRange :=
  (buildPuncturedRanges (sentinels.insertIdx 1 (Fp.ofNat 5))).toOption.getD []

/-- One nullifier prepares these ranges. -/
lemma prepareNullifiers_five : prepareNullifiers [Fp.ofNat 5] = .ok fiveRanges := by
  have hsorted : withSentinels [Fp.ofNat 5] = sentinels.insertIdx 1 (Fp.ofNat 5) := by
    refine withSentinels_unique (by decide +kernel) fun v => ?_
    rw [List.mem_insertIdx (by decide +kernel), List.mem_singleton]
  have hpad : padInserted [Fp.ofNat 5] = false := by
    rw [padInserted, hsorted]
    decide +kernel
  rw [prepareNullifiers]
  simp only [hpad, hsorted]
  decide +kernel

/-- The metadata of a complete export. -/
def ExportRun.metadata (e : ExportRun) : PirMetadata :=
  exportMetadata e.tree e.network e.height e.layout (tier0Size e.layout) (2 ^ e.layout.tier0Layers)
    (2 ^ e.layout.tier1Layers * 96)

/-- A metadata codec at the texts of two exports. -/
lemma exists_metadataJson {a b : ExportRun} (hnet : a.network = b.network)
    (hlen : (ascii a.metadata.pirRoot).length = (ascii b.metadata.pirRoot).length)
    (hne : ascii a.metadata.pirRoot ≠ ascii b.metadata.pirRoot) :
    ∃ json : Json PirMetadata, json.encode a.metadata = metadataText a.metadata ∧
      json.encode b.metadata = metadataText b.metadata := by
  have hab : a.metadata ≠ b.metadata := fun h => hne (by rw [h])
  have ok : PrefixFree [(a.metadata, metadataText a.metadata), (b.metadata, metadataText b.metadata)] := by
    intro e he
    simp only [List.mem_cons, List.not_mem_nil, or_false] at he
    obtain rfl | rfl := he
    · refine ⟨rfl, fun e' he' h => ?_⟩
      simp only [List.mem_cons, List.not_mem_nil, or_false] at he'
      obtain rfl | rfl := he'
      · rfl
      · exact absurd (@pirRoot_eq_of_isPrefix a.metadata b.metadata hnet rfl rfl hlen h) hne
    · refine ⟨rfl, fun e' he' h => ?_⟩
      simp only [List.mem_cons, List.not_mem_nil, or_false] at he'
      obtain rfl | rfl := he'
      · exact absurd (@pirRoot_eq_of_isPrefix b.metadata a.metadata hnet.symm rfl rfl hlen.symm h) hne.symm
      · rfl
  refine ⟨.ofTexts _ ok, ?_, ?_⟩
  · change textCode _ _ = _
    simp [textCode]
  · change textCode _ _ = _
    simp [textCode, hab]

/-- The second word of Tier 1 is the middle of the first range. -/
lemma tier1_mid {ranges tier1} {l : PirLayout} (sup : l.Supported)
    (ok : exportTier1Layout ranges l = .ok tier1) :
    readFp (slice tier1 0 (2 ^ l.tier1Layers * 96)) 32 = .ok (ranges.getD 0 ⟨0, 0, 0⟩).mid := by
  rw [exportTier1Layout_eq sup] at ok
  obtain rfl := Except.ok.inj ok
  have hrow := @slice_tier1 ranges l (2 ^ l.tier0Layers) 0 (Nat.two_pow_pos _)
  rw [Nat.zero_mul] at hrow
  have hlen : 0 < (rowRanges ranges (2 ^ l.tier1Layers) 0).length := by
    rw [length_rowRanges]
    exact Nat.two_pow_pos _
  obtain ⟨hword, hmid⟩ := List.getElem?_eq_some_iff.mp (Tier1Row.getElem?_rangeWords hlen (k := 1) (by omega))
  have hread := readFp_encodeWords hword
  rw [hmid, Nat.zero_mul, Nat.zero_add, Nat.one_mul] at hread
  rw [hrow, encodeRow, hread, rowRanges_get]
  simp

section Mixed

variable {json : Json PirMetadata} {H : Hasher} {rangesA rangesB : List PuncturedRange}
  {a b : ExportRun} {height : Nat}

/-- After an export `a`, an export `b` that is cut behind Tier 1 and an export `a` that is cut behind
Tier 0, the directory is accepted at the height of `a`, with Tier 1 of `b`. -/
lemma exists_mixed (builtA : a.tree.Built H rangesA) (builtB : b.tree.Built H rangesB)
    (sup : a.layout.Supported) (hle : a.layout.pirDepth ≤ PIR_DEPTH) (hl : b.layout = a.layout)
    (hheight : a.height = some height) (utf8 : Utf8.valid (json.encode a.metadata) = true) :
    ∃ s tier1 text, ExportRuns json (fun _ _ _ => True) [a, b, a] s ∧
      (tiersCompleteForHeight json a.network height s).2 = .ok true ∧
      exportTier1Layout rangesB a.layout = .ok tier1 ∧ s .tier1 = some tier1 ∧
      s .pirRoot = some text ∧ json.decode text = .ok a.metadata := by
  obtain ⟨tier0, tier1, text, root, out, hroot, hlayout, hmatch, names⟩ :=
    @exists_output json H rangesA a builtA sup hle
  obtain ⟨tier0', tier1', text', root', out', _⟩ :=
    @exists_output json H rangesB b builtB (hl ▸ sup) (hl ▸ hle)
  have hmeta := hroot
  rw [out.text, json.decode_encode] at hmeta
  obtain rfl := Except.ok.inj hmeta
  -- The first export is complete, the two others are cut.
  obtain ⟨_, _, hr₁⟩ := @export_after json (fun _ => none) a tier0 tier1 text out
  generalize hs₁ : (a.prog json).after (fun _ => none) = s₁ at hr₁
  obtain ⟨s₂, cut₂, _, h1₂, hr₂⟩ := exists_cut_tier1 out' s₁
  obtain ⟨s₃, cut₃, h0₃, h1₃, hr₃⟩ := exists_cut_tier0 out s₂
  have runs₁ : ExportRuns json (fun _ _ _ => True) [a] s₁ := hs₁ ▸ .complete a .start
  have ht1 := out'.tier1
  rw [builtB.ranges_eq, hl] at ht1
  have hlen1 := length_exportTier1Layout sup ht1
  have k1 : s₃ .tier1 = some tier1' := h1₃.trans h1₂
  have kr : s₃ .pirRoot = some text := (hr₃.trans hr₂).trans hr₁
  refine ⟨s₃, tier1', text, .cut a (.cut b runs₁ cut₂ trivial) cut₃ trivial, ?_, ht1, k1, kr, hroot⟩
  exact tiersCompleteForHeight_true.mpr ⟨_, ⟨text, kr, out.text ▸ utf8, hroot⟩, names height hheight,
    ⟨tier0, h0₃, (exportTier0Layout_ok out.tier0).1, hmatch⟩, tier1', k1, hlen1⟩

end Mixed

/-- The compiled layout is supported. -/
lemma compiled_supported : COMPILED_PIR_LAYOUT.Supported := by
  constructor <;> decide

/-- The trees of no nullifier and of one. -/
lemma exists_trees : ∃ older newer, buildPirTreeFromNullifiers Hasher.affine [] = .ok older ∧
    buildPirTreeFromNullifiers Hasher.affine [Fp.ofNat 5] = .ok newer ∧
    older.Built Hasher.affine sentinelRanges ∧ newer.Built Hasher.affine fiveRanges ∧
    ascii (hexEncode older.pirRoot.toRepr) ≠ ascii (hexEncode newer.pirRoot.toRepr) := by
  obtain ⟨older, hold⟩ := @buildPirTree_eq_ok Hasher.affine sentinelRanges
    (by rw [sentinelRanges_checked.1]; decide) sentinelRanges_checked.2
  obtain ⟨newer, hnew⟩ := @buildPirTree_eq_ok Hasher.affine fiveRanges (by decide +kernel)
    (by decide +kernel)
  have hne : ((buildPirTree Hasher.affine sentinelRanges).toOption.map fun t =>
        hexBytes t.pirRoot.toRepr) ≠
      (buildPirTree Hasher.affine fiveRanges).toOption.map fun t => hexBytes t.pirRoot.toRepr := by
    decide +kernel
  rw [hold, hnew] at hne
  refine ⟨older, newer, ?_, ?_, buildPirTree_ok hold, buildPirTree_ok hnew, fun h => hne ?_⟩
  · rw [buildPirTreeFromNullifiers, prepareNullifiers_nil, ok_bind, hold]
  · rw [buildPirTreeFromNullifiers, prepareNullifiers_five, ok_bind, hnew]
  · rw [ascii_hexEncode, ascii_hexEncode] at h
    exact congrArg some h

/-- An export of a tree, and one at a later height. -/
def olderExport (tree : PirTree) : ExportRun := ⟨tree, .test, some 4134010, COMPILED_PIR_LAYOUT⟩

def newerExport (tree : PirTree) : ExportRun := ⟨tree, .test, some 4134020, COMPILED_PIR_LAYOUT⟩

section Sample

variable {older newer : PirTree}

/-- A serializer that writes the two metadata texts. -/
lemma exists_sampleJson
    (hne : ascii (hexEncode older.pirRoot.toRepr) ≠ ascii (hexEncode newer.pirRoot.toRepr)) :
    ∃ json : Json PirMetadata,
      json.encode (olderExport older).metadata = metadataText (olderExport older).metadata ∧
      json.encode (newerExport newer).metadata = metadataText (newerExport newer).metadata := by
  refine exists_metadataJson rfl ?_ hne
  change (ascii (hexEncode older.pirRoot.toRepr)).length = (ascii (hexEncode newer.pirRoot.toRepr)).length
  rw [length_ascii_hexEncode, length_ascii_hexEncode, Fp.length_toRepr, Fp.length_toRepr]

/-- The metadata text of the sample is UTF-8. -/
lemma sample_valid : Utf8.valid (metadataText (olderExport older).metadata) = true :=
  metadataText_valid (show AsciiText NULLIFIER_POOL by decide +kernel) (.hexEncode _) (.hexEncode _)

/-- The two exports differ in Tier 1. -/
lemma sample_tier1_ne {tier1} (hold : exportTier1Layout sentinelRanges COMPILED_PIR_LAYOUT = .ok tier1)
    (hnew : exportTier1Layout fiveRanges COMPILED_PIR_LAYOUT = .ok tier1) : False := by
  have hmid := tier1_mid compiled_supported hold
  rw [tier1_mid compiled_supported hnew] at hmid
  exact absurd (Except.ok.inj hmid) (by decide +kernel)

end Sample

/-- The check accepts Tier 1 of one export among the other files of another. -/
theorem tiers_complete_accepts_mixed :
    ∃ older newer, buildPirTreeFromNullifiers Hasher.affine [] = .ok older ∧
      buildPirTreeFromNullifiers Hasher.affine [Fp.ofNat 5] = .ok newer ∧
      older.pirRoot ≠ newer.pirRoot ∧
      ∃ json : Json PirMetadata,
        json.encode (olderExport older).metadata = metadataText (olderExport older).metadata ∧
        json.encode (newerExport newer).metadata = metadataText (newerExport newer).metadata ∧
        ∃ s, ExportRuns json (fun _ _ _ => True)
            [olderExport older, newerExport newer, olderExport older] s ∧
          (tiersCompleteForHeight json .test 4134010 s).2 = .ok true ∧
          ¬ ∃ e ∈ [olderExport older, newerExport newer, olderExport older],
            ∃ tier0 tier1 text, e.Output json tier0 tier1 text ∧
              s .tier0 = some tier0 ∧ s .tier1 = some tier1 ∧ s .pirRoot = some text := by
  obtain ⟨older, newer, hold, hnew, builtOld, builtNew, hne⟩ := exists_trees
  obtain ⟨json, hencOld, hencNew⟩ := exists_sampleJson hne
  obtain ⟨s, tier1, text, runs, accepted, ht1, h1, hr, hdecode⟩ :=
    @exists_mixed json Hasher.affine sentinelRanges fiveRanges (olderExport older) (newerExport newer)
      4134010 builtOld builtNew compiled_supported (le_refl _) rfl rfl (hencOld ▸ sample_valid)
  refine ⟨older, newer, hold, hnew, fun h => hne (by rw [h]), json, hencOld, hencNew, s, runs, accepted,
    ?_⟩
  rintro ⟨e, he, t0, t1, text', out, _, h1', hr'⟩
  rw [h1] at h1'
  obtain rfl := Option.some.inj h1'
  rw [hr] at hr'
  obtain rfl := Option.some.inj hr'
  have hcases : e = olderExport older ∨ e = newerExport newer := by
    simp only [List.mem_cons, List.not_mem_nil, or_false] at he
    obtain rfl | rfl | rfl := he
    · exact .inl rfl
    · exact .inr rfl
    · exact .inl rfl
  obtain rfl | rfl := hcases
  · have h := out.tier1
    rw [show (olderExport older).tree.ranges = sentinelRanges from builtOld.ranges_eq] at h
    exact sample_tier1_ne h ht1
  · rw [out.text, json.decode_encode] at hdecode
    have hheight := congrArg PirMetadata.height (Except.ok.inj hdecode)
    exact absurd hheight (show some 4134020 ≠ some 4134010 by decide)

/-- A run that is not cut there passes the check with the files of one export. -/
theorem tiers_complete_is_one_export_resumed :
    ∃ older newer, buildPirTreeFromNullifiers Hasher.affine [] = .ok older ∧
      buildPirTreeFromNullifiers Hasher.affine [Fp.ofNat 5] = .ok newer ∧
      ∃ json : Json PirMetadata,
        json.encode (olderExport older).metadata = metadataText (olderExport older).metadata ∧
        json.encode (newerExport newer).metadata = metadataText (newerExport newer).metadata ∧
        ∃ s, ExportRuns json (SparesOlder json)
            [olderExport older, newerExport newer, olderExport older] s ∧
          (tiersCompleteForHeight json .test 4134010 s).2 = .ok true ∧
          ∃ e ∈ [olderExport older, newerExport newer, olderExport older],
            e.network = .test ∧ e.height = some 4134010 ∧
            ∃ tier0 tier1 text, e.Output json tier0 tier1 text ∧
              s .tier0 = some tier0 ∧ s .tier1 = some tier1 ∧ s .pirRoot = some text := by
  obtain ⟨older, newer, hold, hnew, builtOld, builtNew, hne⟩ := exists_trees
  obtain ⟨json, hencOld, hencNew⟩ := exists_sampleJson hne
  obtain ⟨tier0, tier1, text, root, out, hroot, hlayout, hmatch, names⟩ :=
    @exists_output json Hasher.affine sentinelRanges (olderExport older) builtOld compiled_supported
      (le_refl _)
  obtain ⟨tier0', tier1', text', root', out', _⟩ :=
    @exists_output json Hasher.affine fiveRanges (newerExport newer) builtNew compiled_supported
      (le_refl _)
  obtain ⟨_, h1₁, hr₁⟩ := @export_after json (fun _ => none) _ tier0 tier1 text out
  generalize hs₁ : ((olderExport older).prog json).after (fun _ => none) = s₁ at h1₁ hr₁
  obtain ⟨s₂, cut₂, _, h1₂, _⟩ := exists_cut_tier0 out' s₁
  have spares : SparesOlder json (newerExport newer) s₁ s₂ := by
    intro text₁ root₁ htext hdecode _
    rw [hr₁] at htext
    obtain rfl := Option.some.inj htext
    rw [hroot] at hdecode
    obtain rfl := Except.ok.inj hdecode
    refine .inr ⟨hlayout, fun t1 ht1 hs => ?_⟩
    rw [h1₂, h1₁] at hs
    obtain rfl := Option.some.inj hs
    have h := out.tier1
    rw [show (olderExport older).tree.ranges = sentinelRanges from builtOld.ranges_eq] at h
    rw [show (newerExport newer).tree.ranges = fiveRanges from builtNew.ranges_eq] at ht1
    exact sample_tier1_ne h ht1
  obtain ⟨h0, h1, hr⟩ := @export_after json s₂ _ tier0 tier1 text out
  have runs : ExportRuns json (SparesOlder json)
      [olderExport older, newerExport newer, olderExport older]
      (((olderExport older).prog json).after s₂) :=
    .complete _ (.cut _ (hs₁ ▸ .complete _ .start) cut₂ spares)
  generalize ((olderExport older).prog json).after s₂ = s at h0 h1 hr runs
  have accepted : (tiersCompleteForHeight json .test 4134010 s).2 = .ok true := by
    have hvalid : Utf8.valid text = true := by
      rw [out.text]
      exact hencOld ▸ sample_valid
    refine tiersCompleteForHeight_true.mpr ⟨root, ⟨text, hr, hvalid, hroot⟩, names 4134010 rfl,
      ⟨tier0, h0, ?_, hmatch⟩, tier1, h1, ?_⟩
    · rw [hlayout]
      exact (exportTier0Layout_ok out.tier0).1
    · rw [hlayout]
      exact length_exportTier1Layout compiled_supported out.tier1
  refine ⟨older, newer, hold, hnew, json, hencOld, hencNew, s, runs, accepted, ?_⟩
  refine @tiers_complete_is_one_export json s _ {older, newer} ?_ ?_ runs .test 4134010 accepted
  · rw [Set.injOn_pair]
    exact fun h => absurd h fun h => hne (by rw [h])
  · intro e he
    simp only [List.mem_cons, List.not_mem_nil, or_false] at he
    obtain rfl | rfl | rfl := he
    · exact .inl rfl
    · exact .inr rfl
    · exact .inl rfl

end NullifierPir.Export
