import NullifierPir.Export.Tree
import NullifierPir.Types.Tier0
import NullifierPir.Types.Tier1

/-!
# Tier export

Port of `pir/export/src/tier0.rs`, `pir/export/src/tier1.rs` and `export_for_layout`. The exporters
fill a zeroed buffer of the layout's size front to back, so a blob is the words written followed by
the untouched zeros (`fillBuffer`).

For a tree that `buildPirTree` returned and a supported layout of depth 19 the export succeeds, and
its two blobs are the readers' own encodings: the top `tier0_layers` levels of the padded perfect
tree with one record per subtree, and one full row of ranges per subtree (`exportForLayout_eq`).
-/

namespace NullifierPir.Export
open Rust ByteString Imt NullifierPir.Types

/-- Smallest key of the subtree that starts at a leaf (Rust `subtree_min_key`). -/
def subtreeMinKey (ranges : List PuncturedRange) (leafStart : Nat) : Fp :=
  match ranges[leafStart]? with
  | some r => r.lo
  | none => Fp.negOne

/-- Stored node, or the empty hash past the stored level (Rust `node_or_empty`). -/
def nodeOrEmpty (levels : List (List Fp)) (level idx : Nat) (emptyHashes : List Fp) : Rust Fp := do
  match (← index levels level)[idx]? with
  | some x => return x
  | none => index emptyHashes level

/-- The words of depths `1 .. numLayers - 1` of a subtree (Rust `write_internal_nodes`). -/
def writeInternalNodes (levels : List (List Fp)) (emptyHashes : List Fp)
    (buBase numLayers subtreeIndex : Nat) : Rust (List Fp) := do
  let depths ← (List.range' 1 (numLayers - 1)).mapM fun d =>
    (List.range (2 ^ d)).mapM fun i =>
      nodeOrEmpty levels (buBase - d) (subtreeIndex * 2 ^ d + i) emptyHashes
  return depths.flatten

/-- A zeroed buffer of `len` bytes with `bytes` written from its start. -/
def fillBuffer (len : Nat) (bytes : Bytes) : Rust Bytes :=
  if bytes.length ≤ len then .ok (bytes ++ List.replicate (len - bytes.length) 0)
  else panicked s!"range end index out of range for slice of length {len}"

/-- Export Tier 0 as a flat blob (Rust `tier0::export_layout`). -/
def exportTier0Layout (root : Fp) (levels : List (List Fp)) (ranges : List PuncturedRange)
    (emptyHashes : Vector Fp TREE_DEPTH) (layout : PirLayout) : Rust Bytes := do
  context "invalid Tier 0 export layout" layout.validateSupported
  let numSubtrees ← layout.tier1Rows
  let expected ← layout.tier0Bytes
  let _ ← layout.tier0InternalNodes
  let nodes ← writeInternalNodes levels emptyHashes.toList layout.pirDepth layout.tier0Layers 0
  let buSubtreeLevel := layout.pirDepth - layout.tier0Layers
  let leavesPerSubtree := 2 ^ (layout.pirDepth - layout.tier0Layers)
  let records ← (List.range numSubtrees).mapM fun s => do
    let hash ← nodeOrEmpty levels buSubtreeLevel s emptyHashes.toList
    return (hash, subtreeMinKey ranges (s * leavesPerSubtree))
  fillBuffer expected (encodeTier0 (root :: nodes) records)

/-- One Tier 1 row (Rust `write_row`); leaves past the ranges stay zero bytes. -/
def writeRow (ranges : List PuncturedRange) (s leaves rowBytes : Nat) : Rust Bytes :=
  fillBuffer rowBytes <| (List.range leaves).flatMap fun i =>
    match ranges[s * leaves + i]? with
    | some r => encodeWords [r.lo, r.mid, r.hi]
    | none => List.replicate TIER1_LEAF_BYTES 0

/-- Export all Tier 1 rows (Rust `tier1::export_layout`). -/
def exportTier1Layout (ranges : List PuncturedRange) (layout : PirLayout) : Rust Bytes := do
  context "invalid Tier 1 export layout" layout.validateSupported
  let numRows ← layout.tier1Rows
  let leaves ← layout.tier1Leaves
  let rowBytes ← layout.tier1RowBytes
  let rows ← (List.range numRows).mapM fun s => writeRow ranges s leaves rowBytes
  return rows.flatten

/-- In-memory two-tier export (Rust `export_for_layout`). -/
def exportForLayout (tree : PirTree) (layout : PirLayout) : Rust (Bytes × Bytes) := do
  let tier0 ← exportTier0Layout tree.pirRoot tree.levels tree.ranges tree.emptyHashes layout
  let tier1 ← exportTier1Layout tree.ranges layout
  return (tier0, tier1)

/-- The nodes of the first `layers` depths in breadth-first order. -/
def bfsNodes (node : Nat → Nat → Fp) (layers : Nat) : List Fp :=
  (List.range layers).flatMap fun d => (List.range (2 ^ d)).map (node d)

/-- The nodes above the leaves `0 .. 2^depth` in breadth-first order. -/
def depthNodes (H : Hasher) (ranges : List PuncturedRange) (depth layers : Nat) : List Fp :=
  bfsNodes (fun d i => rangeNode H ranges (depth - d) i) layers

/-- The subtree records under these nodes. -/
def depthRecords (H : Hasher) (ranges : List PuncturedRange) (depth layers : Nat) :
    List (Fp × Fp) :=
  (List.range (2 ^ layers)).map fun s =>
    (rangeNode H ranges (depth - layers) s, subtreeMinKey ranges (s * 2 ^ (depth - layers)))

/-- The ranges of Tier 1 row `s`, padded with zero records. -/
def rowRanges (ranges : List PuncturedRange) (leaves s : Nat) : List PuncturedRange :=
  (List.range leaves).map fun i => ranges.getD (s * leaves + i) ⟨0, 0, 0⟩

/-- The internal nodes of the top layers. -/
lemma length_bfsNodes {node layers} : (bfsNodes node layers).length = 2 ^ layers - 1 := by
  induction layers with
  | zero => rfl
  | succ n ih =>
    have hsplit : bfsNodes node (n + 1) = bfsNodes node n ++ (List.range (2 ^ n)).map (node n) := by
      simp [bfsNodes, List.range_succ]
    have hpos : 0 < 2 ^ n := Nat.two_pow_pos n
    rw [hsplit, List.length_append, ih, List.length_map, List.length_range, Nat.pow_succ]
    omega

/-- Breadth-first position of node `i` at depth `d`. -/
lemma getElem?_bfsNodes {node layers d i} (hd : d < layers) (hi : i < 2 ^ d) :
    (bfsNodes node layers)[2 ^ d - 1 + i]? = some (node d i) := by
  induction layers with
  | zero => cases hd
  | succ n ih =>
    have hsplit : bfsNodes node (n + 1) = bfsNodes node n ++ (List.range (2 ^ n)).map (node n) := by
      simp [bfsNodes, List.range_succ]
    rw [hsplit]
    rcases Nat.lt_succ_iff_lt_or_eq.mp hd with hlt | rfl
    · rw [List.getElem?_append_left, ih hlt]
      exact (List.getElem?_eq_some_iff.mp (ih hlt)).1
    · rw [List.getElem?_append_right (by rw [length_bfsNodes]; omega), length_bfsNodes,
        Nat.add_sub_cancel_left]
      simp [hi]

/-- Node `i` at depth `d` below the root. -/
lemma getElem?_depthNodes {H ranges depth layers d i} (hd : d < layers) (hi : i < 2 ^ d) :
    (depthNodes H ranges depth layers)[2 ^ d - 1 + i]? = some (rangeNode H ranges (depth - d) i) :=
  getElem?_bfsNodes hd hi

/-- A row has a fixed number of leaves. -/
lemma length_rowRanges {ranges leaves s} : (rowRanges ranges leaves s).length = leaves := by
  simp [rowRanges]

/-- Leaves of a row are consecutive ranges, padded with empty ones. -/
lemma rowRanges_get {ranges leaves s i} (h : i < (rowRanges ranges leaves s).length) :
    (rowRanges ranges leaves s)[i] = ranges.getD (s * leaves + i) ⟨0, 0, 0⟩ := by
  simp [rowRanges]

/-- A buffer that is filled exactly. -/
lemma fillBuffer_exact {bytes len} (h : bytes.length = len) : fillBuffer len bytes = .ok bytes := by
  rw [fillBuffer, if_pos h.le, h, Nat.sub_self, List.replicate_zero, List.append_nil]

section Built

variable {H : Hasher} {ranges : List PuncturedRange} {t : PirTree} {l : PirLayout}

/-- `node_or_empty` is the node of the padded perfect tree. -/
lemma nodeOrEmpty_of_isLevel {leaves levels depth level idx}
    (isLevel : ∀ l (h : l < levels.length), IsLevel H leaves depth l levels[l])
    (h : level < levels.length) (hd : level < TREE_DEPTH) :
    nodeOrEmpty levels level idx (precomputeEmptyHashes H).toList =
      .ok (treeNode H leaves level idx) := by
  have lev := isLevel level h
  rw [nodeOrEmpty, index_eq_ok h]
  simp only [ok_bind]
  rcases Nat.lt_or_ge idx levels[level].length with hi | hi
  · rw [List.getElem?_eq_getElem hi, lev.get idx hi]
    rfl
  · rw [List.getElem?_eq_none hi, lev.node_of_ge hi]
    exact index_precomputeEmptyHashes hd

/-- Stored or empty, the node is that of the tree. -/
lemma nodeOrEmpty_eq (built : t.Built H ranges) {level idx} (h : level < PIR_DEPTH) :
    nodeOrEmpty t.levels level idx t.emptyHashes.toList = .ok (rangeNode H ranges level idx) := by
  rw [built.emptyHashes]
  exact nodeOrEmpty_of_isLevel built.isLevel (built.levels_length ▸ h) (h.trans (by decide))

/-- Internal nodes are read off the levels below the layout's depth. -/
lemma writeInternalNodes_eq (built : t.Built H ranges) {depth n} (hle : depth ≤ PIR_DEPTH)
    (hn : 1 ≤ n) :
    writeInternalNodes t.levels t.emptyHashes.toList depth n 0 =
      .ok (depthNodes H ranges depth n).tail := by
  have hrow : ∀ d ∈ List.range' 1 (n - 1),
      ((List.range (2 ^ d)).mapM fun i =>
        nodeOrEmpty t.levels (depth - d) (0 * 2 ^ d + i) t.emptyHashes.toList) =
      .ok ((List.range (2 ^ d)).map fun i => rangeNode H ranges (depth - d) i) := by
    intro d hd
    have hd : 1 ≤ d := (List.mem_range'_1.mp hd).1
    have hlevel : depth - d < PIR_DEPTH := by
      simp only [PIR_DEPTH] at hle ⊢
      omega
    apply mapM_eq_ok
    intro i _
    rw [Nat.zero_mul, Nat.zero_add]
    exact nodeOrEmpty_eq built hlevel
  obtain ⟨m, rfl⟩ : ∃ m, n = m + 1 := ⟨n - 1, by omega⟩
  rw [writeInternalNodes, mapM_eq_ok hrow, depthNodes, bfsNodes, List.range_eq_range',
    List.range'_succ, List.flatMap_cons]
  rfl

/-- The nodes start with the root. -/
lemma depthNodes_eq_cons {depth n} (hn : 1 ≤ n) :
    depthNodes H ranges depth n =
      rangeNode H ranges depth 0 :: (depthNodes H ranges depth n).tail := by
  obtain ⟨m, rfl⟩ : ∃ m, n = m + 1 := ⟨n - 1, by omega⟩
  rw [depthNodes, bfsNodes, List.range_eq_range', List.range'_succ, List.flatMap_cons]
  rfl

/-- There is one internal node less than subtrees. -/
lemma length_depthNodes {depth n} : (depthNodes H ranges depth n).length = 2 ^ n - 1 :=
  length_bfsNodes

/-- There is one record a subtree. -/
lemma length_depthRecords {depth n} : (depthRecords H ranges depth n).length = 2 ^ n := by
  simp [depthRecords]

/-- Nodes and records fill the layout, also with another root in front. -/
lemma fills_depth {root : Fp} (h : 1 ≤ l.tier0Layers) : Tier0Data.Fills l
    (root :: (depthNodes H ranges l.pirDepth l.tier0Layers).tail)
    (depthRecords H ranges l.pirDepth l.tier0Layers) := by
  constructor
  · have hpow : 2 ^ 1 ≤ 2 ^ l.tier0Layers := Nat.pow_le_pow_right (by decide) h
    rw [List.length_cons, List.length_tail, length_depthNodes]
    omega
  · exact length_depthRecords

/-- Nodes and records fill the layout. -/
lemma fills_tree {depth} : Tier0Data.Fills l (depthNodes H ranges depth l.tier0Layers)
    (depthRecords H ranges depth l.tier0Layers) :=
  ⟨length_depthNodes, length_depthRecords⟩

/-- The Tier 0 blob of a built tree, for a layout no deeper than the tree: the tree's root over the
nodes of the layout's own depth. -/
lemma exportTier0Layout_of_le (built : t.Built H ranges) (sup : l.Supported)
    (hle : l.pirDepth ≤ PIR_DEPTH) :
    exportTier0Layout t.pirRoot t.levels t.ranges t.emptyHashes l =
      .ok (encodeTier0 (t.pirRoot :: (depthNodes H ranges l.pirDepth l.tier0Layers).tail)
        (depthRecords H ranges l.pirDepth l.tier0Layers)) := by
  have h0 : 1 ≤ l.tier0Layers := by
    have := sup.tier0.1
    omega
  have hlevel : l.pirDepth - l.tier0Layers < PIR_DEPTH := by
    simp only [PIR_DEPTH] at hle ⊢
    omega
  have hrec : ((List.range (2 ^ l.tier0Layers)).mapM fun s => do
      let hash ← nodeOrEmpty t.levels (l.pirDepth - l.tier0Layers) s t.emptyHashes.toList
      return (hash, subtreeMinKey ranges (s * 2 ^ (l.pirDepth - l.tier0Layers)))) =
      (.ok (depthRecords H ranges l.pirDepth l.tier0Layers) : Rust _) := by
    apply mapM_eq_ok
    intro s _
    rw [nodeOrEmpty_eq built hlevel]
    rfl
  rw [exportTier0Layout, sup.validateSupported_eq, sup.tier1Rows_eq, sup.tier0Bytes_eq,
    sup.tier0InternalNodes_eq, built.ranges_eq]
  simp only [context_ok, ok_bind, writeInternalNodes_eq built hle h0, hrec]
  have fills := @fills_depth H ranges l t.pirRoot h0
  apply fillBuffer_exact
  rw [Tier0Data.length_encodeTier0, fills.nodes, fills.records]

/-- The Tier 0 blob of a built tree. -/
lemma exportTier0Layout_eq (built : t.Built H ranges) (sup : l.Supported)
    (hdepth : l.pirDepth = PIR_DEPTH) :
    exportTier0Layout t.pirRoot t.levels t.ranges t.emptyHashes l =
      .ok (encodeTier0 (depthNodes H ranges PIR_DEPTH l.tier0Layers)
        (depthRecords H ranges PIR_DEPTH l.tier0Layers)) := by
  have h0 : 1 ≤ l.tier0Layers := by
    have := sup.tier0.1
    omega
  rw [exportTier0Layout_of_le built sup hdepth.le, hdepth, built.pirRoot, ← depthNodes_eq_cons h0]

/-- A layout deeper than the tree indexes a level that does not exist. -/
lemma exportTier0Layout_of_gt (built : t.Built H ranges) (sup : l.Supported)
    (hgt : PIR_DEPTH < l.pirDepth) :
    ∃ msg, exportTier0Layout t.pirRoot t.levels t.ranges t.emptyHashes l =
      .error (.panic msg) := by
  have hlevel : t.levels[l.pirDepth - 1]? = none := by
    rw [List.getElem?_eq_none]
    rw [built.levels_length]
    omega
  obtain ⟨m, hm⟩ : ∃ m, l.tier0Layers - 1 = m + 1 := ⟨l.tier0Layers - 2, by
    have := sup.tier0.1
    omega⟩
  obtain ⟨msg, hfirst⟩ : ∃ msg, writeInternalNodes t.levels t.emptyHashes.toList l.pirDepth
      l.tier0Layers 0 = .error (.panic msg) := by
    rw [writeInternalNodes, hm, List.range'_succ, List.mapM_cons,
      show List.range (2 ^ 1) = 0 :: [1] by decide, List.mapM_cons, nodeOrEmpty, index, hlevel]
    exact ⟨_, rfl⟩
  refine ⟨msg, ?_⟩
  rw [exportTier0Layout, sup.validateSupported_eq, sup.tier1Rows_eq, sup.tier0Bytes_eq,
    sup.tier0InternalNodes_eq, hfirst]
  rfl

/-- An empty leaf is three zero words. -/
lemma replicate_leaf_eq : List.replicate TIER1_LEAF_BYTES 0 = encodeWords [0, 0, 0] := by decide

/-- A written row is the encoding of its padded ranges. -/
lemma writeRow_eq {s leaves} :
    writeRow ranges s leaves (leaves * 96) = .ok (encodeRow (rowRanges ranges leaves s)) := by
  have hrow : ((List.range leaves).flatMap fun i =>
      match ranges[s * leaves + i]? with
      | some r => encodeWords [r.lo, r.mid, r.hi]
      | none => List.replicate TIER1_LEAF_BYTES 0) = encodeRow (rowRanges ranges leaves s) := by
    rw [encodeRow, rowRanges, encodeWords, List.flatMap_assoc, List.flatMap_map]
    congr 1
    funext i
    rw [List.getD_eq_getElem?_getD]
    cases ranges[s * leaves + i]? with
    | none => exact replicate_leaf_eq
    | some r => rfl
  rw [writeRow, hrow]
  apply fillBuffer_exact
  rw [Tier1Row.length_encodeRow, length_rowRanges]

/-- The Tier 1 blob: one row a subtree. -/
lemma exportTier1Layout_eq (sup : l.Supported) :
    exportTier1Layout ranges l =
      .ok ((List.range (2 ^ l.tier0Layers)).flatMap fun s =>
        encodeRow (rowRanges ranges (2 ^ l.tier1Layers) s)) := by
  rw [exportTier1Layout, sup.validateSupported_eq, sup.tier1Rows_eq, sup.tier1Leaves_eq,
    sup.tier1RowBytes_eq]
  simp only [context_ok, ok_bind]
  rw [mapM_eq_ok fun s _ => writeRow_eq]
  simp only [ok_bind, ← List.flatMap_def]
  rfl

/-- Row `s` of the exported Tier 1 blob. -/
lemma slice_tier1 {n s} (hs : s < n) :
    slice ((List.range n).flatMap fun s => encodeRow (rowRanges ranges (2 ^ l.tier1Layers) s))
      (s * (2 ^ l.tier1Layers * 96)) (2 ^ l.tier1Layers * 96) =
    encodeRow (rowRanges ranges (2 ^ l.tier1Layers) s) := by
  rw [slice_flatMap (fun _ _ => by rw [Tier1Row.length_encodeRow, length_rowRanges])
    (by simpa using hs), List.getElem_range]

/-- Tier 1 has one row of fixed size a subtree. -/
lemma length_tier1 {n} :
    ((List.range n).flatMap fun s => encodeRow (rowRanges ranges (2 ^ l.tier1Layers) s)).length =
      n * (2 ^ l.tier1Layers * 96) := by
  rw [length_flatMap_const fun _ _ => by rw [Tier1Row.length_encodeRow, length_rowRanges],
    List.length_range]

/-- The two blobs of a built tree. -/
lemma exportForLayout_eq (built : t.Built H ranges) (sup : l.Supported)
    (hdepth : l.pirDepth = PIR_DEPTH) :
    exportForLayout t l =
      .ok (encodeTier0 (depthNodes H ranges PIR_DEPTH l.tier0Layers)
          (depthRecords H ranges PIR_DEPTH l.tier0Layers),
        (List.range (2 ^ l.tier0Layers)).flatMap fun s =>
          encodeRow (rowRanges ranges (2 ^ l.tier1Layers) s)) := by
  rw [exportForLayout, exportTier0Layout_eq built sup hdepth, built.ranges_eq,
    exportTier1Layout_eq sup]
  rfl

end Built

/-- Keys do not decrease from one start to a later one: lower bounds increase along the ranges, and
past the ranges the key is the largest element. -/
lemma subtreeMinKey_mono {ranges : List PuncturedRange} (cov : Cover ranges) {i j} (h : i ≤ j) :
    subtreeMinKey ranges i ≤ subtreeMinKey ranges j := by
  rcases Nat.lt_or_ge j ranges.length with hj | hj
  · rw [subtreeMinKey, subtreeMinKey, List.getElem?_eq_getElem hj,
      List.getElem?_eq_getElem (h.trans_lt hj)]
    exact cov.lo_le_lo h hj
  · rw [subtreeMinKey, subtreeMinKey, List.getElem?_eq_none hj]
    exact Fp.le_negOne

end NullifierPir.Export
