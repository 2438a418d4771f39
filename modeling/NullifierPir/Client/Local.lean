import NullifierPir.Export.Tiers
import NullifierPir.Imt.Proof

/-!
# Local proof retrieval

Port of the shared tier-processing helpers of `pir/client/src/lib.rs` and of the HTTP-free retrieval
`fetch_proof_local_layout`.

On the export of a built tree every split of the depth-19 tree finds the same leaf and assembles the
same authentication path, the sibling path of the leaf in the padded depth-29 tree (`treePath`).
-/

namespace NullifierPir.Client
open Rust ByteString Imt NullifierPir.Types Export

/-- Populated leaves of a row (Rust `valid_leaves_for_row`). -/
def validLeavesForRow (numRanges rowIdx leavesPerRow : Nat) : Nat :=
  let rowStart := saturatingMul rowIdx leavesPerRow
  min (numRanges - rowStart) leavesPerRow

/-- Copy `siblings` into `path` from `offset` on (Rust `fill_path`). -/
def fillPath (path : Vector Fp TREE_DEPTH) (offset : Nat) (siblings : List Fp) :
    Rust (Vector Fp TREE_DEPTH) :=
  if offset + siblings.length ≤ TREE_DEPTH then
    .ok <| Vector.ofFn fun i =>
      if offset ≤ i.val ∧ i.val < offset + siblings.length then siblings.getD (i.val - offset) 0
      else path.get i
  else panicked s!"range end index out of range for slice of length {TREE_DEPTH}"

/-- Locate the subtree and fill its siblings (Rust `process_tier0`). -/
def processTier0 (tier0 : Tier0Data) (layout : PirLayout) (nullifier : Fp)
    (path : Vector Fp TREE_DEPTH) : Rust (Nat × Vector Fp TREE_DEPTH) := do
  let s1 ← ofOption "nullifier not found in any Tier 0 subtree" (← tier0.findSubtree nullifier)
  let offset ← ofOption "PIR layout tier0_layers exceeds pir_depth"
    (checkedSub layout.pirDepth layout.tier0Layers)
  let path ← fillPath path offset (← tier0.extractSiblings s1)
  return (s1, path)

/-- Arguments of `process_tier1_and_build` (Rust `Tier1ProofInput`). -/
structure Tier1ProofInput where
  tier1Row : Bytes
  layout : PirLayout
  rowIdx : Nat
  numRanges : Nat
  nullifier : Fp
  emptyHashes : Vector Fp TREE_DEPTH
  circuitRoot : Fp

/-- Locate the leaf, fill the rest of the path and assemble the proof (Rust
`process_tier1_and_build`). -/
def processTier1AndBuild (H : Hasher) (input : Tier1ProofInput) (path : Vector Fp TREE_DEPTH) :
    Rust ImtProofData := do
  let tier1 ← Tier1Row.fromLayout input.tier1Row input.layout
  let leaves ← input.layout.tier1Leaves
  let validLeaves := validLeavesForRow input.numRanges input.rowIdx leaves
  let leafLocalIdx ← ofOption "nullifier not found in Tier 1 leaf scan"
    (← tier1.findLeaf input.nullifier validLeaves)
  let path ← fillPath path 0 (← tier1.extractSiblings leafLocalIdx validLeaves H)
  let path ← fillPath path input.layout.pirDepth (input.emptyHashes.toList.drop input.layout.pirDepth)
  let globalLeafIdx ← ofOption "global leaf index overflow" <|
    (checkedMul input.rowIdx leaves).bind fun v => checkedAdd v leafLocalIdx
  let bounds ← tier1.leafRecord leafLocalIdx
  return ⟨input.circuitRoot, bounds, UInt32.ofNat globalLeafIdx, path⟩

/-- Label a layout error (Rust `validate_layout`). -/
def validateLayout (label : String) (layout : PirLayout) : Rust Unit :=
  match layout.validateSupported with
  | .error (.err e) => bail s!"{label} {e}"
  | r => r

/-- Local retrieval for an explicit layout (Rust `fetch_proof_local_layout`). -/
def fetchProofLocalLayout (H : Hasher) (tier0Data tier1Data : Bytes) (layout : PirLayout)
    (numRanges : Nat) (nullifier : Fp) (emptyHashes : Vector Fp TREE_DEPTH) (circuitRoot : Fp) :
    Rust ImtProofData := do
  validateLayout "local" layout
  let tier0 ← Tier0Data.fromLayout tier0Data layout
  let rowBytes ← layout.tier1RowBytes
  let (s1, path) ← processTier0 tier0 layout nullifier (Vector.replicate TREE_DEPTH 0)
  let t1Offset ← ofOption "tier1 row offset overflow" (checkedMul s1 rowBytes)
  let t1End ← ofOption "tier1 row end overflow" (checkedAdd t1Offset rowBytes)
  ensure (decide (t1End ≤ tier1Data.length))
    (s!"tier1 data too short: need {rowBytes} bytes at offset {t1Offset}, " ++
      s!"have {tier1Data.length}")
  processTier1AndBuild H
    ⟨slice tier1Data t1Offset rowBytes, layout, s1, numRanges, nullifier, emptyHashes, circuitRoot⟩
    path

/-- Sibling path of leaf `i` in the padded depth-29 tree. -/
def treePath (H : Hasher) (ranges : List PuncturedRange) (i : Nat) : Vector Fp TREE_DEPTH :=
  Vector.ofFn fun k => rangeNode H ranges k.val ((i / 2 ^ k.val) ^^^ 1)

/-- The proof of leaf `i`. -/
def treeProof (H : Hasher) (ranges : List PuncturedRange) (root : Fp) (r : PuncturedRange)
    (i : Nat) : ImtProofData :=
  ⟨root, r, UInt32.ofNat i, treePath H ranges i⟩

/-- Siblings are written at their levels, and the rest of the path stays. -/
lemma fillPath_eq {path : Vector Fp TREE_DEPTH} {offset n} {f : Nat → Fp}
    (h : offset + n ≤ TREE_DEPTH) :
    fillPath path offset ((List.range n).map f) = .ok (Vector.ofFn fun i =>
      if offset ≤ i.val ∧ i.val < offset + n then f (i.val - offset) else path.get i) := by
  rw [fillPath, if_pos (by simpa using h)]
  refine congrArg Except.ok (congrArg Vector.ofFn (funext fun i => ?_))
  rw [List.length_map, List.length_range]
  split
  · rename_i hi
    have hlt : i.val - offset < n := by omega
    simp [hlt]
  · rfl

/-- Adding an even number below does not meet the flipped bit. -/
lemma add_xor_one {a b} : (2 * a + b) ^^^ 1 = 2 * a + (b ^^^ 1) := by
  rcases Nat.mod_two_eq_zero_or_one b with h | h
  · rw [Merkle.xor_one_of_even h, Merkle.xor_one_of_even (by omega)]
    omega
  · rw [Merkle.xor_one_of_odd h, Merkle.xor_one_of_odd (by omega)]
    omega

section Split

variable {H : Hasher} {ranges : List PuncturedRange} {l : PirLayout}

/-- Position of leaf `i` inside its row, seen from the whole tree. -/
lemma row_index {t i k} (h : k < t) :
    i / 2 ^ t * 2 ^ (t - k) + ((i % 2 ^ t / 2 ^ k) ^^^ 1) = (i / 2 ^ k) ^^^ 1 := by
  have hsplit : i / 2 ^ k = 2 * (i / 2 ^ t * 2 ^ (t - k - 1)) + i % 2 ^ t / 2 ^ k := by
    have hpow : (2 : Nat) ^ t = 2 ^ k * (2 * 2 ^ (t - k - 1)) := by
      rw [← Nat.pow_succ', ← Nat.pow_add]
      congr 1
      omega
    conv_lhs => rw [← Nat.div_add_mod i (2 ^ t), hpow, Nat.mul_assoc,
      Nat.mul_add_div (Nat.two_pow_pos k), ← hpow]
    ring
  have hpow : (2 : Nat) ^ (t - k) = 2 * 2 ^ (t - k - 1) := by
    rw [← Nat.pow_succ']
    congr 1
    omega
  rw [hsplit, add_xor_one, hpow]
  ring

/-- Tier 0 returns the subtree's siblings in the tree. -/
lemma extractSiblings_tree (sup : l.Supported) (hdepth : l.pirDepth = PIR_DEPTH) {s}
    (hs : s < 2 ^ l.tier0Layers) :
    (Tier0Data.ofParts l (depthNodes H ranges PIR_DEPTH l.tier0Layers)
      (depthRecords H ranges PIR_DEPTH l.tier0Layers)).extractSiblings s =
    .ok ((List.range l.tier0Layers).map fun k =>
      rangeNode H ranges (l.tier1Layers + k) ((s / 2 ^ k) ^^^ 1)) := by
  have h0 := sup.tier0.1
  have hsplit := hdepth ▸ sup.split
  have hsib : s ^^^ 1 < (depthRecords H ranges PIR_DEPTH l.tier0Layers).length := by
    rw [(@fills_tree H ranges l).records]
    exact Nat.xor_lt_two_pow hs (Nat.one_lt_two_pow (by omega))
  obtain ⟨m, hm⟩ : ∃ m, l.tier0Layers = m + 1 := ⟨l.tier0Layers - 1, by omega⟩
  have hupper : ((List.range m).mapM fun k =>
      (Tier0Data.ofParts l (depthNodes H ranges PIR_DEPTH l.tier0Layers)
        (depthRecords H ranges PIR_DEPTH l.tier0Layers)).nodeAt (m - k) ((s / 2 ^ (k + 1)) ^^^ 1)) =
      .ok ((List.range m).map fun k =>
        rangeNode H ranges (l.tier1Layers + (k + 1)) ((s / 2 ^ (k + 1)) ^^^ 1)) := by
    apply mapM_eq_ok
    intro k hk
    have hk := List.mem_range.mp hk
    have hlt : s / 2 ^ (k + 1) < 2 ^ (m - k) := by
      rw [Nat.div_lt_iff_lt_mul (Nat.two_pow_pos _), ← Nat.pow_add,
        show m - k + (k + 1) = l.tier0Layers by omega]
      exact hs
    obtain ⟨hbound, hget⟩ := List.getElem?_eq_some_iff.mp
      (@getElem?_depthNodes H ranges PIR_DEPTH _ _ _ (show m - k < l.tier0Layers by omega)
        (Nat.xor_lt_two_pow hlt (Nat.one_lt_two_pow (by omega))))
    rw [Tier0Data.nodeAt_ofParts hbound]
    refine congrArg Except.ok (hget.trans ?_)
    rw [show PIR_DEPTH - (m - k) = l.tier1Layers + (k + 1) by omega]
  have hrec : (depthRecords H ranges PIR_DEPTH l.tier0Layers)[s ^^^ 1].1 =
      rangeNode H ranges (l.tier1Layers + 0) ((s / 2 ^ 0) ^^^ 1) := by
    simp only [depthRecords, List.getElem_map, List.getElem_range, Nat.pow_zero, Nat.div_one]
    rw [show PIR_DEPTH - l.tier0Layers = l.tier1Layers + 0 by omega]
  simp only [Tier0Data.extractSiblings, Tier0Data.subtreeRecord_ofParts fills_tree hsib, ok_bind]
  rw [show (Tier0Data.ofParts l (depthNodes H ranges PIR_DEPTH l.tier0Layers)
    (depthRecords H ranges PIR_DEPTH l.tier0Layers)).layers - 1 = m by simp [Tier0Data.ofParts, hm],
    hupper]
  simp only [ok_bind, hrec]
  conv_rhs => rw [hm, List.range_succ_eq_map, List.map_cons, List.map_map]
  rfl

/-- The row's rebuilt subtree is the part of the tree above its leaves. -/
lemma extractSiblings_row {i} :
    (Tier1Row.ofRanges l (rowRanges ranges (2 ^ l.tier1Layers)
      (i / 2 ^ l.tier1Layers))).extractSiblings (i % 2 ^ l.tier1Layers)
        (min (ranges.length - i / 2 ^ l.tier1Layers * 2 ^ l.tier1Layers) (2 ^ l.tier1Layers)) H =
    .ok ((List.range l.tier1Layers).map fun k => rangeNode H ranges k ((i / 2 ^ k) ^^^ 1)) := by
  have hpos : 0 < 2 ^ l.tier1Layers := Nat.two_pow_pos _
  rw [@Tier1Row.extractSiblings_ofRanges l _ H _ _
    (fun j => leafAt H (commitPuncturedRanges H ranges)
      (i / 2 ^ l.tier1Layers * 2 ^ l.tier1Layers + j)) length_rowRanges (Nat.mod_lt _ hpos)]
  · refine congrArg Except.ok (List.map_congr_left fun k hk => ?_)
    have hk := List.mem_range.mp hk
    rw [Merkle.node_shift hk.le, row_index hk]
  · intro j hj
    rw [length_rowRanges] at hj
    rw [rowRanges_get]
    split
    · rename_i hlt
      have hin : i / 2 ^ l.tier1Layers * 2 ^ l.tier1Layers + j < ranges.length := by omega
      rw [leafAt_of_lt (by rwa [length_commitPuncturedRanges])]
      simp [commitPuncturedRanges, hin]
    · rename_i hge
      exact leafAt_of_ge (by rw [length_commitPuncturedRanges]; omega)

/-- The split paths assemble to the tree path of the leaf. -/
lemma assemble_path {i} (sup : l.Supported) (hdepth : l.pirDepth = PIR_DEPTH)
    (hn : ranges.length ≤ 2 ^ PIR_DEPTH) (hi : i < ranges.length) {path : Vector Fp TREE_DEPTH} :
    (do
      let path ← fillPath path l.tier1Layers ((List.range l.tier0Layers).map fun k =>
        rangeNode H ranges (l.tier1Layers + k) ((i / 2 ^ l.tier1Layers / 2 ^ k) ^^^ 1))
      let path ← fillPath path 0 ((List.range l.tier1Layers).map fun k =>
        rangeNode H ranges k ((i / 2 ^ k) ^^^ 1))
      fillPath path PIR_DEPTH ((precomputeEmptyHashes H).toList.drop PIR_DEPTH)) =
    .ok (treePath H ranges i) := by
  have hsplit := hdepth ▸ sup.split
  have htail : (precomputeEmptyHashes H).toList.drop PIR_DEPTH =
      (List.range 10).map fun k => emptyHash H (PIR_DEPTH + k) := by
    rw [toList_precomputeEmptyHashes, ← List.map_drop]
    rfl
  have hdepths : PIR_DEPTH + 10 = TREE_DEPTH := rfl
  rw [htail, fillPath_eq (by omega)]
  simp only [ok_bind]
  rw [fillPath_eq (by omega)]
  simp only [ok_bind]
  rw [fillPath_eq (by omega), treePath]
  refine congrArg Except.ok (congrArg Vector.ofFn (funext fun k => ?_))
  have hk := k.isLt
  simp only [Vector.get_ofFn, Nat.zero_le, true_and, Nat.zero_add, Nat.sub_zero]
  -- below the row, inside Tier 0, and above the PIR root
  rcases Nat.lt_or_ge k.val l.tier1Layers with hrow | hrow
  · rw [if_neg (by omega), if_pos hrow]
  · rcases Nat.lt_or_ge k.val PIR_DEPTH with htop | htop
    · rw [if_neg (by omega), if_neg (by omega), if_pos (by omega), Nat.div_div_eq_div_mul,
        ← Nat.pow_add, Nat.add_sub_cancel' hrow]
    · rw [if_pos (by omega), Nat.add_sub_cancel' htop]
      have hpow : 2 ^ PIR_DEPTH ≤ 2 ^ k.val := Nat.pow_le_pow_right (by decide) htop
      rw [Nat.div_eq_of_lt (by omega), Nat.zero_xor]
      exact (rangeNode_of_le hn (by rwa [Nat.one_mul])).symm

end Split

/-- Records of a row that hold a range. -/
lemma validLeavesForRow_eq {n s w} (h : s * w < U64) :
    validLeavesForRow n s w = min (n - s * w) w := by
  have hsat : saturatingMul s w = s * w := Nat.min_eq_left (Nat.le_sub_one_of_lt h)
  rw [validLeavesForRow, hsat]

section Search

variable {H : Hasher} {ranges : List PuncturedRange} {l : PirLayout} {v : Fp}

/-- Tier 0 routes a value to the subtree of the range that contains it. -/
lemma findSubtree_of_mem (cov : Cover ranges) (sup : l.Supported) (hdepth : l.pirDepth = PIR_DEPTH)
    (hn : ranges.length ≤ 2 ^ PIR_DEPTH) {i} (hi : i < ranges.length) (mem : ranges[i].Mem v) :
    (Tier0Data.ofParts l (depthNodes H ranges PIR_DEPTH l.tier0Layers)
      (depthRecords H ranges PIR_DEPTH l.tier0Layers)).findSubtree v =
        .ok (some (i / 2 ^ l.tier1Layers)) := by
  have hsplit := hdepth ▸ sup.split
  have hpos : 0 < 2 ^ l.tier1Layers := Nat.two_pow_pos _
  have hlt : i / 2 ^ l.tier1Layers < 2 ^ l.tier0Layers := by
    rw [Nat.div_lt_iff_lt_mul hpos, ← Nat.pow_add, ← hsplit]
    omega
  have hbound : Search.upperBound
      (fun s => decide (subtreeMinKey ranges (s * 2 ^ l.tier1Layers) ≤ v)) 0 (2 ^ l.tier0Layers) =
      i / 2 ^ l.tier1Layers + 1 := by
    apply Search.upperBound_eq (Nat.zero_le _) hlt
    · intro s _ hs
      have hle : s * 2 ^ l.tier1Layers ≤ i :=
        (Nat.mul_le_mul_right _ (Nat.lt_succ_iff.mp hs)).trans (Nat.div_mul_le_self i _)
      rw [subtreeMinKey, List.getElem?_eq_getElem (by omega)]
      exact decide_eq_true ((cov.lo_le_lo hle hi).trans mem.1.le)
    · intro s hs _
      have hgt : i < s * 2 ^ l.tier1Layers := (Nat.div_lt_iff_lt_mul hpos).mp hs
      apply decide_eq_false
      rw [subtreeMinKey, not_le]
      rcases Nat.lt_or_ge (s * 2 ^ l.tier1Layers) ranges.length with hin | hout
      · rw [List.getElem?_eq_getElem hin]
        exact mem.2.1.trans_le (cov.hi_le_lo hgt hin)
      · rw [List.getElem?_eq_none hout]
        exact mem.2.1.trans_le Fp.le_negOne
  rw [@Tier0Data.findSubtree_ofParts l _ _ fills_tree v
    (fun s => subtreeMinKey ranges (s * 2 ^ l.tier1Layers)), hbound]
  · rfl
  · intro s hs
    simp only [depthRecords, List.getElem_map, List.getElem_range]
    rw [show PIR_DEPTH - l.tier0Layers = l.tier1Layers by omega]

/-- The row scan finds the leaf. -/
lemma findLeaf_of_mem (cov : Cover ranges) {i} (hi : i < ranges.length) (mem : ranges[i].Mem v) :
    (Tier1Row.ofRanges l (rowRanges ranges (2 ^ l.tier1Layers) (i / 2 ^ l.tier1Layers))).findLeaf v
        (min (ranges.length - i / 2 ^ l.tier1Layers * 2 ^ l.tier1Layers) (2 ^ l.tier1Layers)) =
      .ok (some (i % 2 ^ l.tier1Layers)) := by
  have hpos : 0 < 2 ^ l.tier1Layers := Nat.two_pow_pos _
  have hmod := Nat.mod_lt i hpos
  have hdiv : i / 2 ^ l.tier1Layers * 2 ^ l.tier1Layers + i % 2 ^ l.tier1Layers = i :=
    Nat.div_add_mod' i _
  generalize i / 2 ^ l.tier1Layers = s at hdiv
  have hbound : Search.upperBound
      (fun j => decide ((ranges.getD (s * 2 ^ l.tier1Layers + j) ⟨0, 0, 0⟩).lo ≤ v)) 0
      (min (ranges.length - s * 2 ^ l.tier1Layers) (2 ^ l.tier1Layers)) =
      i % 2 ^ l.tier1Layers + 1 := by
    apply Search.upperBound_eq (Nat.zero_le _) (by omega)
    · intro j _ hj
      have hin : s * 2 ^ l.tier1Layers + j < ranges.length := by omega
      rw [List.getD_eq_getElem _ _ hin]
      exact decide_eq_true ((cov.lo_le_lo (by omega) hi).trans mem.1.le)
    · intro j hj hlt
      have hin : s * 2 ^ l.tier1Layers + j < ranges.length := by omega
      rw [List.getD_eq_getElem _ _ hin]
      exact decide_eq_false (not_le.mpr (mem.2.1.trans_le (cov.hi_le_lo (by omega) hin)))
  rw [@Tier1Row.findLeaf_ofRanges l _ v _
    (fun j => (ranges.getD (s * 2 ^ l.tier1Layers + j) ⟨0, 0, 0⟩).lo)
    (by rw [length_rowRanges]; omega) fun j hj => by rw [rowRanges_get], hbound]
  have hget : (rowRanges ranges (2 ^ l.tier1Layers) s)[i % 2 ^ l.tier1Layers]? =
      some ranges[i] := by
    have hlen : i % 2 ^ l.tier1Layers < (rowRanges ranges (2 ^ l.tier1Layers) s).length := by
      rwa [length_rowRanges]
    rw [List.getElem?_eq_getElem hlen, rowRanges_get, hdiv, List.getD_eq_getElem _ _ hi]
  simp only [Nat.add_sub_cancel, hget, Option.bind_some, (intervalCheck_iff (cov.ordered i hi)).mpr mem, if_true,
    Nat.add_eq_zero_iff, one_ne_zero, and_false, if_false]

/-- A boundary is in no row. -/
lemma findLeaf_of_boundary (cov : Cover ranges) {s}
    (out : ∀ i (h : i < ranges.length), ¬ ranges[i].Mem v) :
    (Tier1Row.ofRanges l (rowRanges ranges (2 ^ l.tier1Layers) s)).findLeaf v
        (min (ranges.length - s * 2 ^ l.tier1Layers) (2 ^ l.tier1Layers)) = .ok none := by
  rw [@Tier1Row.findLeaf_ofRanges l _ v _
    (fun j => (ranges.getD (s * 2 ^ l.tier1Layers + j) ⟨0, 0, 0⟩).lo)
    (by rw [length_rowRanges]; omega) fun j hj => by rw [rowRanges_get]]
  have hb := (@Search.upperBound_bounds
    (fun j => decide ((ranges.getD (s * 2 ^ l.tier1Layers + j) ⟨0, 0, 0⟩).lo ≤ v)) 0
    (min (ranges.length - s * 2 ^ l.tier1Layers) (2 ^ l.tier1Layers)) (Nat.zero_le _)).2
  generalize Search.upperBound _ _ _ = k at hb
  refine congrArg Except.ok ?_
  by_cases hk : k = 0
  · rw [if_pos hk]
  · have hin : s * 2 ^ l.tier1Layers + (k - 1) < ranges.length := by omega
    have hlen : k - 1 < (rowRanges ranges (2 ^ l.tier1Layers) s).length := by
      rw [length_rowRanges]
      omega
    rw [if_neg hk, List.getElem?_eq_getElem hlen, Option.bind_some, rowRanges_get,
      List.getD_eq_getElem _ _ hin, if_neg fun h => out _ hin ((intervalCheck_iff (cov.ordered _ hin)).mp h)]

end Search

end NullifierPir.Client
