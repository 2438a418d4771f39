import NullifierPir.Export.Roots
import NullifierPir.Store
import NullifierPir.Types.Metadata

/-!
# Tree checkpoints

Port of `pir/export/src/tree_checkpoint.rs`: the file `nullifiers.tree` is a 28-byte header and the
`bincode` form of the tree's wire type, written to a temp file that is then renamed. `Bincode` is the
third-party serializer; what it writes it reads back.

`decodeTree_encodeTree` and `readHeader_header` are the two halves of the round trip, and
`saveTreeCheckpoint_run` is the whole of what a save does: no operation before the rename touches the
checkpoint.
-/

namespace NullifierPir.Export
open Rust ByteString Crash Imt NullifierPir.Types

/-- Magic ASCII tag of the format. -/
def TREE_MAGIC : Bytes := ascii "SVOTEPT2"

/-- Magic, schema version, height and dataset version. -/
def TREE_HEADER_LEN : Nat := 8 + 4 + 8 + 8

def TREE_SCHEMA_VERSION : Nat := 2

/-- Bytes of a field element on the wire (Rust `[u8; 32]`). -/
abbrev FpBytes := { bs : Bytes // bs.length = 32 }

/-- Wire form of a tree (Rust `PirTreeWire`). -/
structure PirTreeWire where
  pirRoot : FpBytes
  circuitRoot : FpBytes
  levels : List (List FpBytes)
  ranges : List (FpBytes × FpBytes × FpBytes)
  emptyHashes : Vector FpBytes TREE_DEPTH
  deriving DecidableEq

/-- `bincode` at the wire type. -/
structure Bincode where
  serialize : PirTreeWire → Except String Bytes
  deserialize : Bytes → Except String PirTreeWire
  deserialize_serialize : ∀ wire bs, serialize wire = .ok bs → deserialize bs = .ok wire

def fpToBytes (x : Fp) : FpBytes := ⟨x.toRepr, Fp.length_toRepr⟩

def fpFromBytes (arr : FpBytes) : Rust Fp :=
  ofOption "non-canonical Fp encoding in tree checkpoint" (Fp.fromRepr arr.val)

/-- Element by element, the tree on the wire. -/
def PirTree.toWire (tree : PirTree) : PirTreeWire where
  pirRoot := fpToBytes tree.pirRoot
  circuitRoot := fpToBytes tree.circuitRoot
  levels := tree.levels.map fun row => row.map fpToBytes
  ranges := tree.ranges.map fun r => (fpToBytes r.lo, fpToBytes r.mid, fpToBytes r.hi)
  emptyHashes := tree.emptyHashes.map fpToBytes

variable (bincode : Bincode)

/-- Rust `encode_tree`. -/
def encodeTree (tree : PirTree) : Rust Bytes :=
  context "bincode serialize PirTree" (ofResult (bincode.serialize tree.toWire))

/-- One punctured range of the wire. -/
def rangeFromBytes (r : FpBytes × FpBytes × FpBytes) : Rust PuncturedRange := do
  let lo ← fpFromBytes r.1
  let mid ← fpFromBytes r.2.1
  let hi ← fpFromBytes r.2.2
  return ⟨lo, mid, hi⟩

/-- Rust `decode_tree`. -/
def decodeTree (bytes : Bytes) : Rust PirTree := do
  let wire ← context "bincode deserialize PirTree" (ofResult (bincode.deserialize bytes))
  let pirRoot ← fpFromBytes wire.pirRoot
  let circuitRoot ← fpFromBytes wire.circuitRoot
  let levels ← wire.levels.mapM fun row => row.mapM fpFromBytes
  let ranges ← wire.ranges.mapM rangeFromBytes
  let emptyHashes ← wire.emptyHashes.mapM fpFromBytes
  return ⟨pirRoot, circuitRoot, levels, ranges, emptyHashes⟩

/-! ### Headers -/

/-- The header written in front of a payload. -/
def encodeHeader (chainHeight : Nat) : Bytes :=
  TREE_MAGIC ++ toLe 4 TREE_SCHEMA_VERSION ++ toLe 8 chainHeight ++ toLe 8 DATASET_VERSION

/-- Check the header of a file. -/
def parseTreeHeader (data : Bytes) : Rust (Nat × Nat) := do
  ensure (decide (TREE_HEADER_LEN ≤ data.length))
    "read header nullifiers.tree: failed to fill whole buffer"
  ensure (slice data 0 8 == TREE_MAGIC)
    ("nullifiers.tree at nullifiers.tree is not an Ironwood tree checkpoint " ++
      "(missing magic SVOTEPT2); remove it and re-run sync")
  let schema := ofLe (slice data 8 4)
  let height := ofLe (slice data 12 8)
  let datasetVersion := ofLe (slice data 20 8)
  ensure (schema == TREE_SCHEMA_VERSION && datasetVersion == DATASET_VERSION)
    "unsupported nullifiers.tree schema or dataset version; remove it and re-run sync"
  return (schema, height)

/-- Rust `read_tree_checkpoint_header`. -/
def readTreeCheckpointHeader : Fs (Option (Nat × Nat)) := do
  if !(← Fs.exists_ .nullifiersTree) then return none
  let data ← Fs.readFile .nullifiersTree
  Prog.lift do return some (← parseTreeHeader data)

/-- Decode the contents of a checkpoint file for a height. -/
def parseTreeCheckpoint (data : Bytes) (expectedHeight : Nat) : Rust PirTree := do
  ensure (decide (TREE_HEADER_LEN ≤ data.length))
    "read header nullifiers.tree: failed to fill whole buffer"
  ensure (slice data 0 8 == TREE_MAGIC)
    ("nullifiers.tree at nullifiers.tree is not an Ironwood tree checkpoint; " ++
      "remove it and re-run sync")
  let schema := ofLe (slice data 8 4)
  ensure (schema == TREE_SCHEMA_VERSION)
    s!"unsupported nullifiers.tree schema_version {schema} (expected {TREE_SCHEMA_VERSION})"
  let height := ofLe (slice data 12 8)
  ensure (height == expectedHeight)
    (s!"nullifiers.tree height {height} does not match expected {expectedHeight}; " ++
      "remove tree/tiers and re-sync")
  let datasetVersion := ofLe (slice data 20 8)
  ensure (datasetVersion == DATASET_VERSION)
    (s!"nullifiers.tree dataset version {datasetVersion} does not match expected " ++
      s!"{DATASET_VERSION}; remove it and re-run sync")
  let tree ← decodeTree bincode (data.drop TREE_HEADER_LEN)
  ensure (tree.levels.length == PIR_DEPTH)
    (s!"nullifiers.tree has {tree.levels.length} Merkle levels but this binary requires " ++
      s!"PIR_DEPTH={PIR_DEPTH}; remove the checkpoint and tier files, then re-run sync")
  return tree

/-- Rust `load_tree_checkpoint`. -/
def loadTreeCheckpoint (expectedHeight : Nat) : Fs (Option PirTree) := do
  if !(← Fs.exists_ .nullifiersTree) then return none
  let data ← Fs.readFile .nullifiersTree
  Prog.lift do return some (← parseTreeCheckpoint bincode data expectedHeight)

/-- Rust `save_tree_checkpoint`. -/
def saveTreeCheckpoint (tree : PirTree) (chainHeight : Nat) : Fs Unit := do
  Fs.removeIfExists .nullifiersTreeTmp
  let payload ← Prog.lift (encodeTree bincode tree)
  Prog.perform (.create .nullifiersTreeTmp [])
  Prog.perform (.append .nullifiersTreeTmp (encodeHeader chainHeight))
  Prog.perform (.append .nullifiersTreeTmp payload)
  Prog.perform (.rename .nullifiersTreeTmp .nullifiersTree)

/-! ### Codec -/

section Codec

variable {bincode}

/-- Encoded field elements decode. -/
@[simp] lemma fpFromBytes_fpToBytes (x : Fp) : fpFromBytes (fpToBytes x) = .ok x := by
  rw [fpFromBytes, fpToBytes, Fp.fromRepr_toRepr]
  rfl

/-- A list that is converted element by element converts back. -/
lemma mapM_map_eq_ok {α β : Type} {encode : α → β} {decode : β → Rust α}
    (h : ∀ a, decode (encode a) = .ok a) (l : List α) : (l.map encode).mapM decode = .ok l := by
  induction l with
  | nil => rfl
  | cons a l ih =>
    rw [List.map_cons, List.mapM_cons, h, ih]
    rfl

/-- Decoding undoes encoding element by element. -/
lemma vector_mapM_map_eq_ok {α β : Type} {n : Nat} {encode : α → β} {decode : β → Rust α}
    (h : ∀ a, decode (encode a) = .ok a) (v : Vector α n) :
    (v.map encode).mapM decode = .ok v := by
  have hpure : decode ∘ encode = fun a => (Pure.pure (id a) : Rust α) := funext h
  rw [Vector.mapM_map, hpure, Vector.mapM_pure, Vector.map_id]
  rfl

/-- A tree that was encoded decodes to itself, every field included. -/
lemma decodeTree_encodeTree {tree : PirTree} {bytes : Bytes}
    (ok : encodeTree bincode tree = .ok bytes) : decodeTree bincode bytes = .ok tree := by
  have hser : bincode.serialize tree.toWire = .ok bytes := by
    rw [encodeTree] at ok
    cases h : bincode.serialize tree.toWire with
    | ok bs =>
      rw [h] at ok
      cases ok
      rfl
    | error e =>
      rw [h] at ok
      cases ok
  have hrange (r : PuncturedRange) :
      rangeFromBytes (fpToBytes r.lo, fpToBytes r.mid, fpToBytes r.hi) = .ok r := by
    simp only [rangeFromBytes, fpFromBytes_fpToBytes, ok_bind]
    rfl
  have hrow (row : List Fp) : (row.map fpToBytes).mapM fpFromBytes = .ok row :=
    mapM_map_eq_ok fpFromBytes_fpToBytes row
  rw [decodeTree, bincode.deserialize_serialize _ _ hser]
  simp only [ofResult, context, ok_bind, PirTree.toWire, fpFromBytes_fpToBytes,
    mapM_map_eq_ok hrow, mapM_map_eq_ok hrange, vector_mapM_map_eq_ok fpFromBytes_fpToBytes]
  rfl

end Codec

/-! ### Headers -/

section Header

variable {bincode}

/-- The header has its fixed length. -/
lemma length_encodeHeader (h : Nat) : (encodeHeader h).length = TREE_HEADER_LEN := by
  rw [encodeHeader, List.length_append, List.length_append, List.length_append, length_toLe,
    length_toLe, length_toLe]
  rfl

/-- The middle of three parts. -/
lemma slice_middle {a b c : Bytes} {off len : Nat} (hoff : off = a.length) (hlen : len = b.length) :
    slice (a ++ b ++ c) off len = b := by
  have hright := @slice_append_right _ a b 0 b.length
  rw [Nat.add_zero, slice_zero_length] at hright
  rw [slice_append_left (by rw [List.length_append, hoff, hlen]), hoff, hlen, hright]

/-- The fields of a written header. -/
lemma header_fields {h : Nat} (fits : h < U64) (payload : Bytes) :
    slice (encodeHeader h ++ payload) 0 8 = TREE_MAGIC ∧
    ofLe (slice (encodeHeader h ++ payload) 8 4) = TREE_SCHEMA_VERSION ∧
    ofLe (slice (encodeHeader h ++ payload) 12 8) = h ∧
    ofLe (slice (encodeHeader h ++ payload) 20 8) = DATASET_VERSION := by
  have hmagic : TREE_MAGIC.length = 8 := rfl
  have hsplit : encodeHeader h ++ payload =
      TREE_MAGIC ++ (toLe 4 TREE_SCHEMA_VERSION ++ (toLe 8 h ++ (toLe 8 DATASET_VERSION ++ payload))) := by
    simp only [encodeHeader, List.append_assoc]
  rw [hsplit]
  refine ⟨?_, ?_, ?_, ?_⟩
  · exact @slice_middle [] TREE_MAGIC _ 0 8 rfl rfl
  · rw [← List.append_assoc, slice_middle hmagic.symm length_toLe.symm]
    exact ofLe_toLe (by decide)
  · rw [← List.append_assoc, ← List.append_assoc]
    rw [slice_middle (by rw [List.length_append, hmagic, length_toLe]) length_toLe.symm]
    exact ofLe_toLe fits
  · rw [← List.append_assoc, ← List.append_assoc, ← List.append_assoc]
    rw [slice_middle (by rw [List.length_append, List.length_append, hmagic, length_toLe, length_toLe])
      length_toLe.symm]
    exact ofLe_toLe (by decide)

/-- A written checkpoint is parsed at its height only. -/
lemma parseTreeCheckpoint_written {tree : PirTree} {payload : Bytes} {h : Nat} (fits : h < U64)
    (hlevels : tree.levels.length = PIR_DEPTH) (ok : encodeTree bincode tree = .ok payload)
    (expectedHeight : Nat) :
    if expectedHeight = h then
      parseTreeCheckpoint bincode (encodeHeader h ++ payload) expectedHeight = .ok tree
    else ∃ msg, parseTreeCheckpoint bincode (encodeHeader h ++ payload) expectedHeight = bail msg := by
  obtain ⟨hmagic, hschema, hheight, hversion⟩ := header_fields fits payload
  have hlen : TREE_HEADER_LEN ≤ (encodeHeader h ++ payload).length := by
    rw [List.length_append, length_encodeHeader]
    exact Nat.le_add_right ..
  have hdrop : (encodeHeader h ++ payload).drop TREE_HEADER_LEN = payload := by
    rw [← length_encodeHeader h, List.drop_left]
  have hparse : parseTreeCheckpoint bincode (encodeHeader h ++ payload) expectedHeight = do
      ensure (h == expectedHeight)
        (s!"nullifiers.tree height {h} does not match expected {expectedHeight}; " ++
          "remove tree/tiers and re-sync")
      return tree := by
    rw [parseTreeCheckpoint, ensure_pos (decide_eq_true hlen)]
    simp only [hmagic, hschema, hheight, hversion, beq_self_eq_true, hdrop,
      decodeTree_encodeTree ok, ok_bind, hlevels, ensure_pos]
  rw [hparse]
  split
  · rename_i heq
    rw [heq, ensure_pos (beq_self_eq_true h)]
    rfl
  · rename_i hne
    have hbeq : (h == expectedHeight) = false := beq_false_of_ne (Ne.symm hne)
    rw [hbeq]
    exact ⟨_, rfl⟩

/-- The header of a written checkpoint. -/
lemma parseTreeHeader_written {h : Nat} (fits : h < U64) (payload : Bytes) :
    parseTreeHeader (encodeHeader h ++ payload) = .ok (TREE_SCHEMA_VERSION, h) := by
  obtain ⟨hmagic, hschema, hheight, hversion⟩ := header_fields fits payload
  have hlen : TREE_HEADER_LEN ≤ (encodeHeader h ++ payload).length := by
    rw [List.length_append, length_encodeHeader]
    exact Nat.le_add_right ..
  rw [parseTreeHeader, ensure_pos (decide_eq_true hlen)]
  simp only [hmagic, hschema, hheight, hversion, beq_self_eq_true, Bool.and_self, ensure_pos, ok_bind]
  rfl

/-- A checkpoint that parses at a height has that height in its header. -/
lemma parseTreeHeader_of_parse {data : Bytes} {h : Nat} {tree : PirTree}
    (ok : parseTreeCheckpoint bincode data h = .ok tree) :
    parseTreeHeader data = .ok (TREE_SCHEMA_VERSION, h) := by
  rw [parseTreeCheckpoint] at ok
  obtain ⟨_, hlen, ok⟩ := bind_eq_ok.mp ok
  obtain ⟨_, hmagic, ok⟩ := bind_eq_ok.mp ok
  obtain ⟨_, hschema, ok⟩ := bind_eq_ok.mp ok
  obtain ⟨_, hheight, ok⟩ := bind_eq_ok.mp ok
  obtain ⟨_, hversion, _⟩ := bind_eq_ok.mp ok
  rw [ensure_eq_ok, decide_eq_true_eq] at hlen
  rw [ensure_eq_ok, beq_iff_eq] at hmagic hschema hheight hversion
  rw [parseTreeHeader, ensure_pos (decide_eq_true hlen)]
  simp only [hmagic, hschema, hheight, hversion, beq_self_eq_true, Bool.and_self, ensure_pos, ok_bind]
  rfl

end Header

/-! ### Files -/

section Files

variable {bincode} {s : Dir} {data : Bytes}

/-- Reading the header parses the file. -/
lemma readTreeCheckpointHeader_eq (file : s .nullifiersTree = some data) :
    (readTreeCheckpointHeader s).2 = parseTreeHeader data >>= fun fields => .ok (some fields) := by
  rw [readTreeCheckpointHeader, exists_bind (show _ = true by rw [file]; rfl), if_neg (by simp),
    readFile_bind file]
  rfl

/-- Loading parses the file. -/
lemma loadTreeCheckpoint_eq (file : s .nullifiersTree = some data) (expectedHeight : Nat) :
    (loadTreeCheckpoint bincode expectedHeight s).2 =
      parseTreeCheckpoint bincode data expectedHeight >>= fun tree => .ok (some tree) := by
  rw [loadTreeCheckpoint, exists_bind (show _ = true by rw [file]; rfl), if_neg (by simp),
    readFile_bind file]
  rfl

/-- Without a file nothing is loaded. -/
lemma loadTreeCheckpoint_none (file : s .nullifiersTree = none) (expectedHeight : Nat) :
    (loadTreeCheckpoint bincode expectedHeight s).2 = .ok none := by
  rw [loadTreeCheckpoint, exists_bind (show _ = false by rw [file]; rfl)]
  rfl

/-- What a save does in front of the rename. -/
def saveOps (s : Dir) (chainHeight : Nat) (payload : Bytes) : List FsOp :=
  (if (s .nullifiersTreeTmp).isSome then [.remove .nullifiersTreeTmp] else []) ++
    [.create .nullifiersTreeTmp [], .append .nullifiersTreeTmp (encodeHeader chainHeight),
      .append .nullifiersTreeTmp payload]

/-- A file is removed if it is there. -/
lemma removeIfExists_run (n : DataFile) (s : Dir) :
    Fs.removeIfExists n s = (if (s n).isSome then [.remove n] else [], .ok ()) := by
  cases h : (s n).isSome with
  | true =>
    rw [Fs.removeIfExists, exists_bind h]
    rfl
  | false =>
    rw [Fs.removeIfExists, exists_bind h]
    rfl

/-- The operations of a save, and its result. -/
lemma saveTreeCheckpoint_run {tree : PirTree} {payload : Bytes} (s : Dir) (h : Nat)
    (ok : encodeTree bincode tree = .ok payload) :
    saveTreeCheckpoint bincode tree h s =
      (saveOps s h payload ++ [.rename .nullifiersTreeTmp .nullifiersTree], .ok ()) := by
  have hremove : (Fs.removeIfExists .nullifiersTreeTmp s).2 = .ok () := by rw [removeIfExists_run]
  rw [saveTreeCheckpoint, Prog.bind_of_ok hremove, Prog.lift_bind ok, removeIfExists_run, saveOps,
    List.append_assoc]
  rfl

/-- A save that cannot encode the tree only removes the temp file. -/
lemma saveTreeCheckpoint_fails {tree : PirTree} {fault : Fault} (s : Dir) (h : Nat)
    (failed : encodeTree bincode tree = .error fault) :
    saveTreeCheckpoint bincode tree h s =
      (if (s .nullifiersTreeTmp).isSome then [.remove .nullifiersTreeTmp] else [], .error fault) := by
  have hremove : (Fs.removeIfExists .nullifiersTreeTmp s).2 = .ok () := by rw [removeIfExists_run]
  have hlift : (Prog.lift (encodeTree bincode tree) : Fs Bytes) ((Fs.removeIfExists
      .nullifiersTreeTmp).after s) = ([], .error fault) := by rw [Prog.lift, failed]
  rw [saveTreeCheckpoint, Prog.bind_of_ok hremove, Prog.bind_of_error (by rw [hlift]), hlift,
    removeIfExists_run, List.append_nil]

/-- No operation in front of the rename touches the checkpoint. -/
lemma saveOps_avoids (s : Dir) (h : Nat) (payload : Bytes) :
    ∀ o ∈ saveOps s h payload, o.Avoids .nullifiersTree := by
  intro o ho
  rw [saveOps, List.mem_append] at ho
  rcases ho with ho | ho
  · split at ho
    · obtain rfl := List.mem_singleton.mp ho
      simp [Op.Avoids]
    · cases ho
  · simp only [List.mem_cons, List.not_mem_nil, or_false] at ho
    rcases ho with rfl | rfl | rfl <;> simp [Op.Avoids]

/-- The temp file in front of the rename. -/
lemma exec_saveOps (s : Dir) (h : Nat) (payload : Bytes) :
    exec s (saveOps s h payload) .nullifiersTreeTmp = some (encodeHeader h ++ payload) := by
  rw [saveOps, exec_append]
  simp

/-- A completed save leaves the header and the payload. -/
lemma saveTreeCheckpoint_after {tree : PirTree} {payload : Bytes} (s : Dir) (h : Nat)
    (ok : encodeTree bincode tree = .ok payload) :
    (saveTreeCheckpoint bincode tree h).after s .nullifiersTree =
      some (encodeHeader h ++ payload) := by
  rw [Prog.after, saveTreeCheckpoint_run s h ok, exec_append, exec_cons, exec_nil,
    apply_rename (exec_saveOps s h payload)]
  rfl

/-- A save cut at any point leaves the checkpoint as it was, or has done everything. -/
lemma saveTreeCheckpoint_interrupted {tree : PirTree} {h : Nat} {s s' : Dir}
    (cut : Interrupted s (saveTreeCheckpoint bincode tree h s).1 s') :
    s' .nullifiersTree = s .nullifiersTree ∨ s' = (saveTreeCheckpoint bincode tree h).after s := by
  cases hencode : encodeTree bincode tree with
  | error fault =>
    rw [saveTreeCheckpoint_fails s h hencode] at cut
    refine .inl (Interrupted.of_avoids (fun o ho => ?_) cut)
    dsimp only at ho
    split at ho
    · obtain rfl := List.mem_singleton.mp ho
      simp [Op.Avoids]
    · cases ho
  | ok payload =>
    have hafter : (saveTreeCheckpoint bincode tree h).after s =
        (Op.rename .nullifiersTreeTmp .nullifiersTree : FsOp).apply (exec s (saveOps s h payload)) := by
      rw [Prog.after, saveTreeCheckpoint_run s h hencode, exec_append]
      rfl
    rw [saveTreeCheckpoint_run s h hencode, interrupted_append] at cut
    rcases cut with cut | cut
    · exact .inl (Interrupted.of_avoids (saveOps_avoids s h payload) cut)
    · rcases interrupted_cons.mp cut with rfl | torn | cut
      · exact .inl (Interrupted.of_avoids (saveOps_avoids s h payload) .exec)
      · cases torn
      · rw [interrupted_nil] at cut
        rw [hafter]
        exact .inr cut

/-- Tree checkpoints round-trip and fail closed. -/
theorem tree_checkpoint_round_trip (bincode : Bincode) :
    (∀ (tree : PirTree) (h h' : Nat) (s : Dir), tree.levels.length = PIR_DEPTH → h < U64 →
      (saveTreeCheckpoint bincode tree h s).2 = .ok () →
      (readTreeCheckpointHeader ((saveTreeCheckpoint bincode tree h).after s)).2 =
        .ok (some (TREE_SCHEMA_VERSION, h)) ∧
      if h' = h then
        (loadTreeCheckpoint bincode h' ((saveTreeCheckpoint bincode tree h).after s)).2 =
          .ok (some tree)
      else ∃ msg,
        (loadTreeCheckpoint bincode h' ((saveTreeCheckpoint bincode tree h).after s)).2 = bail msg) ∧
    (∀ (s : Dir) (h : Nat) (tree : PirTree),
      (loadTreeCheckpoint bincode h s).2 = .ok (some tree) →
      (readTreeCheckpointHeader s).2 = .ok (some (TREE_SCHEMA_VERSION, h))) ∧
    ∀ (tree : PirTree) (h : Nat) (s s' : Dir),
      Interrupted s (saveTreeCheckpoint bincode tree h s).1 s' →
      s' .nullifiersTree = s .nullifiersTree ∨
        s' = (saveTreeCheckpoint bincode tree h).after s := by
  refine ⟨?_, ?_, fun tree h s s' => saveTreeCheckpoint_interrupted⟩
  · intro tree h h' s hlevels fits saved
    cases hencode : encodeTree bincode tree with
    | error fault =>
      rw [saveTreeCheckpoint_fails s h hencode] at saved
      cases saved
    | ok payload =>
      have hfile := saveTreeCheckpoint_after s h hencode
      rw [readTreeCheckpointHeader_eq hfile, parseTreeHeader_written fits,
        loadTreeCheckpoint_eq hfile]
      refine ⟨rfl, ?_⟩
      have hparse := parseTreeCheckpoint_written fits hlevels hencode h'
      by_cases heq : h' = h
      · rw [if_pos heq] at hparse ⊢
        rw [hparse]
        rfl
      · rw [if_neg heq] at hparse ⊢
        obtain ⟨msg, hparse⟩ := hparse
        rw [hparse]
        exact ⟨msg, rfl⟩
  · intro s h tree loaded
    cases hfile : s .nullifiersTree with
    | none =>
      rw [loadTreeCheckpoint_none hfile] at loaded
      cases loaded
    | some data =>
      rw [loadTreeCheckpoint_eq hfile] at loaded
      obtain ⟨tree', hparse, hsome⟩ := bind_eq_ok.mp loaded
      rw [readTreeCheckpointHeader_eq hfile, parseTreeHeader_of_parse hparse]
      rfl

/-- `bincode` bytes of the wire type: fixed-width lengths in front of vectors, arrays as they are. -/
def bincodeBytes (wire : PirTreeWire) : Bytes :=
  wire.pirRoot.val ++ wire.circuitRoot.val ++ toLe 8 wire.levels.length ++
    (wire.levels.flatMap fun row => toLe 8 row.length ++ row.flatMap Subtype.val) ++
    toLe 8 wire.ranges.length ++
    (wire.ranges.flatMap fun r => r.1.val ++ r.2.1.val ++ r.2.2.val) ++
    wire.emptyHashes.toList.flatMap Subtype.val

/-- The serializer at one value. -/
def Bincode.single (wire : PirTreeWire) : Bincode where
  serialize wire' := if wire' = wire then .ok (bincodeBytes wire) else .error "size limit"
  deserialize bs := if bs = bincodeBytes wire then .ok wire else .error "unexpected end of file"
  deserialize_serialize := by
    intro wire' bs ok
    split at ok
    · rename_i heq
      cases ok
      rw [if_pos rfl, heq]
    · cases ok

/-- The serializer encodes its tree. -/
lemma encodeTree_single (tree : PirTree) :
    encodeTree (.single tree.toWire) tree = .ok (bincodeBytes tree.toWire) := by
  have hserialize : (Bincode.single tree.toWire).serialize tree.toWire =
      .ok (bincodeBytes tree.toWire) := if_pos rfl
  rw [encodeTree, hserialize]
  rfl

/-- The tree of two nullifiers loads for the height it was saved at, and for no other. -/
theorem tree_checkpoint_round_trip_two :
    ∃ tree, buildPirTreeFromNullifiers Hasher.affine [5, 7] = .ok tree ∧
      (loadTreeCheckpoint (.single tree.toWire) 4134000
        ((saveTreeCheckpoint (.single tree.toWire) tree 4134000).after fun _ => none)).2 =
          .ok (some tree) ∧
      ∃ msg, (loadTreeCheckpoint (.single tree.toWire) 4134010
        ((saveTreeCheckpoint (.single tree.toWire) tree 4134000).after fun _ => none)).2 = bail msg := by
  obtain ⟨tree, hbuild⟩ := @exists_tree Hasher.affine [5, 7] padFits_two (by decide)
  obtain ⟨ranges, _, build⟩ := bind_eq_ok.mp hbuild
  have hlevels := (buildPirTree_ok build).levels_length
  have hsaved := congrArg Prod.snd
    (saveTreeCheckpoint_run (fun _ => none) 4134000 (encodeTree_single tree))
  have htrip := (tree_checkpoint_round_trip (.single tree.toWire)).1 tree 4134000
  have hsame := htrip 4134000 (fun _ => none) hlevels (by decide) hsaved
  have hother := htrip 4134010 (fun _ => none) hlevels (by decide) hsaved
  rw [if_pos rfl] at hsame
  rw [if_neg (by decide)] at hother
  exact ⟨tree, hbuild, hsame.2, hother.2⟩

end Files

end NullifierPir.Export
