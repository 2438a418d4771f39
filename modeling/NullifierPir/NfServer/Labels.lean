import NullifierPir.Ingest.CrashResume
import NullifierPir.Lib.Footprint
import NullifierPir.NfServer.CmdSync

/-!
# Labels of trees and tiers

A sync command writes the export height into the header of `nullifiers.tree` and into `pir_root.json`.
`Labelled` says that both belong to the tree of the blocks up to that height, in a directory as it is
found, also where a write was cut; a tree that loads and metadata that parses are then those of their
labels (`Labelled.load`, `Labelled.parse`). `RunStep` is what every step of the command keeps, with the
condition on the list that reaches the tree builder. The footprints of the command's programs
(`Aside`) dispose of all steps but those of the sync, of the save of a tree (`materialize_triple`) and
of an export (`exportAll_triple`).
-/

namespace NullifierPir.NfServer.CmdSync
open Rust ByteString Crash Imt NullifierPir.Types NullifierPir.Ingest NullifierPir.Export

section Defs

variable {net : ZcashNetwork} (codecs : Codecs) (c : Chain net)

/-- The tree of the blocks up to a height. -/
def TreeOf (height : Nat) (tree : PirTree) : Prop :=
  height ≤ c.tip ∧ buildPirTreeFromNullifiers codecs.hasher (c.upTo height) = .ok tree

/-- `nullifiers.tree` holds the tree of its label, and `pir_root.json` the metadata of such a tree, or
the beginning of it. -/
structure Labelled (s : Dir) : Prop where
  tree : ∀ data, s .nullifiersTree = some data → ∃ height tree payload, TreeOf codecs c height tree ∧
    encodeTree codecs.bincode tree = .ok payload ∧ data = encodeHeader height ++ payload
  metadata : ∀ text, s .pirRoot = some text → ∃ height tree tier0Bytes rows rowBytes,
    TreeOf codecs c height tree ∧ text <+: codecs.metadata.encode
      (exportMetadata tree net (some height) COMPILED_PIR_LAYOUT tier0Bytes rows rowBytes)

/-- A list that reaches the tree builder carries the export height and is that of its label. -/
def HandsOver (args : Args) (o : FsOp) : Prop :=
  ∀ nfs height, o = .call (.buildTree nfs height) →
    (∃ snapshot, exportTarget args = .ok (snapshot, height)) ∧ nfs = c.upTo height

/-- A step of the command. -/
structure RunStep (args : Args) (s : Dir) (o : FsOp) : Prop where
  sound : Keeps (Sound c) s o
  labelled : Keeps (Labelled codecs c) s o
  handsOver : HandsOver c args o

end Defs

section State

variable {net : ZcashNetwork} {codecs : Codecs} {c : Chain net} {s s' : Dir}

/-- Only the two labelled files matter. -/
lemma Labelled.congr (h : Labelled codecs c s) (htree : s' .nullifiersTree = s .nullifiersTree)
    (hroot : s' .pirRoot = s .pirRoot) : Labelled codecs c s' := by
  refine ⟨?_, ?_⟩
  · rw [htree]
    exact h.tree
  · rw [hroot]
    exact h.metadata

/-- Without the two files nothing is labelled. -/
lemma labelled_of_none (htree : s .nullifiersTree = none) (hroot : s .pirRoot = none) :
    Labelled codecs c s := by
  refine ⟨?_, ?_⟩
  · intro data h
    rw [htree] at h
    cases h
  · intro text h
    rw [hroot] at h
    cases h

/-- A tree that is loaded for a height is the tree of that height. -/
lemma Labelled.load (h : Labelled codecs c s) {height : Nat} {tree : PirTree}
    (ok : (loadTreeCheckpoint codecs.bincode height s).2 = .ok (some tree)) :
    TreeOf codecs c height tree := by
  cases htree : s .nullifiersTree with
  | none =>
    rw [loadTreeCheckpoint_none htree] at ok
    cases ok
  | some data =>
    obtain ⟨label, stored, payload, of, hencode, rfl⟩ := h.tree data htree
    obtain ⟨ranges, _, hbuild⟩ := bind_eq_ok.mp of.2
    have hfits : label < U64 := by
      have htip := of.1
      have := c.tip_lt
      simp only [U64]
      omega
    rw [loadTreeCheckpoint_eq htree] at ok
    obtain ⟨loaded, hload, ok⟩ := bind_eq_ok.mp ok
    cases ok
    have hwritten := parseTreeCheckpoint_written hfits (buildPirTree_ok hbuild).levels_length hencode height
    split at hwritten
    · rename_i heq
      rw [hload] at hwritten
      cases hwritten
      exact heq ▸ of
    · obtain ⟨msg, hfail⟩ := hwritten
      rw [hload] at hfail
      cases hfail

/-- Metadata that parses is that of a tree of its height. -/
lemma Labelled.parse (h : Labelled codecs c s) {text : Bytes} {root : PirMetadata}
    (hroot : s .pirRoot = some text) (ok : codecs.metadata.decode text = .ok root) :
    ∃ height tree tier0Bytes rows rowBytes, TreeOf codecs c height tree ∧
      root = exportMetadata tree net (some height) COMPILED_PIR_LAYOUT tier0Bytes rows rowBytes := by
  obtain ⟨height, tree, tier0Bytes, rows, rowBytes, of, hpre⟩ := h.metadata text hroot
  by_cases hwhole : text = codecs.metadata.encode
      (exportMetadata tree net (some height) COMPILED_PIR_LAYOUT tier0Bytes rows rowBytes)
  · rw [hwhole, codecs.metadata.decode_encode] at ok
    exact ⟨height, tree, tier0Bytes, rows, rowBytes, of, (Except.ok.inj ok).symm⟩
  · exact absurd ok (codecs.metadata.decode_cut _ _ _ hpre hwhole)

/-- What spares the labelled files keeps the labels. -/
lemma keeps_labelled_of_avoids {o : FsOp} (htree : o.Avoids .nullifiersTree)
    (hroot : o.Avoids .pirRoot) : Keeps (Labelled codecs c) s o := fun h =>
  ⟨h.congr htree.apply hroot.apply, fun _ ht => h.congr (htree.torn ht) (hroot.torn ht)⟩

/-- A file that is removed is not labelled any more. -/
lemma keeps_labelled_remove {n : DataFile} : Keeps (Labelled codecs c) s (.remove n : FsOp) := by
  intro h
  refine ⟨⟨fun data htree => h.tree data ?_, fun text hroot => h.metadata text ?_⟩, ?_⟩
  · rw [apply_remove] at htree
    split at htree
    · cases htree
    · exact htree
  · rw [apply_remove] at hroot
    split at hroot
    · cases hroot
    · exact hroot
  · intro _ ht
    cases ht

end State

section Footprints

/-- The operation writes at most the files `ns`, and a labelled file only by removing it. -/
def Aside (ns : List DataFile) (o : FsOp) : Prop :=
  o.Inside ns ∧ (o.Avoids .nullifiersTree ∧ o.Avoids .pirRoot ∨ ∃ n, o = .remove n)

variable {net : ZcashNetwork} {codecs : Codecs} {c : Chain net} {args : Args} {s : Dir} {o : FsOp}
  {ns : List DataFile}

/-- It keeps the labels and hands nothing over. -/
lemma Aside.labelled (h : Aside ns o) : Keeps (Labelled codecs c) s o := by
  rcases h.2 with ⟨htree, hroot⟩ | ⟨n, rfl⟩
  · exact keeps_labelled_of_avoids htree hroot
  · exact keeps_labelled_remove

/-- An operation on other files hands nothing over. -/
lemma Aside.handsOver (h : Aside ns o) : HandsOver c args o := by
  rintro nfs height rfl
  exact h.1.elim

/-- Away from the data it is a step of the command. -/
lemma Aside.runStep (h : Aside ns o) (hbin : DataFile.nullifiersBin ∉ ns)
    (hcp : DataFile.nullifiersCheckpoint ∉ ns) : RunStep codecs c args s o :=
  ⟨keeps_sound_of_avoids (h.1.avoids hbin) (h.1.avoids hcp), h.labelled, h.handsOver⟩

/-- A read is aside. -/
lemma read_runStep {n : DataFile} : RunStep codecs c args s (.read n) := by
  have hread : Aside [] (.read n : FsOp) := ⟨trivial, .inl ⟨trivial, trivial⟩⟩
  exact hread.runStep (by simp) (by simp)

variable {φ : FsOp → Prop}

/-- Reading a file. -/
lemma readFile_only {n : DataFile} (h : φ (.read n)) : (Fs.readFile n).Only φ := by
  refine .bind (.read h) fun r => ?_
  cases r with
  | none => exact .lift
  | some bs => exact .pure

/-- Removing a file. -/
lemma removeIfExists_only {n : DataFile} (h : φ (.remove n)) : (Fs.removeIfExists n).Only φ := by
  refine .bind .inspect fun b => ?_
  cases b with
  | false => exact .pure
  | true => exact .perform h

/-- The marker is all that the check of the dataset writes. -/
lemma ensureIronwoodDataset_only {json : Json DatasetMarker} :
    (ensureIronwoodDataset json net).Only (Aside [.datasetMarker, .datasetMarkerTmp]) := by
  refine .bind .inspect fun b => ?_
  cases b with
  | true =>
    exact .bind (readFile_only (by simp [Aside, Op.Inside, Op.Avoids])) fun _ =>
      .bind .lift fun _ => .bind .lift fun _ => .lift
  | false =>
    refine .bind .inspect fun r => ?_
    cases r with
    | some n => exact .lift
    | none =>
      exact .bind (.perform (by simp [Aside, Op.Inside, Op.Avoids])) fun _ =>
        .perform (by simp [Aside, Op.Inside, Op.Avoids])

/-- After new blocks the trees and tiers are removed. -/
lemma invalidate_only {blocksSynced : Nat} : (invalidate args blocksSynced).Only
    (Aside [.nullifiersTree, .nullifiersTreeTmp, .tier0, .tier1, .pirRoot]) := by
  rw [invalidate]
  split
  · refine .bind (.forEach fun n hn => removeIfExists_only ?_) fun _ =>
      .forEach fun n hn => removeIfExists_only ?_
    · revert n
      simp [INVALIDATE_AFTER_BLOCKS_TREE_FILES, Aside, Op.Inside]
    · revert n
      simp [INVALIDATE_AFTER_BLOCKS_TIER_FILES, Aside, Op.Inside]
  · exact .pure

/-- A reset only removes. -/
lemma deleteSyncArtifacts_only : deleteSyncArtifacts.Only fun o => ∃ n, o = .remove n :=
  .bind (.forEach fun n _ => removeIfExists_only ⟨n, rfl⟩) fun _ =>
    .forEach fun n _ => removeIfExists_only ⟨n, rfl⟩

/-- The header of a tree is only read. -/
lemma readTreeCheckpointHeader_only : readTreeCheckpointHeader.Only (Op.Inside []) := by
  refine .bind .inspect fun b => ?_
  cases b with
  | false => exact .pure
  | true => exact .bind (readFile_only trivial) fun _ => .lift

/-- So is a tree that is loaded. -/
lemma loadTreeCheckpoint_only {bincode : Bincode} {height : Nat} :
    (loadTreeCheckpoint bincode height).Only (Op.Inside []) := by
  refine .bind .inspect fun b => ?_
  cases b with
  | false => exact .pure
  | true => exact .bind (readFile_only trivial) fun _ => .lift

/-- So are the tiers that are checked. -/
lemma tiersCompleteForHeight_only {json : Json PirMetadata} {network : ZcashNetwork} {height : Nat} :
    (tiersCompleteForHeight json network height).Only (Op.Inside []) := by
  refine .bind .inspect fun b => ?_
  cases b with
  | false => exact .pure
  | true =>
    refine .bind (readFile_only trivial) fun text => .bind .lift fun _ => ?_
    split
    · exact .pure
    · split
      · exact .pure
      · refine .bind .inspect fun sizes => ?_
        split
        · split
          · exact .pure
          · exact .bind (readFile_only trivial) fun _ => .pure
        · exact .pure

/-- So is the index. -/
lemma offsetForHeight_only {height : Nat} : (offsetForHeight height).Only (Op.Inside []) := by
  refine .bind .inspect fun b => ?_
  cases b with
  | false => exact .pure
  | true => exact .bind (readFile_only trivial) fun _ => .bind .lift fun _ => .pure

/-- So are the nullifiers below an offset. -/
lemma loadNullifiersUpTo_only {off : Nat} : (loadNullifiersUpTo off).Only (Op.Inside []) := by
  refine .bind .inspect fun b => ?_
  cases b with
  | false => exact .pure
  | true => exact .bind .lift fun _ => .bind (readFile_only trivial) fun _ => .lift

/-- So are all nullifiers. -/
lemma loadAllNullifiers_only : loadAllNullifiers.Only (Op.Inside []) := by
  refine .bind .inspect fun b => ?_
  cases b with
  | false => exact .pure
  | true => exact .bind (readFile_only trivial) fun _ => .bind .lift fun _ => .lift

/-- So are the nullifiers of an export. -/
lemma exportNullifiers_only {ch height : Nat} :
    (exportNullifiers ch height).Only (Op.Inside []) := by
  rw [exportNullifiers]
  split
  · refine .bind offsetForHeight_only fun r => ?_
    cases r with
    | none => exact .lift
    | some e => exact .bind (.attempt loadNullifiersUpTo_only) fun _ => .lift
  · exact loadAllNullifiers_only

end Footprints

section Steps

variable {net : ZcashNetwork} {codecs : Codecs} {c : Chain net} {args : Args} {s : Dir} {o : FsOp}

/-- A sync writes neither tree nor tiers. -/
lemma SyncStep.avoids {json : Json DatasetMarker} (step : SyncStep json c s o) :
    o.Avoids .nullifiersTree ∧ o.Avoids .pirRoot := by
  rcases step with op | ⟨i, start, stop, rfl⟩
  · cases op with
    | read _ => exact ⟨trivial, trivial⟩
    | markerTmp _ _ => simp [Op.Avoids]
    | marker _ _ _ => simp [Op.Avoids]
    | truncate _ _ _ _ _ => simp [Op.Avoids]
    | clear _ _ => simp [Op.Avoids]
    | append _ _ _ => simp [Op.Avoids]
    | checkpointTmp _ _ _ _ _ => simp [Op.Avoids]
    | checkpoint _ _ _ _ _ => simp [Op.Avoids]
    | index _ _ => simp [Op.Avoids]
  · exact ⟨trivial, trivial⟩

/-- The steps of a sync are steps of the command. -/
lemma SyncStep.runStep (step : SyncStep codecs.marker c s o) : RunStep codecs c args s o := by
  refine ⟨step.keeps_sound, keeps_labelled_of_avoids (SyncStep.avoids step).1 (SyncStep.avoids step).2, ?_⟩
  rintro nfs height rfl
  rcases step with op | ⟨_, _, _, heq⟩
  · cases op
  · cases heq

variable {height : Nat} {tree : PirTree}

/-- The temp file holds a tree under its label. -/
lemma rename_runStep {payload : Bytes} (of : TreeOf codecs c height tree)
    (ok : encodeTree codecs.bincode tree = .ok payload)
    (htmp : s .nullifiersTreeTmp = some (encodeHeader height ++ payload)) :
    RunStep codecs c args s (.rename .nullifiersTreeTmp .nullifiersTree) := by
  refine ⟨keeps_sound_of_avoids (by simp [Op.Avoids]) (by simp [Op.Avoids]), ?_,
    fun _ _ h => by cases h⟩
  intro h
  refine ⟨⟨?_, ?_⟩, ?_⟩
  · intro data hdata
    rw [apply_rename htmp, if_neg (by simp), if_pos rfl] at hdata
    cases hdata
    exact ⟨height, tree, payload, of, ok, rfl⟩
  · intro text htext
    rw [apply_rename htmp, if_neg (by simp), if_neg (by simp)] at htext
    exact h.metadata text htext
  · intro _ ht
    cases ht

/-- The metadata of an export. -/
lemma metadata_runStep {tier0Bytes rows rowBytes : Nat} (of : TreeOf codecs c height tree) :
    RunStep codecs c args s (.create .pirRoot (codecs.metadata.encode
      (exportMetadata tree net (some height) COMPILED_PIR_LAYOUT tier0Bytes rows rowBytes))) := by
  refine ⟨keeps_sound_of_avoids (by simp [Op.Avoids]) (by simp [Op.Avoids]), ?_,
    fun _ _ h => by cases h⟩
  intro h
  refine ⟨⟨?_, ?_⟩, ?_⟩
  · intro data hdata
    rw [apply_create, if_neg (by simp)] at hdata
    exact h.tree data hdata
  · intro text htext
    rw [apply_create, if_pos rfl] at htext
    cases htext
    exact ⟨height, tree, tier0Bytes, rows, rowBytes, of, List.prefix_rfl⟩
  · intro s' ht
    cases ht with
    | create hp =>
      refine ⟨?_, ?_⟩
      · intro data hdata
        rw [Function.update_of_ne (by simp)] at hdata
        exact h.tree data hdata
      · intro text htext
        rw [Function.update_self] at htext
        cases htext
        exact ⟨height, tree, tier0Bytes, rows, rowBytes, of, hp⟩

/-- A save writes the temp file, and then moves the whole tree under its label. -/
lemma saveTreeCheckpoint_rule {bincode : Bincode} {J : Dir → FsOp → Prop} {I : Dir → Prop}
    (aside : ∀ s o, Aside [.nullifiersTreeTmp] o → I s → J s o ∧ I (o.apply s))
    (commit : ∀ s payload, encodeTree bincode tree = .ok payload →
      s .nullifiersTreeTmp = some (encodeHeader height ++ payload) → I s →
      J s (.rename .nullifiersTreeTmp .nullifiersTree) ∧
        I ((Op.rename .nullifiersTreeTmp .nullifiersTree : FsOp).apply s)) :
    Triple J I (saveTreeCheckpoint bincode tree height) fun _ => I := by
  refine Triple.seq (fun _ => I) ((removeIfExists_only (by simp [Aside, Op.Inside])).triple aside)
    fun _ => ?_
  refine Triple.bind Triple.lift_ok fun payload => Triple.assume (fun _ hs => hs.2) fun ok => ?_
  refine Triple.seq (fun _ s => I s ∧ s .nullifiersTreeTmp = some []) (Triple.perform fun s hs => ?_)
    fun _ => Triple.seq (fun _ s => I s ∧ s .nullifiersTreeTmp = some (encodeHeader height))
      (Triple.perform fun s hs => ?_) fun _ =>
        Triple.seq (fun _ s => I s ∧ s .nullifiersTreeTmp = some (encodeHeader height ++ payload))
          (Triple.perform fun s hs => ?_) fun _ =>
            Triple.perform fun s hs => commit s payload ok hs.2 hs.1
  · obtain ⟨step, next⟩ := aside s (.create .nullifiersTreeTmp [])
      (by simp [Aside, Op.Inside, Op.Avoids]) hs.1
    exact ⟨step, next, by simp⟩
  · obtain ⟨step, next⟩ := aside s (.append .nullifiersTreeTmp (encodeHeader height))
      (by simp [Aside, Op.Inside, Op.Avoids]) hs.1
    exact ⟨step, next, by simp [hs.2]⟩
  · obtain ⟨step, next⟩ := aside s (.append .nullifiersTreeTmp payload)
      (by simp [Aside, Op.Inside, Op.Avoids]) hs.1
    exact ⟨step, next, by simp [hs.2]⟩

/-- A saved tree is that of its label. -/
lemma saveTreeCheckpoint_triple (of : TreeOf codecs c height tree) :
    Triple (RunStep codecs c args) (fun _ => True) (saveTreeCheckpoint codecs.bincode tree height)
      fun _ _ => True :=
  saveTreeCheckpoint_rule (fun _ _ h _ => ⟨h.runStep (by simp) (by simp), trivial⟩)
    fun _ _ ok htmp _ => ⟨rename_runStep of ok htmp, trivial⟩

/-- A list that is that of its label is handed to the builder, and its tree is saved under the label. -/
lemma materialize_triple {nfs : List Fp} (htip : height ≤ c.tip)
    (htarget : ∃ snapshot, exportTarget args = .ok (snapshot, height)) (hnfs : nfs = c.upTo height) :
    Triple (RunStep codecs c args) (fun _ => True) (materializeTreeCheckpoint codecs nfs height)
      fun tree _ => TreeOf codecs c height tree := by
  refine Triple.seq (fun _ _ => True) (Triple.perform fun s _ => ⟨⟨?_, ?_, ?_⟩, trivial⟩) fun _ => ?_
  · exact keeps_sound_of_avoids trivial trivial
  · exact keeps_labelled_of_avoids trivial trivial
  · intro _ _ heq
    cases heq
    exact ⟨htarget, hnfs⟩
  refine Triple.bind Triple.lift_ok fun tree => Triple.assume (fun _ hs => hs.2) fun ok => ?_
  have of : TreeOf codecs c height tree := ⟨htip, hnfs ▸ ok⟩
  exact Triple.bind ((saveTreeCheckpoint_triple of).conseq (fun _ _ => trivial) fun _ _ hs => hs) fun _ =>
    Triple.pure fun _ _ => of

/-- Files that an export writes in front of the metadata. -/
def TIER_FILES : List DataFile :=
  [.tier0, .tier1, .tier2, .tier0Precompute, .tier0PrecomputeTmp, .tier1Precompute, .tier1PrecomputeTmp,
    .tier2Precompute, .tier2PrecomputeTmp]

/-- An export writes tiers, and last the metadata of its tree. -/
lemma exportAll_only {json : Json PirMetadata} {network : ZcashNetwork} {height : Option Nat} :
    (exportAll json tree network height).Only fun o => Aside TIER_FILES o ∨
      ∃ tier0Bytes rows rowBytes, o = .create .pirRoot (json.encode
        (exportMetadata tree network height COMPILED_PIR_LAYOUT tier0Bytes rows rowBytes)) := by
  have hwrite : ∀ o : FsOp, o.Inside TIER_FILES → Aside TIER_FILES o := fun o h =>
    ⟨h, .inl ⟨h.avoids (by decide), h.avoids (by decide)⟩⟩
  refine .bind .lift fun _ => .bind (.forEach fun n hn => removeIfExists_only (.inl (hwrite _ ?_))) fun _ =>
    .bind .lift fun tier0 => .bind (.perform (.inl (hwrite _ ?_))) fun _ =>
    .bind (.bind (removeIfExists_only (.inl (hwrite _ ?_))) fun _ =>
      removeIfExists_only (.inl (hwrite _ ?_))) fun _ =>
    .bind (.perform (.inl (hwrite _ ?_))) fun _ => .bind .lift fun tier1 =>
    .bind (.perform (.inl (hwrite _ ?_))) fun _ =>
    .bind (.bind (removeIfExists_only (.inl (hwrite _ ?_))) fun _ =>
      removeIfExists_only (.inl (hwrite _ ?_))) fun _ =>
    .bind .lift fun rows => .bind .lift fun rowBytes => .perform (.inr ⟨_, _, _, rfl⟩)
  · revert n
    simp [LEGACY_ARTIFACTS, TIER_FILES, Op.Inside]
  all_goals simp [TIER_FILES, Op.Inside]

/-- An export labels its tree. -/
lemma exportAll_triple (of : TreeOf codecs c height tree) :
    Triple (RunStep codecs c args) (fun _ => True)
      (exportAll codecs.metadata tree net (some height)) fun _ _ => True := by
  refine exportAll_only.triple fun s o ho _ => ⟨?_, trivial⟩
  rcases ho with ho | ⟨_, _, _, rfl⟩
  · exact ho.runStep (by decide) (by decide)
  · exact metadata_runStep of

end Steps

end NullifierPir.NfServer.CmdSync
