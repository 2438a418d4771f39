import NullifierPir.Ingest.HeightIndex
import NullifierPir.Ingest.Received
import NullifierPir.NfServer.Labels

/-!
# The blocks of an exported height

A sync command labels the nullifiers it hands to the tree builder with the export height. Which of them
it reads is decided elsewhere: below the checkpoint height by the record of the index at or below it, at
the checkpoint height by the length of `nullifiers.bin`, which a crash may leave past the checkpoint.
`EndsAt` says of a directory that what is read ends where the labelled block does
(`exportNullifiers_eq_upTo_iff`). A run also labels rightly when it need not read, because the tree or
the tiers of that height are in place, or when it resets first (`Guarded`).

`SyncRuns` are the directories that such runs leave, each of them finished or cut anywhere, and resets
that finish. Their data is sound and their labels are right, and so are those that a further such run
writes (`run_hands_over_blocks`). A run that is not `Guarded` labels the nullifiers of a later block
with an earlier height (`run_hands_over_past_checkpoint`).
-/

namespace NullifierPir.NfServer.CmdSync
open Rust ByteString Crash Hex Imt NullifierPir.Types NullifierPir.Ingest NullifierPir.Export

section Words

variable {net : ZcashNetwork} {c : Chain net}

/-- Encoded words are read back. -/
lemma parse_encodeWords {ws fields : List Fp}
    (ok : parseNullifierBytes (encodeWords ws) = .ok fields) : fields = ws := by
  have hbytes : encodeWords ws =
      (ws.map fun w => (⟨w.toRepr, Fp.length_toRepr⟩ : Bytes32)).flatMap fun nf => nf.val := by
    rw [encodeWords, List.flatMap_map]
  rw [hbytes] at ok
  have hrepr := parseNullifierBytes_ok ok
  rw [List.map_map] at hrepr
  exact List.map_injective_iff.mpr Fp.toRepr_injective hrepr

/-- Whole words at the front of encoded words are the first words. -/
lemma parse_isPrefix {data : Bytes} {ws fields : List Fp} (hpre : data <+: encodeWords ws)
    (ok : parseNullifierBytes data = .ok fields) :
    fields <+: ws ∧ fields.length * 32 = data.length := by
  obtain ⟨_, hlen, _⟩ := bind_eq_ok.mp ok
  have hmod : data.length % 32 = 0 := beq_iff_eq.mp (ensure_eq_ok.mp hlen)
  have hle := hpre.length_le
  rw [length_encodeWords] at hle
  have hwords : data = encodeWords (ws.take (data.length / 32)) := by
    have hsplit := @encodeWords_append (ws.take (data.length / 32)) (ws.drop (data.length / 32))
    rw [List.take_append_drop] at hsplit
    refine List.IsPrefix.eq_of_length (List.prefix_of_prefix_length_le hpre ?_ ?_) ?_
    · rw [hsplit]
      exact List.prefix_append _ _
    · rw [length_encodeWords, List.length_take]
      omega
    · rw [length_encodeWords, List.length_take]
      omega
  rw [hwords] at ok
  obtain rfl := parse_encodeWords ok
  refine ⟨List.take_prefix _ _, ?_⟩
  rw [List.length_take]
  omega

/-- The nullifiers up to a height start those up to the tip. -/
lemma upTo_isPrefix {h : Nat} (htip : h ≤ c.tip) : c.upTo h <+: c.upTo c.tip := by
  by_cases hact : nu63ActivationHeight net ≤ h + 1
  · obtain ⟨n, hn⟩ := Nat.exists_eq_add_of_le htip
    rw [hn, Chain.upTo_append hact]
    exact List.prefix_append _ _
  · rw [Chain.upTo, Nat.sub_eq_zero_of_le (by omega)]
    exact List.nil_prefix

/-- Parsed from the front of the stream, the words of a height are told by how many there are. -/
lemma parsed_eq_upTo_iff {data : Bytes} {nfs : List Fp} {h : Nat} (hpre : data <+: c.stream)
    (ok : parseNullifierBytes data = .ok nfs) (htip : h ≤ c.tip) :
    nfs = c.upTo h ↔ data.length = (c.bytesUpTo h).length := by
  obtain ⟨hnfs, hlen⟩ := parse_isPrefix hpre ok
  rw [← hlen, Chain.length_bytesUpTo]
  constructor
  · intro heq
    rw [heq]
  · intro heq
    exact List.IsPrefix.eq_of_length
      (List.prefix_of_prefix_length_le hnfs (upTo_isPrefix htip) (by omega)) (by omega)

end Words

section Reading

variable {net : ZcashNetwork}

/-- Length of `nullifiers.bin`. -/
def binLength (s : Dir) : Nat := ((s .nullifiersBin).getD []).length

/-- Height and offset of the checkpoint. -/
def committed (s : Dir) : Option (Nat × Nat) :=
  (s .nullifiersCheckpoint).map fun cp => decodeEntry cp 0

/-- The index consists of the records of these heights, in ascending order. -/
structure Recorded (c : Chain net) (index : Bytes) (heights : List Nat) : Prop where
  records : index = encodeIndex (heights.map fun h => (h, (c.bytesUpTo h).length))
  sorted : heights.Pairwise (· < ·)
  bounds : ∀ h ∈ heights, nu63ActivationHeight net ≤ h ∧ h ≤ c.tip

/-- What an export of `height` reads ends where block `height` does. At the checkpoint height nothing
whole is stored past the checkpoint; below it, whole records of the index are those of committed
heights, and a recorded height has no nullifiers between it and `height`. Files that are no multiple
of their unit are refused by the export. -/
structure EndsAt (c : Chain net) (s : Dir) (height : Nat) : Prop where
  atCheckpoint : ∀ off, committed s = some (height, off) → binLength s % NULLIFIER_SIZE = 0 →
    binLength s = off
  below : ∀ ch off index, committed s = some (ch, off) → height < ch →
    s .nullifiersIndex = some index → index.length % INDEX_ENTRY_SIZE = 0 →
    ∃ heights, Recorded c index heights ∧ ((∃ h ∈ heights, h ≤ height) →
      ∃ h ∈ heights, h ≤ height ∧ c.between (h + 1) (height - h) = [])

variable {c : Chain net} {s s' : Dir} {height : Nat}

/-- What the reading ends at depends on three files. -/
lemma EndsAt.congr (h : EndsAt c s height) (hbin : s' .nullifiersBin = s .nullifiersBin)
    (hcp : s' .nullifiersCheckpoint = s .nullifiersCheckpoint)
    (hindex : s' .nullifiersIndex = s .nullifiersIndex) : EndsAt c s' height := by
  have hlen : binLength s' = binLength s := by rw [binLength, binLength, hbin]
  have hcommitted : committed s' = committed s := by rw [committed, committed, hcp]
  refine ⟨?_, ?_⟩
  · rw [hlen, hcommitted]
    exact h.atCheckpoint
  · rw [hcommitted, hindex]
    exact h.below

/-- Sound data is committed at a height of the chain. -/
lemma Sound.committed {ch off : Nat} (sound : Sound c s) (hcommitted : committed s = some (ch, off)) :
    nu63ActivationHeight net ≤ ch ∧ ch ≤ c.tip ∧ off = (c.bytesUpTo ch).length ∧
      ∃ data, s .nullifiersBin = some data ∧ data <+: c.stream ∧ off ≤ data.length := by
  obtain ⟨cp, hcp, hdec⟩ := Option.map_eq_some_iff.mp hcommitted
  obtain ⟨h, hact, htip, rfl, data, hbin, hlen⟩ := sound.checkpoint cp hcp
  rw [decodeEntry_checkpoint hact htip] at hdec
  cases hdec
  exact ⟨hact, htip, rfl, data, hbin, sound.bin data hbin, hlen⟩

/-- Without a checkpoint an export reads what the sync before it stores. -/
lemma endsAt_of_none (hcp : s .nullifiersCheckpoint = none) : EndsAt c s height := by
  have hnone : committed s = none := by rw [committed, hcp]; rfl
  refine ⟨?_, ?_⟩
  · intro _ hsome
    rw [hnone] at hsome
    cases hsome
  · intro _ _ _ hsome
    rw [hnone] at hsome
    cases hsome

/-- A directory exactly at a height up to the exported one. -/
lemma AtHeight.endsAt {h : Nat} (at_ : AtHeight c h s) (hle : h ≤ height) : EndsAt c s height := by
  rcases at_ with ⟨_, hcp, _⟩ | ⟨hact, htip, hcp, hbin⟩
  · exact endsAt_of_none hcp
  · have hsome : committed s = some (h, (c.bytesUpTo h).length) := by
      rw [committed, hcp, Option.map_some, decodeEntry_checkpoint hact htip]
    refine ⟨?_, ?_⟩
    · intro _ heq _
      rw [hsome] at heq
      cases heq
      rw [binLength, hbin, Option.getD_some]
    · intro _ _ _ heq hlt
      rw [hsome] at heq
      cases heq
      omega

/-- The lookup finds the greatest recorded height. -/
lemma Recorded.floor {index : Bytes} {heights : List Nat} {e : Nat × Nat}
    (rec : Recorded c index heights) (hindex : s .nullifiersIndex = some index)
    (ok : (offsetForHeight height s).2 = .ok (some e)) :
    ∃ h ∈ heights, h ≤ height ∧ e.2 = (c.bytesUpTo h).length ∧ ∀ h' ∈ heights, h' ≤ height → h' ≤ h := by
  have hsorted : (heights.map fun h => (h, (c.bytesUpTo h).length)).Pairwise fun e e' => e.1 < e'.1 :=
    List.pairwise_map.mpr rec.sorted
  have hfits : ∀ e ∈ heights.map fun h => (h, (c.bytesUpTo h).length), e.1 < U64 ∧ e.2 < U64 := by
    intro e he
    obtain ⟨h, hh, rfl⟩ := List.mem_map.mp he
    obtain ⟨hact, htip⟩ := rec.bounds h hh
    refine ⟨?_, Chain.length_bytesUpTo_lt (Nat.le_succ_of_le hact) htip⟩
    have := c.tip_lt
    simp only [U64]
    omega
  obtain ⟨r, hr, isFloor⟩ := offsetForHeight_floor hsorted hfits (rec.records ▸ hindex) height
  rw [ok] at hr
  cases hr
  obtain ⟨hmem, hle, hmax⟩ := isFloor.found e rfl
  obtain ⟨h, hh, rfl⟩ := List.mem_map.mp hmem
  exact ⟨h, hh, hle, rfl, fun h' hh' => hmax _ (List.mem_map_of_mem hh')⟩

/-- Loading up to an offset parses the bytes in front of it. -/
lemma loadNullifiersUpTo_ok {off : Nat} {data : Bytes} {nfs : List Fp}
    (hbin : s .nullifiersBin = some data) (ok : (loadNullifiersUpTo off s).2 = .ok nfs) :
    parseNullifierBytes (data.take off) = .ok nfs := by
  rw [loadNullifiersUpTo, exists_bind (show _ = true by rw [hbin]; rfl), if_neg (by simp)] at ok
  obtain ⟨_, _, ok, _⟩ := Prog.bind_ok ok
  rw [Prog.Only.after_self .lift, readFile_bind hbin] at ok
  dsimp only [Prog.lift] at ok
  split at ok
  · exact ok
  · rename_i hge
    rwa [List.take_of_length_le (Nat.not_lt.mp hge)]

/-- Loading everything parses the whole file. -/
lemma loadAllNullifiers_ok {data : Bytes} {nfs : List Fp} (hbin : s .nullifiersBin = some data)
    (ok : (loadAllNullifiers s).2 = .ok nfs) : parseNullifierBytes data = .ok nfs := by
  rw [loadAllNullifiers, exists_bind (show _ = true by rw [hbin]; rfl), if_neg (by simp),
    readFile_bind hbin] at ok
  obtain ⟨_, _, ok, _⟩ := Prog.bind_ok ok
  exact ok

/-- Below the checkpoint height, nullifiers are read up to the offset of the index record. -/
lemma exportNullifiers_below {ch : Nat} {data : Bytes} {nfs : List Fp} (hlt : height < ch)
    (hbin : s .nullifiersBin = some data) (ok : (exportNullifiers ch height s).2 = .ok nfs) :
    ∃ e, (offsetForHeight height s).2 = .ok (some e) ∧
      parseNullifierBytes (data.take e.2) = .ok nfs := by
  rw [exportNullifiers, if_pos hlt] at ok
  obtain ⟨r, hr, ok, _⟩ := Prog.bind_ok ok
  rw [offsetForHeight_only.after_self] at ok
  cases r with
  | none => cases ok
  | some e =>
    obtain ⟨_, hread, ok, _⟩ := Prog.bind_ok ok
    cases hread
    exact ⟨e, hr, loadNullifiersUpTo_ok hbin (context_eq_ok.mp ok)⟩

/-- Two heights have the same length when the blocks in between hold no nullifier. -/
lemma length_upTo_eq_iff {h : Nat} (hact : nu63ActivationHeight net ≤ h) (hle : h ≤ height) :
    (c.bytesUpTo h).length = (c.bytesUpTo height).length ↔ c.between (h + 1) (height - h) = [] := by
  obtain ⟨n, rfl⟩ := Nat.exists_eq_add_of_le hle
  rw [Chain.bytesUpTo_append (Nat.le_succ_of_le hact), List.length_append, length_encodeWords,
    Nat.add_sub_cancel_left, ← List.length_eq_zero_iff]
  omega

/-- Whole records are searched. -/
lemma offsetForHeight_found {e : Nat × Nat} (ok : (offsetForHeight height s).2 = .ok (some e)) :
    ∃ index, s .nullifiersIndex = some index ∧ index.length % INDEX_ENTRY_SIZE = 0 := by
  cases hindex : s .nullifiersIndex with
  | none =>
    rw [offsetForHeight_none hindex] at ok
    cases ok
  | some index =>
    refine ⟨index, rfl, ?_⟩
    rw [offsetForHeight_some hindex] at ok
    cases hwhole : index.length % INDEX_ENTRY_SIZE == 0 with
    | true => exact beq_iff_eq.mp hwhole
    | false =>
      rw [hwhole] at ok
      cases ok

variable {ch off : Nat} {nfs : List Fp}

/-- Below the checkpoint height an export reads the blocks up to the greatest recorded height. -/
lemma exportNullifiers_recorded {index : Bytes} {heights : List Nat} (sound : Sound c s)
    (hcommitted : committed s = some (ch, off)) (hlt : height < ch)
    (hindex : s .nullifiersIndex = some index) (rec : Recorded c index heights)
    (ok : (exportNullifiers ch height s).2 = .ok nfs) :
    ∃ h ∈ heights, h ≤ height ∧ (∀ h' ∈ heights, h' ≤ height → h' ≤ h) ∧
      (nfs = c.upTo height ↔ c.between (h + 1) (height - h) = []) := by
  obtain ⟨hact, htip, rfl, data, hbin, hpre, hlen⟩ := Sound.committed sound hcommitted
  obtain ⟨e, hfound, hparse⟩ := exportNullifiers_below hlt hbin ok
  obtain ⟨h, hh, hhle, hoff, hmax⟩ := rec.floor hindex hfound
  have hmono : (c.bytesUpTo h).length ≤ (c.bytesUpTo ch).length :=
    (Chain.bytesUpTo_mono (Nat.le_succ_of_le (rec.bounds h hh).1) (by omega)).length_le
  refine ⟨h, hh, hhle, hmax, ?_⟩
  rw [parsed_eq_upTo_iff ((List.take_prefix _ _).trans hpre) hparse (hlt.le.trans htip),
    List.length_take, hoff, Nat.min_eq_left (hmono.trans hlen),
    length_upTo_eq_iff (rec.bounds h hh).1 hhle]

/-- At the checkpoint height it reads all that is stored. -/
lemma exportNullifiers_all (sound : Sound c s) (hcommitted : committed s = some (ch, off))
    (ok : (exportNullifiers ch ch s).2 = .ok nfs) :
    (nfs = c.upTo ch ↔ binLength s = off) ∧ binLength s % NULLIFIER_SIZE = 0 := by
  obtain ⟨hact, htip, rfl, data, hbin, hpre, hlen⟩ := Sound.committed sound hcommitted
  have hdata : binLength s = data.length := by rw [binLength, hbin, Option.getD_some]
  rw [exportNullifiers, if_neg (Nat.lt_irrefl ch)] at ok
  have hparse := loadAllNullifiers_ok hbin ok
  obtain ⟨_, hmod, _⟩ := bind_eq_ok.mp hparse
  rw [parsed_eq_upTo_iff hpre hparse htip, hdata]
  exact ⟨Iff.rfl, beq_iff_eq.mp (ensure_eq_ok.mp hmod)⟩

/-- Where what is read ends at its height, the nullifiers of an export are those of its height. -/
lemma exportNullifiers_eq_upTo (sound : Sound c s) (hcommitted : committed s = some (ch, off))
    (hle : height ≤ ch) (ends : EndsAt c s height)
    (ok : (exportNullifiers ch height s).2 = .ok nfs) : nfs = c.upTo height := by
  rcases Nat.lt_or_eq_of_le hle with hlt | rfl
  · obtain ⟨_, _, _, data, hbin, _⟩ := Sound.committed sound hcommitted
    obtain ⟨e, hfound, _⟩ := exportNullifiers_below hlt hbin ok
    obtain ⟨index, hindex, hwhole⟩ := offsetForHeight_found hfound
    obtain ⟨heights, rec, hends⟩ := ends.below ch off index hcommitted hlt hindex hwhole
    obtain ⟨h, hh, hhle, hmax, hiff⟩ := exportNullifiers_recorded sound hcommitted hlt hindex rec ok
    obtain ⟨h', hh', hle', hnone⟩ := hends ⟨h, hh, hhle⟩
    -- the blocks above the record that is found are among those above `h'`
    have hact := Nat.le_succ_of_le (rec.bounds h hh).1
    have hact' := Nat.le_succ_of_le (rec.bounds h' hh').1
    have hfrom := (length_upTo_eq_iff (rec.bounds h' hh').1 hle').mpr hnone
    have hlow := (Chain.bytesUpTo_mono (c := c) hact' (hmax h' hh' hle')).length_le
    have hhigh := (Chain.bytesUpTo_mono (c := c) hact hhle).length_le
    exact hiff.mpr ((length_upTo_eq_iff (rec.bounds h hh).1 hhle).mp (by omega))
  · obtain ⟨hiff, hmod⟩ := exportNullifiers_all sound hcommitted ok
    exact hiff.mpr (ends.atCheckpoint off hcommitted hmod)

/-- Over an index of records, nowhere else. -/
lemma exportNullifiers_eq_upTo_iff (sound : Sound c s) (hcommitted : committed s = some (ch, off))
    (hle : height ≤ ch)
    (intact : ∀ index, s .nullifiersIndex = some index → ∃ heights, Recorded c index heights)
    (ok : (exportNullifiers ch height s).2 = .ok nfs) : nfs = c.upTo height ↔ EndsAt c s height := by
  refine ⟨fun hnfs => ⟨?_, ?_⟩, fun ends => exportNullifiers_eq_upTo sound hcommitted hle ends ok⟩
  · intro off' heq _
    rw [hcommitted] at heq
    cases heq
    exact (exportNullifiers_all sound hcommitted ok).1.mp hnfs
  · intro ch' off' index heq hlt hindex _
    rw [hcommitted] at heq
    cases heq
    obtain ⟨heights, rec⟩ := intact index hindex
    obtain ⟨h, hh, hhle, _, hiff⟩ := exportNullifiers_recorded sound hcommitted hlt hindex rec ok
    exact ⟨heights, rec, fun _ => ⟨h, hh, hhle, hiff.mp hnfs⟩⟩

end Reading

section Runs

variable {net : ZcashNetwork}

/-- `nullifiers.tree` is labelled with a height. -/
def TreeAt (s : Dir) (height : Nat) : Prop :=
  ∃ data schema, s .nullifiersTree = some data ∧ parseTreeHeader data = .ok (schema, height)

/-- An export of the height need not read, or what it reads ends where the block does. -/
def Ready (codecs : Codecs) (c : Chain net) (s : Dir) (height : Nat) : Prop :=
  (∃ root, Accepted codecs.metadata net height s root) ∨ TreeAt s height ∨ EndsAt c s height

/-- What a run does with a directory at its export height: it resets, or asks to, or it is ready. -/
def Fit (codecs : Codecs) (c : Chain net) (snapshotHeight : Option Nat) (height : Nat) (s : Dir) : Prop :=
  aheadOfVoting snapshotHeight ((committed s).map Prod.fst) = true ∨ Ready codecs c s height

/-- The condition on a run, for the directory it starts in: it resets, or the checkpoint is above the
voting snapshot, or it is ready for its export height. -/
def Guarded (codecs : Codecs) (c : Chain net) (args : Args) (s : Dir) : Prop :=
  ∀ snapshotHeight height, exportTarget args = .ok (snapshotHeight, height) →
    args.syncReset = true ∨ Fit codecs c snapshotHeight height s

/-- A run for the network of `c`, against its servers. -/
structure Served (c : Chain net) (args : Args) : Prop where
  network : args.zcashNetwork = net
  serves : ∀ l ∈ args.lwds, l.Serves c

/-- Such a run that resets nothing. -/
structure Plain (c : Chain net) (args : Args) : Prop extends Served c args where
  reset : args.syncReset = false
  prompt : promptResyncAheadOfVoting args.console args.nonInteractive ≠ .ok ()

/-- Directories that guarded runs of the command leave, finished or cut by a crash. A run that resets is
a reset, which has to finish, and then the run without it. -/
inductive SyncRuns (codecs : Codecs) (c : Chain net) : Dir → Prop
  | fresh : SyncRuns codecs c fun _ => none
  | run {s args} : SyncRuns codecs c s → Plain c args → Guarded codecs c args s →
      SyncRuns codecs c ((run codecs args).after s)
  | crash {s s' s'' args} : SyncRuns codecs c s → Plain c args → Guarded codecs c args s →
      Interrupted s (CmdSync.run codecs args s).1 s' → LoseTail Unsynced s' s'' →
      SyncRuns codecs c s''
  | reset {s} : SyncRuns codecs c (deleteSyncArtifacts.after s)

/-- The data is sound and the labels are right. -/
structure Held (codecs : Codecs) (c : Chain net) (s : Dir) : Prop where
  sound : Sound c s
  labelled : Labelled codecs c s

variable {codecs : Codecs} {c : Chain net} {args : Args} {s s' : Dir} {snapshotHeight : Option Nat}
  {height : Nat}

/-- Every operation of a run keeps what is held. -/
lemma RunStep.held {o : FsOp} (step : RunStep codecs c args s o) : Keeps (Held codecs c) s o :=
  fun held => ⟨⟨(step.sound held.sound).1, (step.labelled held.labelled).1⟩,
    fun _ ht => ⟨(step.sound held.sound).2 _ ht, (step.labelled held.labelled).2 _ ht⟩⟩

/-- What steps of the command keep may be added to both assertions. -/
lemma Triple.held {α : Type} {pre : Dir → Prop} {x : Fs α} {post : α → Dir → Prop}
    (h : Triple (RunStep codecs c args) pre x post) :
    Triple (RunStep codecs c args) (fun s => Held codecs c s ∧ pre s) x
      fun a s => Held codecs c s ∧ post a s :=
  h.keeping fun _ _ step => step.held

/-- A stored tree is in one file. -/
lemma TreeAt.congr (h : TreeAt s height) (same : s' .nullifiersTree = s .nullifiersTree) :
    TreeAt s' height := by
  obtain ⟨data, schema, htree, hparse⟩ := h
  exact ⟨data, schema, same.trans htree, hparse⟩

/-- Acceptance reads the three snapshot files. -/
lemma exists_accepted_congr {json : Json PirMetadata} (h : ∃ root, Accepted json net height s root)
    (same : ∀ n ∈ [DataFile.tier0, .tier1, .pirRoot], s' n = s n) :
    ∃ root, Accepted json net height s' root := by
  obtain ⟨root, metadata, names, tier0, tier1⟩ := h
  refine ⟨root, ?_, names, ?_, ?_⟩
  · rwa [same .pirRoot (by simp)]
  · rwa [same .tier0 (by simp)]
  · rwa [same .tier1 (by simp)]

/-- Files that decide whether an export is ready. -/
def READY_FILES : List DataFile :=
  [.nullifiersBin, .nullifiersCheckpoint, .nullifiersIndex, .nullifiersTree, .tier0, .tier1, .pirRoot]

/-- Fitness reads the files of a ready directory. -/
lemma Fit.congr (h : Fit codecs c snapshotHeight height s) (same : ∀ n ∈ READY_FILES, s' n = s n) :
    Fit codecs c snapshotHeight height s' := by
  have hcommitted : committed s' = committed s := by
    rw [committed, committed, same .nullifiersCheckpoint (by simp [READY_FILES])]
  refine h.imp (fun ahead => by rwa [hcommitted]) (Or.imp ?_ (Or.imp ?_ ?_))
  · exact fun complete => exists_accepted_congr complete fun n hn => same n (by revert n; decide)
  · exact fun stored => stored.congr (same _ (by simp [READY_FILES]))
  · exact fun ends => ends.congr (same _ (by simp [READY_FILES])) (same _ (by simp [READY_FILES]))
      (same _ (by simp [READY_FILES]))

/-- A rebuilt index has one record, and that is above every height below the checkpoint. -/
lemma rebuildIndex_triple :
    Triple (RunStep codecs c args) (fun s => Sound c s ∧ Fit codecs c snapshotHeight height s) rebuildIndex
      fun _ s => Sound c s ∧ Fit codecs c snapshotHeight height s := by
  refine Triple.bind exists_triple ?_
  intro b
  cases b with
  | true => exact Triple.pure fun _ hs => hs.1
  | false =>
    refine Triple.bind (loadCheckpoint_triple fun s _ => read_runStep) ?_
    intro r
    cases r with
    | none => exact Triple.pure fun _ hs => hs.1.1
    | some e =>
      obtain ⟨ch, off⟩ := e
      refine Triple.perform fun s hs => ?_
      obtain ⟨⟨⟨sound, fit⟩, hindex⟩, hcommitted⟩ := hs
      have hstep : Aside [.nullifiersIndex] (.append .nullifiersIndex (encodeEntry ch off) : FsOp) := by
        simp [Aside, Op.Inside, Op.Avoids]
      have hsame : ∀ n ≠ DataFile.nullifiersIndex,
          (Op.append .nullifiersIndex (encodeEntry ch off) : FsOp).apply s n = s n := fun n hn => by
        rw [apply_append, if_neg hn]
      have hcommitted' : committed ((Op.append .nullifiersIndex (encodeEntry ch off) : FsOp).apply s) =
          some (ch, off) := by
        rw [committed, hsame _ (by simp)]
        exact hcommitted.symm
      obtain ⟨hact, htip, rfl, _⟩ := Sound.committed sound (hcommitted.symm : committed s = _)
      refine ⟨hstep.runStep (by simp) (by simp), sound.congr (hsame _ (by simp)) (hsame _ (by simp)), ?_⟩
      refine fit.imp (fun ahead => ?_) (Or.imp (fun complete => ?_) (Or.imp (fun stored => ?_) fun ends =>
        ⟨?_, ?_⟩))
      · rw [hcommitted']
        rwa [show committed s = _ from hcommitted.symm] at ahead
      · exact exists_accepted_congr complete fun n hn => hsame n (by rintro rfl; simp at hn)
      · exact stored.congr (hsame _ (by simp))
      · intro off' heq hmod
        rw [binLength, hsame _ (by simp)] at hmod ⊢
        rw [hcommitted'] at heq
        exact ends.atCheckpoint off' (hcommitted.symm.trans heq) hmod
      · intro ch' off' index heq hlt hidx _
        rw [hcommitted'] at heq
        cases heq
        rw [apply_append, if_pos rfl, eq_none_of_isSome hindex, Option.getD_none, List.nil_append] at hidx
        cases hidx
        refine ⟨[ch], ⟨?_, List.pairwise_singleton _ _, ?_⟩, ?_⟩
        · rw [encodeIndex, List.map_singleton, List.flatMap_singleton]
        · intro h hh
          obtain rfl := List.mem_singleton.mp hh
          exact ⟨hact, htip⟩
        · rintro ⟨h, hh, hle⟩
          obtain rfl := List.mem_singleton.mp hh
          omega

/-- An export height is not below activation. -/
lemma exportTarget_low (served : Served c args)
    (ok : exportTarget args = .ok (snapshotHeight, height)) : nu63ActivationHeight net ≤ height := by
  rw [exportTarget] at ok
  obtain ⟨_, _, ok⟩ := bind_eq_ok.mp ok
  obtain ⟨_, _, ok⟩ := bind_eq_ok.mp ok
  obtain ⟨_, _, ok⟩ := bind_eq_ok.mp ok
  obtain ⟨_, _, ok⟩ := bind_eq_ok.mp ok
  obtain ⟨_, hvalid, ok⟩ := bind_eq_ok.mp ok
  cases ok
  obtain ⟨_, hlow, _⟩ := bind_eq_ok.mp (context_eq_ok.mp hvalid)
  exact served.network ▸ of_decide_eq_true (ensure_eq_ok.mp hlow)

/-- A sync up to the export height ends at or below it. -/
lemma syncStage_triple {localCp : Option Nat} (served : Served c args)
    (hact : nu63ActivationHeight net ≤ height) :
    Triple (RunStep codecs c args)
      (fun s => Sound c s ∧ Ready codecs c s height ∧ localCp = (committed s).map Prod.fst)
      (syncStage codecs args height localCp) fun _ s => Ready codecs c s height := by
  obtain ⟨rfl, serves⟩ := served
  rw [syncStage]
  split
  · rename_i hlow
    refine Triple.fix fun s₀ hs₀ => ?_
    obtain ⟨sound, _, hcp⟩ := hs₀
    have hlt : committedHeight args.zcashNetwork s₀ < height := by
      have := @nu63ActivationHeight_pos args.zcashNetwork
      rw [hcp, committed] at hlow
      rw [committedHeight]
      cases hfile : s₀ .nullifiersCheckpoint with
      | none =>
        dsimp only
        omega
      | some cp =>
        rw [hfile] at hlow
        exact of_decide_eq_true hlow
    refine Triple.seq (fun _ s => EndsAt c s height) ?_ fun r => ?_
    · rintro s rfl
      obtain ⟨hsteps, hpost⟩ :=
        @sync_triple codecs.marker _ c args.lwds (some height) _ serves s ⟨fun _ => sound, rfl⟩
      refine ⟨hsteps.mono fun _ _ h => SyncStep.runStep h, fun r hr =>
        AtHeight.endsAt (hpost r hr).2 ?_⟩
      rw [resolveTarget, if_neg (by omega)]
      exact max_le hlt.le (Nat.min_le_left _ _)
    · refine (invalidate_only.triple fun s o ho ends => ⟨ho.runStep (by simp) (by simp), ?_⟩).conseq
        (fun _ hs => hs) fun _ _ ends => .inr (.inr ends)
      exact ends.congr (ho.1.avoids (by simp)).apply (ho.1.avoids (by simp)).apply
        (ho.1.avoids (by simp)).apply
  · exact Triple.pure fun _ hs => hs.2.1

/-- Dropping a stale tree keeps what does not need a tree of another height. -/
lemma removeStaleTree_triple {P : Dir → Prop}
    (keeps : ∀ s, P s → ¬ TreeAt s height → P ((Op.remove .nullifiersTree : FsOp).apply s)) :
    Triple (RunStep codecs c args) P (removeStaleTree height) fun _ => P := by
  refine Triple.bind (readTreeCheckpointHeader_only.attempt.reads fun _ _ _ => read_runStep) ?_
  intro r
  split
  · rename_i schema label
    split
    · rename_i hne
      have hremove : Aside [.nullifiersTree] (.remove .nullifiersTree : FsOp) := by
        simp [Aside, Op.Inside]
      refine Triple.perform fun s hs => ⟨hremove.runStep (by simp) (by simp), keeps s hs.1 ?_⟩
      rintro ⟨data, schema', htree, hparse⟩
      have hread : (readTreeCheckpointHeader s).2 = .ok (some (schema, label)) := Except.ok.inj hs.2
      rw [readTreeCheckpointHeader_eq htree, hparse] at hread
      cases hread
      exact hne rfl
    · exact Triple.pure fun _ hs => hs.1
  · exact Triple.pure fun _ hs => hs.1

/-- The tree of an export is that of its height. -/
lemma loadOrBuildTree_triple {nfs : List Fp} (htip : height ≤ c.tip)
    (htarget : ∃ snapshotHeight, exportTarget args = .ok (snapshotHeight, height)) :
    Triple (RunStep codecs c args)
      (fun s => Held codecs c s ∧ (TreeAt s height ∨ nfs = c.upTo height))
      (loadOrBuildTree codecs nfs height) fun tree _ => TreeOf codecs c height tree := by
  refine Triple.bind (loadTreeCheckpoint_only.reads fun _ _ _ => read_runStep) ?_
  intro r
  cases r with
  | some tree => exact Triple.pure fun _ hs => hs.1.1.labelled.load hs.2
  | none =>
    refine Triple.assume (φ := nfs = c.upTo height) (fun s hs => ?_) fun hnfs =>
      (materialize_triple htip htarget hnfs).conseq (fun _ _ => trivial) fun _ _ hs => hs
    refine hs.1.2.resolve_left ?_
    rintro ⟨data, _, htree, _⟩
    have hload := hs.2
    rw [loadTreeCheckpoint_eq htree] at hload
    obtain ⟨_, _, hload⟩ := bind_eq_ok.mp hload
    cases hload

/-- The export of a directory that is ready. -/
lemma exportStage_triple {ch off : Nat} (hle : height ≤ ch)
    (htarget : ∃ snapshotHeight, exportTarget args = .ok (snapshotHeight, height)) :
    Triple (RunStep codecs c args)
      (fun s => Held codecs c s ∧ committed s = some (ch, off) ∧ Ready codecs c s height)
      (exportStage codecs net ch height) fun _ _ => True := by
  refine Triple.bind (tiersCompleteForHeight_only.reads fun _ _ _ => read_runStep) ?_
  intro b
  cases b with
  | true => exact Triple.pure fun _ _ => trivial
  | false =>
    refine Triple.bind (exportNullifiers_only.reads fun _ _ _ => read_runStep) ?_
    intro nfs
    refine Triple.assume (φ := height ≤ c.tip)
      (fun s hs => hle.trans (Sound.committed hs.1.1.1.sound hs.1.1.2.1).2.1) fun htip => ?_
    refine Triple.seq (fun _ s => Held codecs c s ∧ (TreeAt s height ∨ nfs = c.upTo height)) ?_ fun _ => ?_
    · refine (Triple.held (removeStaleTree_triple fun s hs hnot => .inr (hs.resolve_left hnot))).conseq
        (fun s hs => ?_) fun _ _ hs => hs
      obtain ⟨⟨⟨held, hcommitted, ready⟩, hfalse⟩, hread⟩ := hs
      refine ⟨held, ?_⟩
      rcases ready with complete | stored | ends
      · rw [tiersCompleteForHeight_true.mpr complete] at hfalse
        cases hfalse
      · exact .inl stored
      · exact .inr (exportNullifiers_eq_upTo held.sound hcommitted hle ends hread)
    · refine Triple.bind (loadOrBuildTree_triple htip htarget) fun tree => ?_
      exact Triple.assume (fun _ hs => hs) fun of =>
        (exportAll_triple of).conseq (fun _ _ => trivial) fun _ _ hs => hs

/-- Stages 2 and 3 of a directory that is ready. -/
lemma buildStage_triple (hnet : args.zcashNetwork = net)
    (htarget : ∃ snapshotHeight, exportTarget args = .ok (snapshotHeight, height)) :
    Triple (RunStep codecs c args) (fun s => Held codecs c s ∧ Ready codecs c s height)
      (buildStage codecs args height) fun _ _ => True := by
  subst hnet
  refine Triple.bind (loadCheckpoint_triple fun s _ => read_runStep) ?_
  intro r
  cases r with
  | none => exact Triple.lift fun _ _ h => by cases h
  | some e =>
    obtain ⟨ch, off⟩ := e
    refine Triple.bind Triple.lift_ok ?_
    intro _
    refine Triple.assume (fun s hs => of_decide_eq_true (ensure_eq_ok.mp hs.2)) fun hle => ?_
    refine Triple.seq
      (fun _ s => Held codecs c s ∧ committed s = some (ch, off) ∧ Ready codecs c s height) ?_ fun _ => ?_
    · refine (Triple.held (removeStaleTree_triple fun s hs hnot => ⟨?_, ?_⟩)).conseq
        (fun s hs => ⟨hs.1.1.1, hs.1.2.symm, hs.1.1.2⟩) fun _ _ hs => hs
      · rw [committed, apply_remove, if_neg (by simp)]
        exact hs.1
      · refine hs.2.imp (fun complete => ?_) fun h => .inr ?_
        · refine exists_accepted_congr complete fun n hn => ?_
          rw [apply_remove, if_neg (by rintro rfl; simp at hn)]
        · refine (h.resolve_left hnot).congr ?_ ?_ ?_
          all_goals rw [apply_remove, if_neg (by simp)]
    · refine Triple.bind (Triple.attempt (exportStage_triple hle htarget)) fun r => ?_
      exact Triple.lift fun _ _ _ _ => trivial

section Reset

/-- The files of a reset are gone. -/
def Cleared (s : Dir) : Prop := ∀ n ∈ ROOT_ARTIFACTS ++ TIER_ARTIFACTS, s n = none

/-- A removed file is gone. -/
lemma removeIfExists_after {n : DataFile} :
    (Fs.removeIfExists n).after s = Function.update s n none := by
  rw [Prog.after, removeIfExists_run]
  cases hfile : s n with
  | none => exact (Function.update_eq_self_iff.mpr hfile.symm).symm
  | some bs => rfl

/-- Removing files returns. -/
lemma removeAll_returns {ns : List DataFile} :
    (Prog.forEach ns Fs.removeIfExists : Fs Unit).Returns := by
  induction ns with
  | nil => exact .pure
  | cons n ns ih => exact .bind removeIfExists_returns fun _ => ih

/-- The listed files are gone, the others stay. -/
lemma removeAll_after {ns : List DataFile} {n : DataFile} :
    (Prog.forEach ns Fs.removeIfExists : Fs Unit).after s n = if n ∈ ns then none else s n := by
  induction ns generalizing s with
  | nil => rfl
  | cons m ns ih =>
    obtain ⟨_, ok⟩ := @removeIfExists_returns m s
    rw [Prog.forEach, Prog.after_bind ok, ih, removeIfExists_after, Function.update_apply]
    by_cases hn : n = m
    · simp [hn]
    · simp [hn]

/-- A reset leaves a cleared directory. -/
lemma deleteSyncArtifacts_after : Cleared (deleteSyncArtifacts.after s) := by
  intro n hn
  obtain ⟨_, ok⟩ := @removeAll_returns ROOT_ARTIFACTS s
  rw [deleteSyncArtifacts, Prog.after_bind ok, removeAll_after, removeAll_after]
  split
  · rfl
  · rename_i hnot
    rw [if_pos ((List.mem_append.mp hn).resolve_right hnot)]

/-- After a reset there is nothing to label and nothing to read. -/
lemma Cleared.held (h : Cleared s) : Held codecs c s := by
  have hcp := h .nullifiersCheckpoint (by decide)
  have hbin := h .nullifiersBin (by decide)
  refine ⟨⟨fun b hb => ?_, fun cp hfile => ?_⟩, labelled_of_none (h _ (by decide)) (h _ (by decide))⟩
  · rw [hbin] at hb
    cases hb
  · rw [hcp] at hfile
    cases hfile

/-- A cleared directory is ready for every height. -/
lemma Cleared.ready (h : Cleared s) : Ready codecs c s height :=
  .inr (.inr (endsAt_of_none (h _ (by decide))))

end Reset

section Program

variable {J : Dir → FsOp → Prop}

/-- A reset that finishes has removed its files. -/
lemma deleteSyncArtifacts_triple {pre : Dir → Prop}
    (removes : ∀ s n, J s (.remove n)) :
    Triple J pre deleteSyncArtifacts fun _ => Cleared := by
  have hremoves : Triple J (fun _ => True) deleteSyncArtifacts fun _ _ => True := by
    refine deleteSyncArtifacts_only.triple ?_
    rintro s _ ⟨n, rfl⟩ _
    exact ⟨removes s n, trivial⟩
  intro s _
  obtain ⟨hsteps, _⟩ := hremoves s trivial
  exact ⟨hsteps, fun _ _ => deleteSyncArtifacts_after⟩

variable (steps : ∀ s o, RunStep codecs c args s o → J s o)

include steps

/-- The retry loop, if its resets are allowed. -/
lemma runLoop_triple {fuel : Nat} (served : Served c args) (hact : nu63ActivationHeight net ≤ height)
    (htarget : ∃ snapshotHeight, exportTarget args = .ok (snapshotHeight, height))
    (removes : promptResyncAheadOfVoting args.console args.nonInteractive = .ok () →
      ∀ s n, J s (.remove n)) :
    Triple J (fun s => Held codecs c s ∧ Fit codecs c snapshotHeight height s)
      (runLoop codecs args snapshotHeight height fuel) fun _ _ => True := by
  induction fuel with
  | zero => exact Triple.lift fun _ _ h => by cases h
  | succ fuel ih =>
    refine Triple.seq (fun _ s => Held codecs c s ∧ Fit codecs c snapshotHeight height s)
      (((Triple.held rebuildIndex_triple).conseq (fun s hs => ⟨hs.1, hs.1.sound, hs.2⟩)
        fun _ s hs => ⟨hs.1, hs.2.2⟩).mono steps) fun _ => ?_
    refine Triple.bind ((loadCheckpoint_triple fun s _ => read_runStep).mono steps) ?_
    intro r
    dsimp only
    split
    · refine Triple.bind Triple.lift_ok fun _ => Triple.assume (fun _ hs => hs.2) fun confirmed => ?_
      refine Triple.bind (deleteSyncArtifacts_triple (removes confirmed)) fun _ => ?_
      exact ih.conseq (fun _ cleared => ⟨cleared.held, .inr cleared.ready⟩) fun _ _ hs => hs
    · rename_i hahead
      refine Triple.bind (((Triple.held (syncStage_triple served hact)).conseq (fun s hs => ?_)
        fun _ _ hs => hs).mono steps) fun _ => (buildStage_triple served.network htarget).mono steps
      obtain ⟨⟨held, fit⟩, hcp⟩ := hs
      have hlocal : r.map Prod.fst = (committed s).map Prod.fst := congrArg _ hcp
      exact ⟨held, held.sound, fit.resolve_left (hlocal ▸ hahead), hlocal⟩

/-- A guarded run. -/
lemma run_triple (served : Served c args)
    (removes : args.syncReset = true ∨
      promptResyncAheadOfVoting args.console args.nonInteractive = .ok () →
        ∀ s n, J s (.remove n)) :
    Triple J (fun s => Held codecs c s ∧ Guarded codecs c args s) (run codecs args) fun _ _ => True := by
  let Fits : Dir → Prop := fun s => ∀ snapshotHeight height,
    exportTarget args = .ok (snapshotHeight, height) → Fit codecs c snapshotHeight height s
  refine Triple.seq (fun _ s => Held codecs c s ∧ Fits s) ?_ fun _ => ?_
  · rw [resetFirst]
    split
    · rename_i hflag
      exact (deleteSyncArtifacts_triple (removes (.inl hflag))).conseq (fun _ hs => hs)
        fun _ _ cleared => ⟨cleared.held, fun _ _ _ => .inr cleared.ready⟩
    · rename_i hflag
      exact Triple.pure fun _ hs =>
        ⟨hs.1, fun snapshotHeight height ok => (hs.2 snapshotHeight height ok).resolve_left hflag⟩
  · have hdataset : Triple (RunStep codecs c args) Fits
        (ensureIronwoodDataset codecs.marker args.zcashNetwork) fun _ => Fits := by
      refine ensureIronwoodDataset_only.triple fun s o ho fits =>
        ⟨ho.runStep (by simp) (by simp), fun snapshotHeight height ok =>
          (fits snapshotHeight height ok).congr fun n hn => (ho.1.avoids ?_).apply⟩
      revert n
      decide
    refine Triple.bind ((Triple.held hdataset).mono steps) fun _ => Triple.bind Triple.lift_ok ?_
    rintro ⟨snapshotHeight, height⟩
    refine Triple.assume (fun _ hs => hs.2) fun htarget => ?_
    refine (runLoop_triple steps served (exportTarget_low served htarget) ⟨_, htarget⟩
      fun confirmed => removes (.inr confirmed)).conseq (fun s hs => ⟨hs.1.1, hs.1.2 _ _ htarget⟩)
      fun _ _ hs => hs

end Program

/-- Every step of a guarded run without a reset is a step of the command. -/
lemma Plain.triple (plain : Plain c args) :
    Triple (RunStep codecs c args) (fun s => Held codecs c s ∧ Guarded codecs c args s)
      (run codecs args) fun _ _ => True := by
  refine run_triple (fun _ _ h => h) plain.toServed ?_
  rintro (hflag | hprompt)
  · rw [plain.reset] at hflag
    cases hflag
  · exact absurd hprompt plain.prompt

/-- What is held is held in every reachable directory. -/
lemma SyncRuns.held (runs : SyncRuns codecs c s) : Held codecs c s := by
  induction runs with
  | fresh => exact ⟨sound_of_noArtifacts fun _ _ => rfl, labelled_of_none rfl rfl⟩
  | run _ plain guarded ih =>
    obtain ⟨hsteps, _⟩ := plain.triple _ ⟨ih, guarded⟩
    exact (hsteps.mono fun _ _ step => step.held).exec ih
  | crash _ plain guarded cut lost ih =>
    obtain ⟨hsteps, _⟩ := plain.triple _ ⟨ih, guarded⟩
    have held := (hsteps.mono fun _ _ step => step.held).interrupted ih cut
    exact ⟨held.sound.congr (LoseTail.eq lost (by decide)) (LoseTail.eq lost (by decide)),
      held.labelled.congr (LoseTail.eq lost (by decide)) (LoseTail.eq lost (by decide))⟩
  | reset => exact deleteSyncArtifacts_after.held

/-- What guarded runs label. From every directory that such runs and resets leave, whatever cut them, a
guarded run hands to the tree builder the nullifiers of the blocks up to the height it labels them with,
which is its export height. In every state it is cut in, a tree that loads for a height is the tree of
these blocks, and so is the tree whose roots are in `pir_root.json` beside a height. -/
theorem run_hands_over_blocks (runs : SyncRuns codecs c s) (served : Served c args)
    (guarded : Guarded codecs c args s) :
    (∀ nfs height, .call (.buildTree nfs height) ∈ (run codecs args s).1 →
      (∃ snapshotHeight, exportTarget args = .ok (snapshotHeight, height)) ∧ nfs = c.upTo height) ∧
    ∀ s', Interrupted s (run codecs args s).1 s' →
      (∀ height tree, (loadTreeCheckpoint codecs.bincode height s').2 = .ok (some tree) →
        buildPirTreeFromNullifiers codecs.hasher (c.upTo height) = .ok tree) ∧
      ∀ text root, s' .pirRoot = some text → codecs.metadata.decode text = .ok root →
        ∃ height tree, root.zcashNetwork = net ∧ root.height = some height ∧
          buildPirTreeFromNullifiers codecs.hasher (c.upTo height) = .ok tree ∧
          root.pirRoot = hexEncode tree.pirRoot.toRepr ∧
          root.circuitRoot = hexEncode tree.circuitRoot.toRepr ∧
          root.numRanges = tree.ranges.length := by
  have held := runs.held
  have hrun : Triple (fun s o => Keeps (Labelled codecs c) s o ∧ HandsOver c args o)
      (fun s => Held codecs c s ∧ Guarded codecs c args s) (run codecs args) fun _ _ => True :=
    run_triple (fun _ _ step => ⟨step.labelled, step.handsOver⟩) served
      fun _ _ _ => ⟨keeps_labelled_remove, fun _ _ h => by cases h⟩
  obtain ⟨hsteps, _⟩ := hrun s ⟨held, guarded⟩
  refine ⟨fun nfs height hmem => hsteps.mem (fun _ _ h => h.2) _ hmem nfs height rfl, fun s' cut => ?_⟩
  have labelled := (hsteps.mono fun _ _ h => h.1).interrupted held.labelled cut
  refine ⟨fun height tree ok => (labelled.load ok).2, fun text root hroot ok => ?_⟩
  obtain ⟨height, tree, tier0Bytes, rows, rowBytes, of, rfl⟩ := labelled.parse hroot ok
  exact ⟨height, tree, rfl, rfl, of.2, rfl, rfl, rfl⟩

end Runs

section Sample

variable {α β : Type} {x : Fs α} {f : α → Fs β} {s s' : Dir} {a : α}

/-- Two testnet blocks with one nullifier each. -/
def twoBlocks : Chain .test where
  txs := fun h => if h = 4134000 then [[5]] else if h = 4134010 then [[7]] else []
  tip := 4134010
  tip_lt := by decide
  fits := by decide

/-- A run that is capped at a height. -/
def syncTo (height : Nat) : Args where
  zcashNetwork := .test
  maxHeight := some height
  nonInteractive := true
  invalidateAfterBlocks := false
  syncReset := false
  console := ⟨"", false, ""⟩
  snapshotHeight := .ok none
  chainTip := .ok 4134010
  lwds := [twoBlocks.server]

/-- Runs that sync to a height by the chain's own server are plain. -/
lemma syncTo_plain {height : Nat} : Plain twoBlocks (syncTo height) where
  network := rfl
  serves := Chain.servers_serve
  reset := rfl
  prompt := by
    intro h
    have hack : ensure (eqIgnoreAsciiCase "" "RESYNC") _ = .ok () := h
    exact absurd (ensure_eq_ok.mp hack) (by decide)

/-- The directory of a testnet dataset at the checkpoint of block 4134000, with given nullifiers. -/
def storedDir (nfs : List Fp) : Dir
  | .datasetMarker => some (markerText .test ++ [10])
  | .nullifiersBin => some (encodeWords nfs)
  | .nullifiersCheckpoint => some (encodeEntry 4134000 32)
  | .nullifiersIndex => some (encodeEntry 4134000 32)
  | _ => none

/-- Only the marker is there. -/
def markedDir : Dir
  | .datasetMarker => some (markerText .test ++ [10])
  | _ => none

variable {codecs : Codecs} {height : Nat}

/-- A crash during the sync of a run that has passed its checks. -/
lemma run_interrupted_sync {args : Args} {localCp : Option (Nat × Nat)}
    (hreset : resetFirst args s = ([], .ok ()))
    (hens : ensureIronwoodDataset codecs.marker args.zcashNetwork s = ([.read .datasetMarker], .ok ()))
    (htarget : exportTarget args = .ok (none, height))
    (hindex : rebuildIndex s = ([], .ok ()))
    (hload : (loadCheckpoint s).2 = .ok localCp) (hlow : ∀ e, localCp = some e → e.1 < height)
    (hafter : loadCheckpoint.after s = s)
    (cut : Interrupted s (sync codecs.marker args.lwds args.zcashNetwork (some height) s).1 s') :
    Interrupted s (run codecs args s).1 s' := by
  refine interrupted_bind_ok (a := ()) (by rw [hreset]) ?_
  rw [Prog.after, hreset]
  refine interrupted_bind_ok (a := ()) (by rw [exec_nil, hens]) ?_
  rw [Prog.after, exec_nil, hens]
  change Interrupted s _ s'
  rw [Prog.lift_bind htarget]
  refine interrupted_bind_ok (a := ()) (by rw [hindex]) ?_
  rw [Prog.after, hindex]
  refine interrupted_bind_ok hload ?_
  change Interrupted (loadCheckpoint.after s) ((syncStage codecs args height
    (localCp.map Prod.fst) >>= fun _ => buildStage codecs args height) (loadCheckpoint.after s)).1 s'
  rw [hafter]
  refine interrupted_bind ?_
  rw [syncStage, if_pos]
  · exact interrupted_bind cut
  · cases localCp with
    | none => rfl
    | some e => exact decide_eq_true (hlow e rfl)

/-- Nothing needs to be lost. -/
lemma loseTail_refl : LoseTail Unsynced s s := fun _ => .inl rfl

/-- The target of the first run. -/
lemma syncTo_target : exportTarget (syncTo 4134000) = .ok (none, 4134000) := by rfl

/-- The target of the second run. -/
lemma syncTo_target_next : exportTarget (syncTo 4134010) = .ok (none, 4134010) := by rfl

/-- Without a checkpoint a run is guarded. -/
lemma guarded_of_none (hcp : s .nullifiersCheckpoint = none) :
    Guarded codecs twoBlocks (syncTo height) s :=
  fun _ _ _ => .inr (.inr (.inr (.inr (endsAt_of_none hcp))))

/-- A first run that is cut behind its marker leaves the marked directory. -/
lemma run_interrupted_marked (hmarker : codecs.marker = markerJson) :
    Interrupted (fun _ => none) (run codecs (syncTo 4134000) fun _ => none).1 markedDir := by
  refine interrupted_bind_ok (a := ()) rfl (interrupted_bind ?_)
  rw [hmarker]
  have hdir : markedDir = (ensureIronwoodDataset markerJson .test).after fun _ => none := by
    funext n
    cases n <;> rfl
  rw [hdir]
  exact .exec

/-- The marked directory is reached. -/
lemma syncRuns_marked (hmarker : codecs.marker = markerJson) : SyncRuns codecs twoBlocks markedDir :=
  .crash .fresh (@syncTo_plain 4134000) (guarded_of_none rfl) (run_interrupted_marked hmarker)
    loseTail_refl

/-- A crash in the first cycle of a sync that has planned its loop. -/
lemma sync_interrupted {json : Json DatasetMarker} {lwds cs : List Lightwalletd} {net : ZcashNetwork}
    {tip start target : Nat} {ops : List FsOp}
    (hopen : openSync json lwds net (some height) s = (ops, .ok ⟨cs, tip, start, target⟩))
    (hlt : start < target) (hwrap : start + 1 < U64)
    (cut : Interrupted (exec s ops) (syncCycle cs (start + 1) target (exec s ops)).1 s') :
    Interrupted s (sync json lwds net (some height) s).1 s' := by
  rw [sync_eq]
  refine interrupted_bind_ok (by rw [hopen]) ?_
  rw [Prog.after, hopen]
  have hfuel : U64 = (U64 - 1) + 1 := by decide
  rw [runSync, if_neg (Nat.not_le.mpr hlt)]
  refine interrupted_bind ?_
  rw [wrappingAdd_eq hwrap, hfuel, syncLoop, if_neg (Nat.not_lt.mpr hlt)]
  exact interrupted_bind cut

/-- A first sync that is cut behind its cycle leaves one nullifier. -/
lemma sync_interrupted_first :
    Interrupted markedDir (sync markerJson [twoBlocks.server] .test (some 4134000) markedDir).1
      (storedDir [5]) := by
  have hopen : openSync markerJson [twoBlocks.server] .test (some 4134000) markedDir =
      ([.read .datasetMarker, .read .datasetMarker],
        .ok ⟨[twoBlocks.server], 4134010, 4133999, 4134000⟩) := rfl
  refine sync_interrupted hopen (by decide) (by decide) ?_
  have hdir : storedDir [5] = exec markedDir
      (syncCycle [twoBlocks.server] 4134000 4134000 markedDir).1 := by
    funext n
    cases n <;> rfl
  rw [hdir]
  exact .exec

/-- The next sync is cut between its append and its checkpoint. -/
lemma sync_interrupted_next :
    Interrupted (storedDir [5])
      (sync markerJson [twoBlocks.server] .test (some 4134010) (storedDir [5])).1
      (storedDir [5, 7]) := by
  have hopen : openSync markerJson [twoBlocks.server] .test (some 4134010) (storedDir [5]) =
      ([.read .datasetMarker, .read .datasetMarker, .read .nullifiersCheckpoint,
          .setLen .nullifiersBin 32],
        .ok ⟨[twoBlocks.server], 4134010, 4134000, 4134010⟩) := rfl
  refine sync_interrupted hopen (by decide) (by decide) ?_
  refine interrupted_bind_ok (a := ()) rfl ?_
  have hdir : storedDir [5, 7] =
      (Op.append .nullifiersBin (encodeWords [7]) : FsOp).apply (storedDir [5]) := by
    funext n
    cases n <;> rfl
  have hresized : exec (storedDir [5]) [.read .datasetMarker, .read .datasetMarker,
      .read .nullifiersCheckpoint, (.setLen .nullifiersBin 32 : FsOp)] = storedDir [5] := by
    funext n
    cases n <;> rfl
  rw [hresized, hdir]
  change Interrupted (storedDir [5]) (awaitBatches [twoBlocks.server] [(4134001, 4134010)]
    (storedDir [5])).1 _
  exact .step .stop

/-- The checkpoint is read there. -/
lemma loadCheckpoint_stored {nfs : List Fp} :
    loadCheckpoint (storedDir nfs) = ([.read .nullifiersCheckpoint], .ok (some (4134000, 32))) := rfl

/-- And the marker check passes. -/
lemma ensureIronwoodDataset_stored {nfs : List Fp} :
    ensureIronwoodDataset markerJson .test (storedDir nfs) = ([.read .datasetMarker], .ok ()) := rfl

/-- And the committed height is 4134000. -/
lemma committed_stored {nfs : List Fp} : committed (storedDir nfs) = some (4134000, 32) := rfl

/-- A run on the marked directory that is cut behind its cycle stores block 4134000. -/
lemma run_interrupted_stored (hmarker : codecs.marker = markerJson) :
    Interrupted markedDir (run codecs (syncTo 4134000) markedDir).1 (storedDir [5]) :=
  run_interrupted_sync rfl (by rw [hmarker]; rfl) syncTo_target rfl
    (show (loadCheckpoint markedDir).2 = .ok none from rfl) (fun _ h => by cases h) rfl
    (by rw [hmarker]; exact sync_interrupted_first)

/-- The stored block is reached. -/
lemma syncRuns_stored (hmarker : codecs.marker = markerJson) :
    SyncRuns codecs twoBlocks (storedDir [5]) :=
  .crash (syncRuns_marked hmarker) syncTo_plain (guarded_of_none rfl) (run_interrupted_stored hmarker)
    loseTail_refl

/-- A run past the checkpoint is guarded: it syncs first. -/
lemma guarded_next {nfs : List Fp} :
    Guarded codecs twoBlocks (syncTo 4134010) (storedDir nfs) := by
  intro _ _ htarget
  cases syncTo_target_next.symm.trans htarget
  refine .inr (.inr (.inr (.inr ⟨?_, ?_⟩)))
  · intro off hcommitted
    cases committed_stored.symm.trans hcommitted
  · intro ch off _ hcommitted hlt
    cases committed_stored.symm.trans hcommitted
    exact absurd hlt (by decide)

/-- The second leaves the nullifier of block 4134010 behind the checkpoint. -/
lemma syncRuns_past (hmarker : codecs.marker = markerJson) :
    SyncRuns codecs twoBlocks (storedDir [5, 7]) :=
  .crash (syncRuns_stored hmarker) syncTo_plain guarded_next
    (run_interrupted_sync rfl (by rw [hmarker]; exact ensureIronwoodDataset_stored) syncTo_target_next
      rfl (by rw [loadCheckpoint_stored]) (fun _ h => by cases h; decide) rfl
      (by rw [hmarker]; exact sync_interrupted_next)) loseTail_refl

/-- A run to block 4134000 hands over all that is stored, and saves its tree. -/
lemma run_stored (hmarker : codecs.marker = markerJson) {nfs : List Fp}
    (hload : loadAllNullifiers (storedDir nfs) = ([.read .nullifiersBin], .ok nfs)) :
    ∃ rest, (run codecs (syncTo 4134000) (storedDir nfs)).1 =
      [.read .datasetMarker, .read .nullifiersCheckpoint, .read .nullifiersCheckpoint,
        .read .nullifiersBin] ++ ((materializeTreeCheckpoint codecs nfs 4134000 (storedDir nfs)).1 ++
          rest) := by
  have hens : ensureIronwoodDataset codecs.marker (syncTo 4134000).zcashNetwork (storedDir nfs) =
      ([.read .datasetMarker], .ok ()) := by
    rw [hmarker]
    exact ensureIronwoodDataset_stored
  have hindex : rebuildIndex (storedDir nfs) = ([], .ok ()) := rfl
  have hsync : syncStage codecs (syncTo 4134000) 4134000 (some 4134000) (storedDir nfs) =
      ([], .ok ()) := rfl
  have hstale : removeStaleTree 4134000 (storedDir nfs) = ([], .ok ()) := rfl
  have htiers : tiersCompleteForHeight codecs.metadata .test 4134000 (storedDir nfs) =
      ([], .ok false) := rfl
  have htree : loadTreeCheckpoint codecs.bincode 4134000 (storedDir nfs) = ([], .ok none) := rfl
  have hexport : ∃ rest, (exportStage codecs .test 4134000 4134000 (storedDir nfs)).1 =
      [.read .nullifiersBin] ++
        ((materializeTreeCheckpoint codecs nfs 4134000 (storedDir nfs)).1 ++ rest) := by
    rw [exportStage, bind_reads htiers rfl]
    change ∃ rest, [] ++ ((loadAllNullifiers >>= fun nfs =>
      exportTreeAndTiersFromNullifiers codecs nfs .test 4134000) (storedDir nfs)).1 = _
    rw [bind_reads hload rfl, exportTreeAndTiersFromNullifiers, bind_reads hstale rfl, loadOrBuildTree,
      Prog.bind_assoc, bind_reads htree rfl]
    obtain ⟨rest, hrest⟩ := bind_isPrefix (x := materializeTreeCheckpoint codecs nfs 4134000)
      (f := fun tree => exportAll codecs.metadata tree .test (some 4134000)) (s := storedDir nfs)
    refine ⟨rest, ?_⟩
    rw [hrest]
    rfl
  have hbuild : ∃ rest, (buildStage codecs (syncTo 4134000) 4134000 (storedDir nfs)).1 =
      [.read .nullifiersCheckpoint, .read .nullifiersBin] ++
        ((materializeTreeCheckpoint codecs nfs 4134000 (storedDir nfs)).1 ++ rest) := by
    obtain ⟨rest, hrest⟩ := hexport
    rw [buildStage, bind_reads loadCheckpoint_stored rfl]
    dsimp only
    rw [Prog.lift_bind (ensure_pos (decide_eq_true (le_refl 4134000))), bind_reads hstale rfl, joinExport]
    change ∃ rest', _ ++ ([] ++ ((exportStage codecs .test 4134000 4134000 (storedDir nfs)).1 ++ [])) = _
    rw [hrest, List.append_nil]
    exact ⟨rest, rfl⟩
  obtain ⟨rest, hrest⟩ := hbuild
  refine ⟨rest, ?_⟩
  rw [run, bind_reads (show resetFirst (syncTo 4134000) (storedDir nfs) = ([], .ok ()) from rfl) rfl,
    bind_reads hens rfl, Prog.lift_bind syncTo_target]
  dsimp only
  rw [runLoop, bind_reads hindex rfl, bind_reads loadCheckpoint_stored rfl]
  change _ ++ (_ ++ (_ ++ (_ ++ ((syncStage codecs (syncTo 4134000) 4134000 (some 4134000) >>= fun _ =>
    buildStage codecs (syncTo 4134000) 4134000) (storedDir nfs)).1))) = _
  rw [bind_reads hsync rfl, hrest]
  rfl

/-- Serializers of the sample runs, for one tree. -/
def sampleCodecs (tree : PirTree) : Codecs where
  hasher := Hasher.affine
  marker := markerJson
  metadata := .ofTexts [] (by decide)
  bincode := .single tree.toWire

/-- The list reaches the builder under the label, and the tree that is built of it loads for the label. -/
lemma run_stored_tree {nfs : List Fp} {tree : PirTree}
    (hload : loadAllNullifiers (storedDir nfs) = ([.read .nullifiersBin], .ok nfs))
    (hbuild : buildPirTreeFromNullifiers Hasher.affine nfs = .ok tree) :
    .call (.buildTree nfs 4134000) ∈ (run (sampleCodecs tree) (syncTo 4134000) (storedDir nfs)).1 ∧
      ∃ s', Interrupted (storedDir nfs) (run (sampleCodecs tree) (syncTo 4134000) (storedDir nfs)).1 s' ∧
        (loadTreeCheckpoint (sampleCodecs tree).bincode 4134000 s').2 = .ok (some tree) := by
  obtain ⟨rest, hops⟩ := @run_stored (sampleCodecs tree) rfl nfs hload
  have hencode := encodeTree_single tree
  have hsave := saveTreeCheckpoint_run (storedDir nfs) 4134000 hencode
  have hmaterialize : materializeTreeCheckpoint (sampleCodecs tree) nfs 4134000 (storedDir nfs) =
      (.call (.buildTree nfs 4134000) ::
        (saveTreeCheckpoint (.single tree.toWire) tree 4134000 (storedDir nfs)).1, .ok tree) := by
    rw [materializeTreeCheckpoint, Prog.perform_bind, apply_call, Prog.lift_bind (show
      buildPirTreeFromNullifiers (sampleCodecs tree).hasher nfs = _ from hbuild)]
    change (_ :: ((saveTreeCheckpoint (.single tree.toWire) tree 4134000 >>= fun _ => pure tree)
      (storedDir nfs)).1, ((saveTreeCheckpoint (.single tree.toWire) tree 4134000 >>= fun _ => pure tree)
        (storedDir nfs)).2) = _
    rw [Prog.bind_of_ok (congrArg Prod.snd hsave)]
    exact congrArg (fun ops => (_ :: ops, _)) (List.append_nil _)
  obtain ⟨ranges, _, hranges⟩ := bind_eq_ok.mp hbuild
  have hparse := parseTreeCheckpoint_written (h := 4134000) (by decide)
    (buildPirTree_ok hranges).levels_length hencode 4134000
  rw [if_pos rfl] at hparse
  have hafter := saveTreeCheckpoint_after (storedDir nfs) 4134000 hencode
  rw [hops, hmaterialize]
  refine ⟨by simp, _, interrupted_append.mpr (.inr (interrupted_append.mpr (.inl .exec))), ?_⟩
  change (loadTreeCheckpoint (.single tree.toWire) 4134000
    ((saveTreeCheckpoint (.single tree.toWire) tree 4134000).after (storedDir nfs))).2 = _
  rw [loadTreeCheckpoint_eq hafter, hparse]
  rfl

/-- The grouped lists of one nullifier and of two differ in length. -/
lemma sample_lengths_ne : (paddedNfs (twoBlocks.upTo 4134000)).length ≠ (paddedNfs [5, 7]).length := by
  have hfive : twoBlocks.upTo 4134000 = [5] := by decide
  have hone : (withSentinels [5]).length = 35 := by
    rw [length_withSentinels]
    decide +kernel
  have hpad : padInserted [5] = false := by
    rw [padInserted, hone]
    rfl
  have htwo := length_withSentinels_two
  rw [hfive, paddedNfs, paddedNfs, hpad, padInserted_two, if_neg (by simp), if_pos rfl,
    List.length_insertIdx_of_le_length (by omega), hone, htwo]
  decide

/-- The list of a clean directory is that of its label, and so is the tree. -/
theorem run_hands_over_blocks_stored :
    ∃ tree, .call (.buildTree [5] 4134000) ∈
        (run (sampleCodecs tree) (syncTo 4134000) (storedDir [5])).1 ∧
      ([5] : List Fp) = twoBlocks.upTo 4134000 ∧
      ∃ s', Interrupted (storedDir [5]) (run (sampleCodecs tree) (syncTo 4134000) (storedDir [5])).1 s' ∧
        (loadTreeCheckpoint (sampleCodecs tree).bincode 4134000 s').2 = .ok (some tree) ∧
        buildPirTreeFromNullifiers Hasher.affine (twoBlocks.upTo 4134000) = .ok tree := by
  obtain ⟨tree, hbuild⟩ := @exists_tree Hasher.affine [5] (.inr ⟨by decide, by decide⟩) (by decide)
  obtain ⟨hmem, s', cut, hload⟩ := run_stored_tree rfl hbuild
  have guarded : Guarded (sampleCodecs tree) twoBlocks (syncTo 4134000) (storedDir [5]) := by
    intro _ _ htarget
    cases syncTo_target.symm.trans htarget
    refine .inr (.inr (.inr (.inr ⟨?_, ?_⟩)))
    · intro off hcommitted _
      cases committed_stored.symm.trans hcommitted
      rfl
    · intro ch off _ hcommitted hlt
      cases committed_stored.symm.trans hcommitted
      exact absurd hlt (by decide)
  have hrun := run_hands_over_blocks (syncRuns_stored rfl) syncTo_plain.toServed guarded
  exact ⟨tree, hmem, (hrun.1 _ _ hmem).2, s', cut, hload, (hrun.2 s' cut).1 _ _ hload⟩

/-- After the cut run, a list with the nullifier of block 4134010 is labelled 4134000, and its tree. -/
theorem run_hands_over_past_checkpoint :
    ∃ tree, SyncRuns (sampleCodecs tree) twoBlocks (storedDir [5, 7]) ∧
      Plain twoBlocks (syncTo 4134000) ∧ committed (storedDir [5, 7]) = some (4134000, 32) ∧
      .call (.buildTree [5, 7] 4134000) ∈
        (run (sampleCodecs tree) (syncTo 4134000) (storedDir [5, 7])).1 ∧
      ([5, 7] : List Fp) ≠ twoBlocks.upTo 4134000 ∧
      ∃ s', Interrupted (storedDir [5, 7])
          (run (sampleCodecs tree) (syncTo 4134000) (storedDir [5, 7])).1 s' ∧
        (loadTreeCheckpoint (sampleCodecs tree).bincode 4134000 s').2 = .ok (some tree) ∧
        buildPirTreeFromNullifiers Hasher.affine (twoBlocks.upTo 4134000) ≠ .ok tree := by
  obtain ⟨tree, hbuild⟩ := @exists_tree Hasher.affine [5, 7] padFits_two (by decide)
  obtain ⟨hmem, s', cut, hload⟩ := run_stored_tree rfl hbuild
  refine ⟨tree, syncRuns_past rfl, syncTo_plain, committed_stored, hmem, by decide, s', cut, hload, ?_⟩
  intro hfive
  -- a tree keeps its ranges, and two nullifiers need one more of them
  obtain ⟨ranges, hprepare, hranges⟩ := bind_eq_ok.mp hbuild
  obtain ⟨ranges', hprepare', hranges'⟩ := bind_eq_ok.mp hfive
  have heq : ranges = ranges' :=
    (buildPirTree_ok hranges).ranges_eq.symm.trans (buildPirTree_ok hranges').ranges_eq
  subst heq
  obtain ⟨hlen, _⟩ := buildPuncturedRanges_ok (prepareNullifiers_eq.symm.trans hprepare)
  obtain ⟨hlen', _⟩ := buildPuncturedRanges_ok (prepareNullifiers_eq.symm.trans hprepare')
  exact sample_lengths_ne (hlen'.trans hlen.symm)

end Sample

end NullifierPir.NfServer.CmdSync
