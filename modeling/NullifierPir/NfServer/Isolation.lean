import NullifierPir.NfServer.ExportHeight

/-!
# Isolation of the networks

Sync commands of both networks may use one data directory. `Isolated` says what holds of it at any
moment: while there is a marker, `nullifiers.bin` is the beginning of a sequence of nullifiers of its
network and `nullifiers.tree` is a tree of such nullifiers (`On`), and `pir_root.json` describes a tree
of nullifiers of the network it names. Each program of a command keeps this, and without a marker none
of them reads or extends what is left of a dataset (`IsolatedStep`). The marker check comes first and
leaves the directory of its network (`ensureIronwoodDataset_isolated`); what follows it is shown for a
directory of that network (`MarkedStep`).
-/

namespace NullifierPir.NfServer.CmdSync
open Rust ByteString Crash Imt NullifierPir.Types NullifierPir.Ingest NullifierPir.Export

section Defs

variable (blocks : ZcashNetwork → CompactBlock → Prop) (codecs : Codecs)

/-- The nullifier is in a block of the network. -/
def NullifierOf (net : ZcashNetwork) (nf : Bytes) : Prop :=
  ∃ b, blocks net b ∧ ∃ tx ∈ b.vtx, nf ∈ tx.ironwoodActions

/-- The server streams only blocks of a network it reports. -/
def ReportsItsNetwork (l : Lightwalletd) : Prop :=
  ∀ net h state, l.getTreeState h = .ok state → state.network = net.asStr →
    ∀ start stop bs, l.getBlockRange start stop = .ok bs → ∀ b ∈ bs, blocks net b

/-- Nullifiers of the network, in their 32 bytes. -/
def Words (net : ZcashNetwork) (nfs : List Bytes32) : Prop := ∀ nf ∈ nfs, NullifierOf blocks net nf.val

/-- The tree of nullifiers of the network. -/
def TreeFrom (net : ZcashNetwork) (tree : PirTree) : Prop :=
  ∃ nfs : List Fp, (∀ nf ∈ nfs, NullifierOf blocks net nf.toRepr) ∧
    buildPirTreeFromNullifiers codecs.hasher nfs = .ok tree

/-- The text of a marker. -/
def markerLine (net : ZcashNetwork) : Bytes := codecs.marker.encode (currentMarker net) ++ [10]

/-- What a file holds beside the marker of a network: `nullifiers.bin` the beginning of a sequence of
its nullifiers, the checkpoint an offset between two of them, `nullifiers.tree` a tree of them. The
metadata, or the beginning of it, may be that of another network. -/
def FileOf (net : ZcashNetwork) : DataFile → Bytes → Prop
  | .datasetMarker, data => data = markerLine codecs net
  | .nullifiersBin, data => ∃ nfs, Words blocks net nfs ∧ data <+: nfs.flatMap fun nf => nf.val
  | .nullifiersCheckpoint, data => (decodeEntry data 0).2 % NULLIFIER_SIZE = 0
  | .nullifiersTree, data => ∃ height tree payload, height < U64 ∧ TreeFrom blocks codecs net tree ∧
      encodeTree codecs.bincode tree = .ok payload ∧ data = encodeHeader height ++ payload
  | .pirRoot, data => ∃ net height tree tier0Bytes rows rowBytes, TreeFrom blocks codecs net tree ∧
      data <+: codecs.metadata.encode
        (exportMetadata tree net (some height) COMPILED_PIR_LAYOUT tier0Bytes rows rowBytes)
  | _, _ => True

/-- The directory of a network: its marker and, beside it, its data. -/
structure On (net : ZcashNetwork) (s : Dir) : Prop where
  marked : (s .datasetMarker).isSome
  files : ∀ n data, s n = some data → FileOf blocks codecs net n data

/-- A directory that keeps the networks apart: that of one network, or without a marker. -/
structure Isolated (s : Dir) : Prop where
  dataset : s .datasetMarker = none ∨ ∃ net, On blocks codecs net s
  metadata : ∀ net data, s .pirRoot = some data → FileOf blocks codecs net .pirRoot data

/-- The operation reads file `n` or adds to it. -/
def Uses (n : DataFile) : FsOp → Prop
  | .append m _ => m = n
  | .overwrite m _ => m = n
  | .setLen m _ => m = n
  | .rename src _ => src = n
  | .read m => m = n
  | _ => False

/-- Without a marker, raw and tree files that are left over are not used. -/
def LeavesAlone (s : Dir) (o : FsOp) : Prop :=
  s .datasetMarker = none → ∀ n ∈ RAW_DATASET_ARTIFACTS, (s n).isSome → ¬ Uses n o

/-- A step of a command. -/
structure IsolatedStep (s : Dir) (o : FsOp) : Prop where
  keeps : Keeps (Isolated blocks codecs) s o
  alone : LeavesAlone s o

/-- A step behind the marker check of a network. -/
def MarkedStep (net : ZcashNetwork) (s : Dir) (o : FsOp) : Prop :=
  On blocks codecs net s ∧ Keeps (On blocks codecs net) s o

end Defs

section State

variable {blocks : ZcashNetwork → CompactBlock → Prop} {codecs : Codecs} {net : ZcashNetwork}
  {s s' : Dir} {o : FsOp} {n : DataFile}

/-- The marker is that of the network. -/
lemma On.marker (on : On blocks codecs net s) : s .datasetMarker = some (markerLine codecs net) := by
  obtain ⟨data, hdata⟩ := Option.isSome_iff_exists.mp on.marked
  obtain rfl := on.files _ _ hdata
  exact hdata

/-- The directory of a network is isolated. -/
lemma On.isolated (on : On blocks codecs net s) : Isolated blocks codecs s :=
  ⟨.inr ⟨net, on⟩, fun _ data h => on.files .pirRoot data h⟩

/-- A marker text tells its network. -/
lemma decode_markerLine : codecs.marker.decode (markerLine codecs net) = .ok (currentMarker net) :=
  codecs.marker.decode_line _

/-- Beside the marker of a network, an isolated directory is that of the network. -/
lemma Isolated.on (isolated : Isolated blocks codecs s)
    (marker : s .datasetMarker = some (markerLine codecs net)) : On blocks codecs net s := by
  rcases isolated.dataset with hnone | ⟨net', on⟩
  · rw [marker] at hnone
    cases hnone
  · have hdec := @decode_markerLine codecs net
    rw [Option.some.inj (marker.symm.trans on.marker), decode_markerLine] at hdec
    cases hdec
    exact on

/-- Steps behind the marker check are steps of a command. -/
lemma MarkedStep.isolatedStep (step : MarkedStep blocks codecs net s o) :
    IsolatedStep blocks codecs s o := by
  obtain ⟨on, keeps⟩ := step
  refine ⟨fun _ => ⟨(keeps on).1.isolated, fun _ ht => ((keeps on).2 _ ht).isolated⟩, ?_⟩
  intro hnone
  rw [on.marker] at hnone
  cases hnone

/-- One file is changed to what it may hold. -/
lemma On.update {data : Bytes} (on : On blocks codecs net s) (file : FileOf blocks codecs net n data) :
    On blocks codecs net (Function.update s n (some data)) := by
  refine ⟨?_, ?_⟩
  · rw [Function.update_apply]
    split
    · rfl
    · exact on.marked
  · intro m bs h
    rw [Function.update_apply] at h
    split at h
    · rename_i heq
      cases h
      exact heq ▸ file
    · exact on.files m bs h

/-- A file other than the marker may be missing. -/
lemma On.drop (on : On blocks codecs net s) (hn : n ≠ .datasetMarker) :
    On blocks codecs net (Function.update s n none) := by
  refine ⟨?_, ?_⟩
  · rw [Function.update_of_ne (Ne.symm hn)]
    exact on.marked
  · intro m bs h
    rw [Function.update_apply] at h
    split at h
    · cases h
    · exact on.files m bs h

/-- A removed file. -/
lemma On.keeps_remove (hn : n ≠ .datasetMarker) :
    Keeps (On blocks codecs net) s (.remove n : FsOp) := fun on =>
  ⟨on.drop hn, fun _ ht => by cases ht⟩

/-- A created file may hold every beginning of its content. -/
lemma On.keeps_create {bs : Bytes} (file : ∀ p, p <+: bs → FileOf blocks codecs net n p) :
    Keeps (On blocks codecs net) s (.create n bs : FsOp) := by
  intro on
  refine ⟨on.update (file bs List.prefix_rfl), fun _ ht => ?_⟩
  cases ht with
  | create hp => exact on.update (file _ hp)

/-- So may a file that is appended to. -/
lemma On.keeps_append {bs : Bytes}
    (file : ∀ p, p <+: bs → FileOf blocks codecs net n ((s n).getD [] ++ p)) :
    Keeps (On blocks codecs net) s (.append n bs : FsOp) := by
  intro on
  refine ⟨on.update (file bs List.prefix_rfl), fun _ ht => ?_⟩
  cases ht with
  | append hp => exact on.update (file _ hp)

/-- A file that is cut. -/
lemma On.keeps_setLen {len : Nat}
    (file : ∀ data, s n = some data → FileOf blocks codecs net n (resize data len)) :
    Keeps (On blocks codecs net) s (.setLen n len : FsOp) := by
  intro on
  refine ⟨?_, fun _ ht => by cases ht⟩
  change On blocks codecs net (Function.update s n ((s n).map (resize · len)))
  cases hdata : s n with
  | none =>
    rw [Option.map_none, ← hdata, Function.update_eq_self]
    exact on
  | some data => exact on.update (file data hdata)

/-- A file that is moved to its place. -/
lemma On.keeps_rename {src : DataFile} (hsrc : src ≠ .datasetMarker)
    (file : ∀ data, s src = some data → FileOf blocks codecs net n data) :
    Keeps (On blocks codecs net) s (.rename src n : FsOp) := by
  intro on
  refine ⟨?_, fun _ ht => by cases ht⟩
  cases hdata : s src with
  | none =>
    have hsame : (Op.rename src n : FsOp).apply s = s := by simp only [Op.apply, hdata]
    rw [hsame]
    exact on
  | some data =>
    have hmoved : (Op.rename src n : FsOp).apply s =
        Function.update (Function.update s n (some data)) src none := by simp only [Op.apply, hdata]
    rw [hmoved]
    exact (on.update (file data hdata)).drop hsrc

/-- Reads and calls. -/
lemma On.keeps_of_read (ho : (∃ n, o = .read n) ∨ ∃ e, o = .call e) :
    Keeps (On blocks codecs net) s o := by
  intro on
  rcases ho with ⟨_, rfl⟩ | ⟨_, rfl⟩
  · exact ⟨on, fun _ ht => by cases ht⟩
  · exact ⟨on, fun _ ht => by cases ht⟩

/-- The files that are held to something. -/
def ISOLATED_FILES : List DataFile :=
  [.datasetMarker, .nullifiersBin, .nullifiersCheckpoint, .nullifiersTree, .pirRoot]

/-- The others may hold anything. -/
lemma fileOf_of_notMem {data : Bytes} (hn : n ∉ ISOLATED_FILES) : FileOf blocks codecs net n data := by
  cases n <;> trivial

/-- Operations aside of the data keep it. -/
lemma Aside.keepsOn {ns : List DataFile} (aside : Aside ns o)
    (hns : ∀ n ∈ ns, n ∉ [DataFile.datasetMarker, .nullifiersBin, .nullifiersCheckpoint]) :
    Keeps (On blocks codecs net) s o := by
  obtain ⟨inside, ⟨htree, hroot⟩ | ⟨n, rfl⟩⟩ := aside
  · have hfile : ∀ n ∈ ns, n ≠ .nullifiersTree → n ≠ .pirRoot → ∀ data,
        FileOf blocks codecs net n data := by
      intro n hn htree hroot data
      refine fileOf_of_notMem ?_
      have hnot := hns n hn
      simp only [ISOLATED_FILES, List.mem_cons, List.not_mem_nil, or_false, not_or] at hnot ⊢
      exact ⟨hnot.1, hnot.2.1, hnot.2.2, htree, hroot⟩
    cases o with
    | create n bs => exact On.keeps_create fun p _ => hfile n inside htree hroot p
    | append n bs => exact On.keeps_append fun p _ => hfile n inside htree hroot _
    | overwrite n bs =>
      intro on
      refine ⟨on.update (hfile n inside htree hroot _), fun _ ht => ?_⟩
      cases ht with
      | overwrite hp => exact on.update (hfile n inside htree hroot _)
    | setLen n len => exact On.keeps_setLen fun data _ => hfile n inside htree hroot _
    | rename src dst =>
      refine On.keeps_rename ?_ fun data _ => hfile dst inside.2 htree.2 hroot.2 data
      rintro rfl
      exact hns _ inside.1 (by simp)
    | remove n =>
      refine On.keeps_remove ?_
      rintro rfl
      exact hns _ inside (by simp)
    | read n => exact On.keeps_of_read (.inl ⟨n, rfl⟩)
    | call e => exact On.keeps_of_read (.inr ⟨e, rfl⟩)
  · refine On.keeps_remove ?_
    rintro rfl
    exact hns _ inside (by simp)

end State

section Words

variable {blocks : ZcashNetwork → CompactBlock → Prop} {codecs : Codecs} {net : ZcashNetwork}
  {nfs : List Bytes32} {data : Bytes} {s : Dir}

/-- Words have 32 bytes. -/
lemma length_words : (nfs.flatMap fun nf => nf.val).length = nfs.length * NULLIFIER_SIZE :=
  length_flatMap_const fun nf _ => nf.property

/-- Cut between two words, the beginning of a sequence of words is one of whole words. -/
lemma take_words {off : Nat} (hpre : data <+: nfs.flatMap fun nf => nf.val)
    (aligned : off % NULLIFIER_SIZE = 0) (hle : off ≤ data.length) :
    data.take off = (nfs.take (off / NULLIFIER_SIZE)).flatMap fun nf => nf.val := by
  have hsplit : (nfs.take (off / NULLIFIER_SIZE)).flatMap (fun nf => nf.val) <+:
      nfs.flatMap fun nf => nf.val := by
    have happend := @List.flatMap_append _ _ (nfs.take (off / NULLIFIER_SIZE))
      (nfs.drop (off / NULLIFIER_SIZE)) fun nf => nf.val
    rw [List.take_append_drop] at happend
    rw [happend]
    exact List.prefix_append _ _
  have hlen := hpre.length_le
  simp only [length_words, NULLIFIER_SIZE] at hlen aligned
  refine List.IsPrefix.eq_of_length
    (List.prefix_of_prefix_length_le ((List.take_prefix _ _).trans hpre) hsplit ?_) ?_
  · simp only [length_words, List.length_take, NULLIFIER_SIZE]
    omega
  · simp only [length_words, List.length_take, NULLIFIER_SIZE]
    omega

/-- Parsed fields are nullifiers of the network. -/
lemma parsed_of_words {fields : List Fp} (words : Words blocks net nfs)
    (hpre : data <+: nfs.flatMap fun nf => nf.val) (ok : parseNullifierBytes data = .ok fields) :
    ∀ x ∈ fields, NullifierOf blocks net x.toRepr := by
  obtain ⟨_, hmod, _⟩ := bind_eq_ok.mp ok
  have hwhole := take_words hpre (beq_iff_eq.mp (ensure_eq_ok.mp hmod)) le_rfl
  rw [List.take_length] at hwhole
  rw [hwhole] at ok
  intro x hx
  have hmem : x.toRepr ∈ (nfs.take (data.length / NULLIFIER_SIZE)).map Subtype.val := by
    rw [← parseNullifierBytes_ok ok]
    exact List.mem_map_of_mem hx
  obtain ⟨nf, hnf, heq⟩ := List.mem_map.mp hmem
  exact heq ▸ words nf (List.mem_of_mem_take hnf)

/-- Without `nullifiers.bin` an export reads nothing. -/
lemma exportNullifiers_none {ch height : Nat} {fields : List Fp} (hbin : s .nullifiersBin = none)
    (ok : (exportNullifiers ch height s).2 = .ok fields) : fields = [] := by
  have hnone : (s .nullifiersBin).isSome = false := by rw [hbin]; rfl
  rw [exportNullifiers] at ok
  split at ok
  · obtain ⟨r, _, ok, _⟩ := Prog.bind_ok ok
    rw [offsetForHeight_only.after_self] at ok
    cases r with
    | none => cases ok
    | some e =>
      obtain ⟨_, hread, ok, _⟩ := Prog.bind_ok ok
      cases hread
      have hload := context_eq_ok.mp ok
      rw [loadNullifiersUpTo, exists_bind hnone] at hload
      exact (Except.ok.inj hload).symm
  · rw [loadAllNullifiers, exists_bind hnone] at ok
    exact (Except.ok.inj ok).symm

/-- What an export reads are nullifiers of the network. -/
lemma exportNullifiers_of {ch height : Nat} {fields : List Fp} (on : On blocks codecs net s)
    (ok : (exportNullifiers ch height s).2 = .ok fields) :
    ∀ x ∈ fields, NullifierOf blocks net x.toRepr := by
  cases hbin : s .nullifiersBin with
  | none =>
    rw [exportNullifiers_none hbin ok]
    exact fun _ hx => absurd hx List.not_mem_nil
  | some data =>
    obtain ⟨nfs, words, hpre⟩ := on.files _ _ hbin
    rcases Nat.lt_or_ge height ch with hlt | hge
    · obtain ⟨_, _, hparse⟩ := exportNullifiers_below hlt hbin ok
      exact parsed_of_words words ((List.take_prefix _ _).trans hpre) hparse
    · rw [exportNullifiers, if_neg (Nat.not_lt.mpr hge)] at ok
      exact parsed_of_words words hpre (loadAllNullifiers_ok hbin ok)

/-- A tree that is loaded from what the file may hold is one of nullifiers of the network. -/
lemma loadTreeCheckpoint_of {height : Nat} {tree : PirTree} (on : On blocks codecs net s)
    (ok : (loadTreeCheckpoint codecs.bincode height s).2 = .ok (some tree)) :
    TreeFrom blocks codecs net tree := by
  cases hdata : s .nullifiersTree with
  | none =>
    rw [loadTreeCheckpoint_none hdata] at ok
    cases ok
  | some data =>
    obtain ⟨label, stored, payload, fits, of, hencode, rfl⟩ := on.files _ _ hdata
    obtain ⟨_, _, hbuild⟩ := of
    obtain ⟨_, _, hranges⟩ := bind_eq_ok.mp hbuild
    have hwritten := parseTreeCheckpoint_written fits (buildPirTree_ok hranges).levels_length hencode
      height
    rw [loadTreeCheckpoint_eq hdata] at ok
    obtain ⟨loaded, hload, ok⟩ := bind_eq_ok.mp ok
    cases ok
    split at hwritten
    · rw [hload] at hwritten
      cases hwritten
      exact ⟨_, ‹_›, hbuild⟩
    · obtain ⟨msg, hfail⟩ := hwritten
      rw [hload] at hfail
      cases hfail

/-- Servers that report the network send its nullifiers. -/
lemma fetchBlockRange_of {l : Lightwalletd} {start stop : Nat} {nfs : List (Nat × Bytes)}
    (streams : ∀ bs, l.getBlockRange start stop = .ok bs → ∀ b ∈ bs, blocks net b)
    (ok : fetchBlockRange l start stop = .ok nfs) : ∀ x ∈ nfs, NullifierOf blocks net x.2 := by
  obtain ⟨bs, hbs, ok⟩ := bind_eq_ok.mp ok
  obtain ⟨batch, hbatch, ok⟩ := bind_eq_ok.mp ok
  cases ok
  intro x hx
  obtain ⟨ys, hys, hx⟩ := List.mem_flatten.mp hx
  obtain ⟨b, hb, hblock⟩ := mapM_mem hbatch ys hys
  obtain ⟨txs, htxs, hblock⟩ := bind_eq_ok.mp hblock
  cases hblock
  obtain ⟨zs, hzs, hx⟩ := List.mem_flatten.mp hx
  obtain ⟨tx, htx, htxok⟩ := mapM_mem htxs zs hzs
  obtain ⟨nf, hnf, hnfok⟩ := mapM_mem htxok x hx
  obtain ⟨_, _, hnfok⟩ := bind_eq_ok.mp hnfok
  cases hnfok
  exact ⟨b, streams bs (ofResult_eq_ok.mp hbs) b hb, tx, htx, hnf⟩

end Words

section Checks

variable {blocks : ZcashNetwork → CompactBlock → Prop} {codecs : Codecs} {net : ZcashNetwork}
  {s : Dir} {n : DataFile}

/-- Beside a marker everything may be read. -/
lemma read_isolatedStep (marked : (s .datasetMarker).isSome) :
    IsolatedStep blocks codecs s (.read n) := by
  refine ⟨fun h => ⟨h, fun _ ht => by cases ht⟩, ?_⟩
  intro hnone
  rw [hnone] at marked
  cases marked

/-- A file may be removed at any time. -/
lemma remove_isolatedStep : IsolatedStep blocks codecs s (.remove n) := by
  refine ⟨fun h => ⟨⟨?_, ?_⟩, fun _ ht => by cases ht⟩, fun _ _ _ _ => id⟩
  · by_cases hn : n = .datasetMarker
    · exact .inl (by rw [apply_remove, if_pos hn.symm])
    · refine h.dataset.imp (fun hnone => ?_) fun ⟨net, on⟩ => ⟨net, on.drop hn⟩
      rw [apply_remove, if_neg (Ne.symm hn), hnone]
  · intro net data hdata
    rw [apply_remove] at hdata
    split at hdata
    · cases hdata
    · exact h.metadata net data hdata

/-- The temporary file of a first marker says nothing of a network. -/
lemma Isolated.createTmp {bs : Bytes} (isolated : Isolated blocks codecs s)
    (hmark : s .datasetMarker = none) :
    IsolatedStep blocks codecs s (.create .datasetMarkerTmp bs) ∧
      Isolated blocks codecs ((Op.create .datasetMarkerTmp bs : FsOp).apply s) := by
  have hother : ∀ {s' : Dir}, (∀ n ≠ DataFile.datasetMarkerTmp, s' n = s n) →
      Isolated blocks codecs s' := by
    intro s' same
    refine ⟨.inl ?_, ?_⟩
    · rw [same _ (by simp), hmark]
    · rw [same _ (by simp)]
      exact isolated.metadata
  have happlied : Isolated blocks codecs ((Op.create .datasetMarkerTmp bs : FsOp).apply s) :=
    hother fun n hn => by rw [apply_create, if_neg hn]
  refine ⟨⟨fun _ => ⟨happlied, fun s' ht => hother fun n hn => ?_⟩, fun _ _ _ _ => id⟩, happlied⟩
  cases ht with
  | create _ => exact Function.update_of_ne hn _ _

/-- Moved to its place beside no raw files, it makes the directory that of its network. -/
lemma Isolated.mark (isolated : Isolated blocks codecs s) (hart : NoArtifacts s)
    (htmp : s .datasetMarkerTmp = some (markerLine codecs net)) :
    IsolatedStep blocks codecs s (.rename .datasetMarkerTmp .datasetMarker) ∧
      On blocks codecs net ((Op.rename .datasetMarkerTmp .datasetMarker : FsOp).apply s) := by
  have on : On blocks codecs net ((Op.rename .datasetMarkerTmp .datasetMarker : FsOp).apply s) := by
    refine ⟨by rw [apply_rename htmp, if_neg (by simp), if_pos rfl]; rfl, ?_⟩
    intro n data hdata
    rw [apply_rename htmp] at hdata
    split at hdata
    · cases hdata
    · split at hdata
      · rename_i hmarker
        cases hdata
        exact hmarker ▸ rfl
      · rename_i hmarker
        by_cases hroot : n = .pirRoot
        · exact hroot ▸ isolated.metadata net data (hroot ▸ hdata)
        · by_cases hraw : n ∈ RAW_DATASET_ARTIFACTS
          · rw [hart n hraw] at hdata
            cases hdata
          · refine fileOf_of_notMem ?_
            revert hmarker hroot hraw
            cases n <;> decide
  refine ⟨⟨fun _ => ⟨on.isolated, fun _ ht => by cases ht⟩, ?_⟩, on⟩
  rintro _ n hn _ rfl
  simp [RAW_DATASET_ARTIFACTS] at hn

/-- Raw files other than the two of the marker are not touched by making it. -/
lemma noArtifacts_mark (hart : NoArtifacts s) {bs : Bytes} (htmp : s .datasetMarkerTmp = some bs) :
    NoArtifacts ((Op.rename .datasetMarkerTmp .datasetMarker : FsOp).apply s) := by
  intro n hn
  rw [apply_rename htmp, if_neg (by rintro rfl; simp [RAW_DATASET_ARTIFACTS] at hn),
    if_neg (by rintro rfl; simp [RAW_DATASET_ARTIFACTS] at hn), hart n hn]

variable {P : Dir → Prop}

/-- A directory that passes the check is that of the network. -/
lemma ensureIronwoodDataset_isolated (fresh : ∀ s, NoArtifacts s → P s) :
    Triple (IsolatedStep blocks codecs)
      (fun s => Isolated blocks codecs s ∧ (s .datasetMarker = some (markerLine codecs net) → P s))
      (ensureIronwoodDataset codecs.marker net) fun _ s => On blocks codecs net s ∧ P s := by
  refine Triple.bind exists_triple ?_
  intro b
  cases b with
  | true =>
    refine Triple.bind (readFile_triple fun s hs => read_isolatedStep hs.2.symm) ?_
    intro bs
    refine Triple.bind Triple.lift_ok fun m => Triple.bind Triple.lift_ok fun _ => ?_
    refine Triple.lift fun _ s hnet hs => ?_
    obtain ⟨⟨⟨⟨⟨isolated, hP⟩, _⟩, hbs⟩, hdec⟩, _⟩ := hs
    rcases isolated.dataset with hnone | ⟨net', on⟩
    · rw [hbs] at hnone
      cases hnone
    · have hm := ofResult_eq_ok.mp (context_eq_ok.mp hdec)
      rw [Option.some.inj (hbs.symm.trans on.marker), decode_markerLine] at hm
      cases hm
      obtain rfl : net' = net := of_decide_eq_true (ensure_eq_ok.mp hnet)
      exact ⟨on, hP on.marker⟩
  | false =>
    refine Triple.seq (fun r s => Isolated blocks codecs s ∧ s .datasetMarker = none ∧
        (r = none → NoArtifacts s)) (Triple.inspect fun s hs => ⟨hs.1.1, eq_none_of_isSome hs.2, ?_⟩) ?_
    · intro hnone n hn
      exact Option.not_isSome_iff_eq_none.mp (List.find?_eq_none.mp hnone n hn)
    · intro r
      cases r with
      | some n => exact Triple.lift fun _ _ h => by cases h
      | none =>
        refine Triple.seq (fun _ s => Isolated blocks codecs s ∧ NoArtifacts s ∧
            s .datasetMarkerTmp = some (markerLine codecs net)) (Triple.perform fun s hs => ?_)
          fun _ => Triple.perform fun s hs => ?_
        · obtain ⟨isolated, hmark, hart⟩ := hs
          obtain ⟨step, next⟩ := @Isolated.createTmp _ _ _ (markerLine codecs net) isolated hmark
          refine ⟨step, next, fun n hn => ?_, by rw [apply_create, if_pos rfl, markerLine]⟩
          rw [apply_create, if_neg (by rintro rfl; simp [RAW_DATASET_ARTIFACTS] at hn), hart rfl n hn]
        · obtain ⟨isolated, hart, htmp⟩ := hs
          obtain ⟨step, on⟩ := isolated.mark hart htmp
          exact ⟨step, on, fresh _ (noArtifacts_mark hart htmp)⟩

end Checks

section Sync

variable {blocks : ZcashNetwork → CompactBlock → Prop} {codecs : Codecs} {net : ZcashNetwork}
  {s : Dir} {clients : List Lightwalletd}

/-- The data is as long as the checkpoint says. -/
def Covered (s : Dir) : Prop :=
  ∀ data cp, s .nullifiersBin = some data → s .nullifiersCheckpoint = some cp →
    (decodeEntry cp 0).2 ≤ data.length

/-- Without data there is nothing to cover. -/
lemma covered_of_none (hbin : s .nullifiersBin = none) : Covered s := by
  intro data _ hdata
  rw [hbin] at hdata
  cases hdata

/-- The data ends between two nullifiers. -/
def Whole (blocks : ZcashNetwork → CompactBlock → Prop) (codecs : Codecs) (net : ZcashNetwork)
    (s : Dir) : Prop :=
  On blocks codecs net s ∧
    ∃ nfs, Words blocks net nfs ∧ (s .nullifiersBin).getD [] = nfs.flatMap fun nf => nf.val

/-- Without data there are no words. -/
lemma On.whole_of_none (on : On blocks codecs net s) (hbin : s .nullifiersBin = none) :
    Whole blocks codecs net s :=
  ⟨on, [], fun _ h => absurd h List.not_mem_nil, by rw [hbin]; rfl⟩

/-- Programs behind the marker check are programs of a command. -/
lemma Triple.isolated {α : Type} {pre : Dir → Prop} {x : Fs α} {post : α → Dir → Prop}
    (h : Triple (MarkedStep blocks codecs net) pre x post) :
    Triple (IsolatedStep blocks codecs) pre x post :=
  h.mono fun _ _ step => step.isolatedStep

/-- Cut at the checkpoint, the data ends between two nullifiers. -/
lemma On.truncate {off : Nat} (on : On blocks codecs net s) (aligned : off % NULLIFIER_SIZE = 0)
    (hle : ∀ data, s .nullifiersBin = some data → off ≤ data.length) :
    Keeps (On blocks codecs net) s (.setLen .nullifiersBin off : FsOp) ∧
      Whole blocks codecs net ((Op.setLen .nullifiersBin off : FsOp).apply s) := by
  have hcut : ∀ data, s .nullifiersBin = some data → ∃ nfs, Words blocks net nfs ∧
      resize data off = nfs.flatMap fun nf => nf.val := by
    intro data hdata
    obtain ⟨nfs, words, hpre⟩ := on.files _ _ hdata
    have hoff := hle data hdata
    refine ⟨nfs.take (off / NULLIFIER_SIZE), fun nf hnf => words nf (List.mem_of_mem_take hnf), ?_⟩
    rw [resize, Nat.sub_eq_zero_of_le hoff, List.replicate_zero, List.append_nil]
    exact take_words hpre aligned hoff
  have keeps : Keeps (On blocks codecs net) s (.setLen .nullifiersBin off : FsOp) := by
    refine On.keeps_setLen fun data hdata => ?_
    obtain ⟨nfs, words, heq⟩ := hcut data hdata
    exact ⟨nfs, words, heq ▸ List.prefix_rfl⟩
  refine ⟨keeps, (keeps on).1, ?_⟩
  rw [apply_setLen, if_pos rfl]
  cases hdata : s .nullifiersBin with
  | none => exact ⟨[], fun _ h => absurd h List.not_mem_nil, rfl⟩
  | some data => exact hcut data hdata

/-- Truncating to an offset between two nullifiers that is stored. -/
lemma truncateToCheckpoint_isolated {pre : Dir → Prop} {off : Nat}
    (on : ∀ s, pre s → On blocks codecs net s) (aligned : off % NULLIFIER_SIZE = 0)
    (hle : ∀ s data, pre s → s .nullifiersBin = some data → off ≤ data.length) :
    Triple (MarkedStep blocks codecs net) pre (truncateToCheckpoint off)
      fun _ s => Whole blocks codecs net s := by
  refine Triple.bind exists_triple ?_
  intro b
  cases b with
  | false => exact Triple.pure fun s hs => (on s hs.1).whole_of_none (eq_none_of_isSome hs.2)
  | true =>
    refine Triple.perform fun s hs => ?_
    obtain ⟨keeps, whole⟩ := (on s hs.1).truncate aligned fun data hdata => hle s data hs.1 hdata
    exact ⟨⟨on s hs.1, keeps⟩, whole⟩

/-- Resuming leaves whole nullifiers. -/
lemma resumeHeight_isolated :
    Triple (IsolatedStep blocks codecs) (fun s => Isolated blocks codecs s ∧ Covered s)
      (resumeHeight codecs.marker net) fun _ s => Whole blocks codecs net s := by
  refine Triple.bind ((ensureIronwoodDataset_isolated fun s hart =>
    covered_of_none (hart _ (by decide))).conseq (fun _ hs => ⟨hs.1, fun _ => hs.2⟩)
      fun _ _ hs => hs) fun _ =>
    @Triple.isolated _ _ net _ _ _ _ ?_
  refine Triple.bind (loadCheckpoint_triple fun s hs =>
    ⟨hs.1, On.keeps_of_read (.inl ⟨_, rfl⟩)⟩) ?_
  intro r
  cases r with
  | none =>
    exact Triple.bind (truncateToCheckpoint_isolated (fun _ hs => hs.1.1) rfl
      fun _ _ _ _ => Nat.zero_le _) fun _ => Triple.pure fun _ hs => hs
  | some e =>
    obtain ⟨h, off⟩ := e
    dsimp only
    split
    · refine Triple.assume (φ := off % NULLIFIER_SIZE = 0) (fun s hs => ?_) fun aligned => ?_
      · obtain ⟨cp, hcp, hdec⟩ := Option.map_eq_some_iff.mp hs.2.symm
        have haligned := hs.1.1.files _ _ hcp
        rw [FileOf, hdec] at haligned
        exact haligned
      · refine Triple.bind (truncateToCheckpoint_isolated (fun _ hs => hs.1.1) aligned ?_) fun _ =>
          Triple.pure fun _ hs => hs
        intro s data hs hdata
        obtain ⟨cp, hcp, hdec⟩ := Option.map_eq_some_iff.mp hs.2.symm
        have hcovered := hs.1.2 data cp hdata hcp
        rw [hdec] at hcovered
        exact hcovered
    · exact Triple.lift fun _ _ h => by cases h

/-- An operation on another file leaves whole nullifiers. -/
lemma Whole.step {o : FsOp} (whole : Whole blocks codecs net s)
    (keeps : Keeps (On blocks codecs net) s o) (avoids : o.Avoids .nullifiersBin) :
    MarkedStep blocks codecs net s o ∧ Whole blocks codecs net (o.apply s) := by
  refine ⟨⟨whole.1, keeps⟩, (keeps whole.1).1, ?_⟩
  rw [avoids.apply]
  exact whole.2

/-- Blobs of 32 bytes are words. -/
lemma exists_blobs {nfs : List (Nat × Bytes)} (hlen : ∀ x ∈ nfs, x.2.length = NULLIFIER_SIZE)
    (of : ∀ x ∈ nfs, NullifierOf blocks net x.2) :
    ∃ ws, Words blocks net ws ∧ (nfs.flatMap fun x => x.2) = ws.flatMap fun nf => nf.val := by
  induction nfs with
  | nil => exact ⟨[], fun _ h => absurd h List.not_mem_nil, rfl⟩
  | cons x nfs ih =>
    obtain ⟨ws, words, heq⟩ := ih (fun y hy => hlen y (List.mem_cons_of_mem x hy))
      fun y hy => of y (List.mem_cons_of_mem x hy)
    refine ⟨⟨x.2, hlen x List.mem_cons_self⟩ :: ws, ?_, ?_⟩
    · intro nf hnf
      rcases List.mem_cons.mp hnf with rfl | hnf
      · exact of x List.mem_cons_self
      · exact words nf hnf
    · rw [List.flatMap_cons, List.flatMap_cons, heq]

/-- Appending nullifiers of the network leaves whole ones. -/
lemma appendNullifiers_isolated {nfs : List (Nat × Bytes)}
    (of : ∀ x ∈ nfs, NullifierOf blocks net x.2) :
    Triple (MarkedStep blocks codecs net) (Whole blocks codecs net) (appendNullifiers nfs)
      fun off s => Whole blocks codecs net s ∧ off % NULLIFIER_SIZE = 0 := by
  refine Triple.bind Triple.lift_ok fun _ => Triple.assume (fun _ hs => hs.2) fun hlens => ?_
  have hlen : ∀ x ∈ nfs, x.2.length = NULLIFIER_SIZE := by
    intro x hx
    obtain ⟨i, hi, rfl⟩ := List.mem_iff_getElem.mp hx
    exact beq_iff_eq.mp (ensure_eq_ok.mp
      (forEach_eq_ok.mp hlens (nfs[i], i) (List.mk_mem_zipIdx_iff_getElem?.mpr (by simp))))
  obtain ⟨ws, words, heq⟩ := exists_blobs hlen of
  refine Triple.seq (fun _ s => Whole blocks codecs net s) (Triple.perform fun s hs => ?_) fun _ =>
    Triple.inspect fun s whole => ⟨whole, ?_⟩
  · obtain ⟨⟨on, ws', words', hbin⟩, _⟩ := hs
    have hboth : Words blocks net (ws' ++ ws) := by
      intro nf hnf
      exact (List.mem_append.mp hnf).elim (words' nf) (words nf)
    have hsum : (s .nullifiersBin).getD [] ++ (nfs.flatMap fun x => x.2) =
        (ws' ++ ws).flatMap fun nf => nf.val := by
      rw [List.flatMap_append, hbin, heq]
    have keeps : Keeps (On blocks codecs net) s
        (.append .nullifiersBin (nfs.flatMap fun x => x.2) : FsOp) :=
      On.keeps_append fun p hp => ⟨_, hboth, hsum ▸ (List.prefix_append_right_inj _).mpr hp⟩
    refine ⟨⟨on, keeps⟩, (keeps on).1, ws' ++ ws, hboth, ?_⟩
    rw [apply_append, if_pos rfl, Option.getD_some, hsum]
  · obtain ⟨_, ws', _, hbin⟩ := whole
    rw [hbin, length_words, Nat.mul_mod_left]

/-- Committing an offset between two nullifiers. -/
lemma saveCheckpoint_isolated {h off : Nat} (aligned : off % NULLIFIER_SIZE = 0) :
    Triple (MarkedStep blocks codecs net) (Whole blocks codecs net) (saveCheckpoint h off)
      fun _ s => Whole blocks codecs net s := by
  refine Triple.seq (fun _ s => Whole blocks codecs net s ∧
      s .nullifiersCheckpointTmp = some (encodeEntry h off)) (Triple.perform fun s whole => ?_)
    fun _ => Triple.seq (fun _ s => Whole blocks codecs net s) (Triple.perform fun s hs => ?_)
      fun _ => Triple.perform fun s whole => ?_
  · obtain ⟨step, next⟩ := whole.step (o := .create .nullifiersCheckpointTmp (encodeEntry h off))
      (On.keeps_create fun _ _ => trivial) (by simp [Op.Avoids])
    exact ⟨step, next, by rw [apply_create, if_pos rfl]⟩
  · refine hs.1.step (On.keeps_rename (by simp) fun data hdata => ?_) (by simp [Op.Avoids])
    cases hs.2.symm.trans hdata
    rw [FileOf, decodeEntry_encodeEntry_mod]
    have hdvd : NULLIFIER_SIZE ∣ U64 := by decide
    rw [Nat.mod_mod_of_dvd _ hdvd, aligned]
  · exact whole.step (On.keeps_append fun _ _ => trivial) (by simp [Op.Avoids])

/-- A cycle with servers of the network leaves whole nullifiers. -/
lemma syncCycle_isolated {current target : Nat}
    (streams : ∀ l ∈ clients, ∀ start stop bs, l.getBlockRange start stop = .ok bs →
      ∀ b ∈ bs, blocks net b) :
    Triple (MarkedStep blocks codecs net) (Whole blocks codecs net) (syncCycle clients current target)
      fun _ s => Whole blocks codecs net s := by
  refine Triple.bind (Triple.forEach fun _ _ => Triple.perform fun s whole =>
    whole.step (On.keeps_of_read (.inr ⟨_, rfl⟩)) trivial) fun _ => ?_
  refine Triple.bind Triple.lift_ok fun nfs => Triple.assume (fun _ hs => hs.2) fun hfetch => ?_
  have of : ∀ x ∈ nfs.flatten, NullifierOf blocks net x.2 := by
    intro x hx
    obtain ⟨batch, hbatch, hx⟩ := List.mem_flatten.mp hx
    obtain ⟨y, hy, ok⟩ := mapM_mem hfetch batch hbatch
    exact fetchBlockRange_of (streams y.1 (List.of_mem_zip hy).1 _ _) ok x hx
  refine Triple.bind Triple.lift_ok fun cycleEnd => ?_
  refine Triple.bind ((appendNullifiers_isolated of).conseq (fun _ hs => hs.1.1) fun _ _ hs => hs)
    fun off => Triple.assume (fun _ hs => hs.2) fun aligned => ?_
  refine Triple.bind ((saveCheckpoint_isolated aligned).conseq (fun _ hs => hs.1) fun _ _ hs => hs)
    fun _ => Triple.pure fun _ hs => hs

/-- And so does the loop. -/
lemma syncLoop_isolated {target fuel current blocksSynced totalNfs : Nat}
    (streams : ∀ l ∈ clients, ∀ start stop bs, l.getBlockRange start stop = .ok bs →
      ∀ b ∈ bs, blocks net b) :
    Triple (MarkedStep blocks codecs net) (Whole blocks codecs net)
      (syncLoop clients target fuel current blocksSynced totalNfs)
      fun _ s => Whole blocks codecs net s := by
  induction fuel generalizing current blocksSynced totalNfs with
  | zero => exact Triple.lift fun _ _ h => by cases h
  | succ fuel ih =>
    rw [syncLoop]
    split
    · exact Triple.pure fun _ hs => hs
    · exact Triple.bind (syncCycle_isolated streams) fun _ => ih

/-- A sync leaves the directory of its network. -/
lemma sync_isolated {lwds : List Lightwalletd} {maxHeight : Option Nat}
    (reports : ∀ l ∈ lwds, ReportsItsNetwork blocks l) :
    Triple (IsolatedStep blocks codecs) (fun s => Isolated blocks codecs s ∧ Covered s)
      (sync codecs.marker lwds net maxHeight) fun _ s => On blocks codecs net s := by
  refine Triple.bind Triple.lift_ok fun _ => ?_
  refine Triple.bind ((ensureIronwoodDataset_isolated fun s hart =>
    covered_of_none (hart _ (by decide))).conseq (fun _ hs => ⟨hs.1.1, fun _ => hs.1.2⟩)
      fun _ _ hs => hs) fun _ => ?_
  refine Triple.bind Triple.lift_ok fun cs => Triple.bind Triple.lift_ok fun first =>
    Triple.bind Triple.lift_ok fun chainTip => ?_
  refine Triple.assume (fun _ hs => hs.1.1.2) fun hconn => ?_
  refine Triple.bind (resumeHeight_isolated.conseq (fun _ hs =>
    ⟨hs.1.1.1.1.isolated, hs.1.1.1.2⟩) fun _ _ hs => hs) fun start => ?_
  refine Triple.bind Triple.inspect_eq fun _ => Triple.bind Triple.lift_ok fun _ =>
    Triple.assume (fun _ hs => hs.2) fun hstates => ?_
  have streams : ∀ l ∈ cs, ∀ start stop bs, l.getBlockRange start stop = .ok bs →
      ∀ b ∈ bs, blocks net b := by
    intro l hl
    obtain ⟨state, hstate, hvalid⟩ := bind_eq_ok.mp (forEach_eq_ok.mp hstates l hl)
    obtain ⟨_, hnet, _⟩ := bind_eq_ok.mp hvalid
    exact reports l ((connectClients_ok hconn).2 l hl) net _ state
      (ofResult_eq_ok.mp (context_eq_ok.mp hstate)) (beq_iff_eq.mp (ensure_eq_ok.mp hnet))
  dsimp only
  split
  · exact Triple.pure fun _ hs => hs.1.1.1
  · exact Triple.bind ((Triple.isolated (syncLoop_isolated streams)).conseq (fun _ hs => hs.1.1)
      fun _ _ hs => hs) fun _ => Triple.pure fun _ hs => hs.1

end Sync

section Export

variable {blocks : ZcashNetwork → CompactBlock → Prop} {codecs : Codecs} {net : ZcashNetwork}
  {args : Args} {height : Nat} {tree : PirTree}

/-- Programs aside of the data keep the directory. -/
lemma Prog.Only.marked {α : Type} {x : Fs α} {ns : List DataFile} (only : x.Only (Aside ns))
    (hns : ∀ n ∈ ns, n ∉ [DataFile.datasetMarker, .nullifiersBin, .nullifiersCheckpoint]) :
    Triple (MarkedStep blocks codecs net) (On blocks codecs net) x fun _ => On blocks codecs net :=
  only.triple fun _ _ aside on => ⟨⟨on, aside.keepsOn hns⟩, (aside.keepsOn hns on).1⟩

/-- Reading behind the marker check. -/
lemma On.read {s : Dir} {n : DataFile} (on : On blocks codecs net s) :
    MarkedStep blocks codecs net s (.read n) :=
  ⟨on, On.keeps_of_read (.inl ⟨n, rfl⟩)⟩

/-- A stale tree is dropped. -/
lemma removeStaleTree_only : (removeStaleTree height).Only (Aside [.nullifiersTree]) := by
  refine .bind (.attempt (readTreeCheckpointHeader_only.mono fun o ho => ?_)) fun r => ?_
  · obtain ⟨n, rfl⟩ := ho.read
    exact ⟨trivial, .inl ⟨trivial, trivial⟩⟩
  · split
    · split
      · exact .perform ⟨by simp [Op.Inside], .inr ⟨_, rfl⟩⟩
      · exact .pure
    · exact .pure

/-- A tree of nullifiers of the network is saved. -/
lemma saveTreeCheckpoint_isolated (fits : height < U64) (of : TreeFrom blocks codecs net tree) :
    Triple (MarkedStep blocks codecs net) (On blocks codecs net)
      (saveTreeCheckpoint codecs.bincode tree height) fun _ => On blocks codecs net := by
  refine saveTreeCheckpoint_rule (fun s o aside on => ?_) fun s payload ok htmp on => ?_
  · have keeps : Keeps (On blocks codecs net) s o := aside.keepsOn (by simp)
    exact ⟨⟨on, keeps⟩, (keeps on).1⟩
  · have keeps : Keeps (On blocks codecs net) s
        (.rename .nullifiersTreeTmp .nullifiersTree : FsOp) := by
      refine On.keeps_rename (by simp) fun data hdata => ?_
      cases htmp.symm.trans hdata
      exact ⟨height, tree, payload, fits, of, ok, rfl⟩
    exact ⟨⟨on, keeps⟩, (keeps on).1⟩

/-- The tree of an export is one of nullifiers of the network. -/
lemma loadOrBuildTree_isolated {nfs : List Fp} (fits : height < U64)
    (of : ∀ nf ∈ nfs, NullifierOf blocks net nf.toRepr) :
    Triple (MarkedStep blocks codecs net) (On blocks codecs net) (loadOrBuildTree codecs nfs height)
      fun tree s => On blocks codecs net s ∧ TreeFrom blocks codecs net tree := by
  refine Triple.bind (loadTreeCheckpoint_only.reads fun _ _ on => On.read on) ?_
  intro r
  cases r with
  | some tree => exact Triple.pure fun s hs => ⟨hs.1, loadTreeCheckpoint_of hs.1 hs.2⟩
  | none =>
    refine Triple.seq (fun _ => On blocks codecs net) (Triple.perform fun s hs => ?_) fun _ => ?_
    · have keeps : Keeps (On blocks codecs net) s (.call (.buildTree nfs height) : FsOp) :=
        On.keeps_of_read (.inr ⟨_, rfl⟩)
      exact ⟨⟨hs.1, keeps⟩, (keeps hs.1).1⟩
    refine Triple.bind Triple.lift_ok fun tree => Triple.assume (fun _ hs => hs.2) fun ok => ?_
    have from_ : TreeFrom blocks codecs net tree := ⟨nfs, of, ok⟩
    exact Triple.bind ((saveTreeCheckpoint_isolated fits from_).conseq (fun _ hs => hs.1)
      fun _ _ hs => hs) fun _ => Triple.pure fun _ hs => ⟨hs, from_⟩

/-- The tiers of an export describe such a tree. -/
lemma exportAll_isolated (of : TreeFrom blocks codecs net tree) :
    Triple (MarkedStep blocks codecs net) (On blocks codecs net)
      (exportAll codecs.metadata tree net (some height)) fun _ => On blocks codecs net := by
  refine exportAll_only.triple fun s o ho on => ?_
  have keeps : Keeps (On blocks codecs net) s o := by
    rcases ho with aside | ⟨tier0Bytes, rows, rowBytes, rfl⟩
    · exact aside.keepsOn (by decide)
    · exact On.keeps_create fun p hp => ⟨net, height, tree, tier0Bytes, rows, rowBytes, of, hp⟩
  exact ⟨⟨on, keeps⟩, (keeps on).1⟩

/-- An export keeps the directory of its network. -/
lemma exportStage_isolated {ch : Nat} (fits : height < U64) :
    Triple (MarkedStep blocks codecs net) (On blocks codecs net) (exportStage codecs net ch height)
      fun _ => On blocks codecs net := by
  refine Triple.bind (tiersCompleteForHeight_only.reads fun _ _ on => On.read on) ?_
  intro b
  cases b with
  | true => exact Triple.pure fun _ hs => hs.1
  | false =>
    refine Triple.bind (exportNullifiers_only.reads fun _ _ hs => On.read hs.1) ?_
    intro nfs
    refine Triple.assume (fun s hs => exportNullifiers_of hs.1.1 hs.2) fun of => ?_
    refine Triple.bind ((Prog.Only.marked removeStaleTree_only (by simp)).conseq (fun _ hs => hs.1.1)
      fun _ _ hs => hs) fun _ => ?_
    refine Triple.bind (loadOrBuildTree_isolated fits of) fun tree => ?_
    exact Triple.assume (fun _ hs => hs.2) fun from_ =>
      (exportAll_isolated from_).conseq (fun _ hs => hs.1) fun _ _ hs => hs

/-- Stages 2 and 3 keep it. -/
lemma buildStage_isolated (fits : height < U64) :
    Triple (MarkedStep blocks codecs args.zcashNetwork) (On blocks codecs args.zcashNetwork)
      (buildStage codecs args height) fun _ _ => True := by
  refine Triple.bind (loadCheckpoint_triple fun s on => On.read on) ?_
  intro r
  cases r with
  | none => exact Triple.lift fun _ _ h => by cases h
  | some e =>
    refine Triple.bind Triple.lift_ok fun _ => ?_
    refine Triple.bind ((Prog.Only.marked removeStaleTree_only (by simp)).conseq (fun _ hs => hs.1.1)
      fun _ _ hs => hs) fun _ => ?_
    exact Triple.bind (Triple.attempt (exportStage_isolated fits)) fun _ =>
      Triple.lift fun _ _ _ _ => trivial

end Export

end NullifierPir.NfServer.CmdSync
