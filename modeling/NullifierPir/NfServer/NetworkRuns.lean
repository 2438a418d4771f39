import NullifierPir.NfServer.Isolation

/-!
# Runs of both networks

Every state that sync commands of mainnet and testnet leave or are cut in keeps the networks apart
(`run_isolates_networks`). It takes that no sync starts where `nullifiers.bin` is shorter than the
checkpoint says (`SyncsCovered`): truncating to the checkpoint then fills the file up with zero bytes. A
reset that is cut between the two files leads there (`run_stores_zero_bytes`).
-/

namespace NullifierPir.NfServer.CmdSync
open Rust ByteString Crash Imt NullifierPir.Types NullifierPir.Ingest NullifierPir.Export

section Commands

variable (blocks : ZcashNetwork → CompactBlock → Prop) (codecs : Codecs)

/-- A run whose servers stream only blocks of a network they report; their tips fit 64 bits. -/
structure Reported (args : Args) : Prop where
  servers : ∀ l ∈ args.lwds, ReportsItsNetwork blocks l
  tip : ∀ h, args.chainTip = .ok h → h < U64

/-- A sync to the height, if there is one, starts where the data is as long as the checkpoint says. -/
def FitForSync (height : Nat) (s : Dir) : Prop :=
  (∀ cp, s .nullifiersCheckpoint = some cp → (decodeEntry cp 0).1 < height) → Covered s

/-- The condition on a run, for the directory it starts in: it resets first, or the marker is not that
of its network, or it is fit for its sync. -/
def SyncsCovered (args : Args) (s : Dir) : Prop :=
  args.syncReset = true ∨ (s .datasetMarker = some (markerLine codecs args.zcashNetwork) →
    ∀ snapshotHeight height, exportTarget args = .ok (snapshotHeight, height) → FitForSync height s)

/-- Directories that runs of both networks leave, finished or cut by a crash. -/
inductive NetworkRuns (allowed : Args → Dir → Prop) : Dir → Prop
  | fresh : NetworkRuns allowed fun _ => none
  | run {s args} : NetworkRuns allowed s → Reported blocks args → allowed args s →
      NetworkRuns allowed ((run codecs args).after s)
  | crash {s s' s'' args} : NetworkRuns allowed s → Reported blocks args → allowed args s →
      Interrupted s (CmdSync.run codecs args s).1 s' → LoseTail Unsynced s' s'' →
      NetworkRuns allowed s''

/-- Between its checks and its sync a run finds the directory of its network, or has cleared it. -/
def Prepared (net : ZcashNetwork) (s : Dir) : Prop :=
  On blocks codecs net s ∨ Isolated blocks codecs s ∧ Cleared s

variable {blocks codecs} {net : ZcashNetwork} {args : Args} {s s' : Dir} {snapshotHeight : Option Nat}
  {height : Nat}

/-- Either way it is isolated. -/
lemma Prepared.isolated (prepared : Prepared blocks codecs net s) : Isolated blocks codecs s :=
  prepared.elim On.isolated And.left

/-- A checkpoint is that of the network. -/
lemma Prepared.on {cp : Bytes} (prepared : Prepared blocks codecs net s)
    (hcp : s .nullifiersCheckpoint = some cp) : On blocks codecs net s := by
  refine prepared.resolve_right ?_
  rintro ⟨_, cleared⟩
  rw [cleared _ (by decide)] at hcp
  cases hcp

/-- Reading what is not there is harmless. -/
lemma Prepared.read {n : DataFile} (prepared : Prepared blocks codecs net s) :
    IsolatedStep blocks codecs s (.read n) := by
  rcases prepared with on | ⟨_, cleared⟩
  · exact read_isolatedStep on.marked
  · refine ⟨fun h => ⟨h, fun _ ht => by cases ht⟩, ?_⟩
    intro _ n hn hsome
    have hroot : ∀ n ∈ RAW_DATASET_ARTIFACTS, n ∈ ROOT_ARTIFACTS ++ TIER_ARTIFACTS := by decide
    rw [cleared n (hroot n hn)] at hsome
    cases hsome

/-- Rebuilding the index leaves the data. -/
lemma rebuildIndex_isolated :
    Triple (IsolatedStep blocks codecs) (fun s => Prepared blocks codecs net s ∧ FitForSync height s)
      rebuildIndex fun _ s => Prepared blocks codecs net s ∧ FitForSync height s := by
  refine Triple.bind exists_triple ?_
  intro b
  cases b with
  | true => exact Triple.pure fun _ hs => hs.1
  | false =>
    refine Triple.bind (loadCheckpoint_triple fun s hs => hs.1.1.read) ?_
    intro r
    cases r with
    | none => exact Triple.pure fun _ hs => hs.1.1
    | some e =>
      refine Triple.perform fun s hs => ?_
      obtain ⟨⟨⟨prepared, fit⟩, _⟩, hload⟩ := hs
      obtain ⟨cp, hcp, _⟩ := Option.map_eq_some_iff.mp hload.symm
      have on := prepared.on hcp
      have keeps : Keeps (On blocks codecs net) s
          (.append .nullifiersIndex (encodeEntry e.1 e.2) : FsOp) :=
        On.keeps_append fun _ _ => trivial
      have hsame : ∀ n ≠ DataFile.nullifiersIndex,
          (Op.append .nullifiersIndex (encodeEntry e.1 e.2) : FsOp).apply s n = s n := fun n hn => by
        rw [apply_append, if_neg hn]
      refine ⟨(show MarkedStep blocks codecs net s _ from ⟨on, keeps⟩).isolatedStep,
        .inl (keeps on).1, fun hlow data cp' hdata hcp' => ?_⟩
      rw [hsame _ (by simp)] at hdata hcp'
      exact fit (fun cp'' hcp'' => hlow cp'' ((hsame _ (by simp)).trans hcp'')) data cp' hdata hcp'

/-- The sync stage leaves the directory of the network. -/
lemma syncStage_isolated {localCp : Option (Nat × Nat)} (reported : Reported blocks args) :
    Triple (IsolatedStep blocks codecs)
      (fun s => (Prepared blocks codecs args.zcashNetwork s ∧ FitForSync height s) ∧
        localCp = (s .nullifiersCheckpoint).map fun cp => decodeEntry cp 0)
      (syncStage codecs args height (localCp.map Prod.fst))
      fun _ => On blocks codecs args.zcashNetwork := by
  rw [syncStage]
  split
  · rename_i hlow
    refine Triple.bind ((sync_isolated reported.servers).conseq (fun s hs => ?_) fun _ _ hs => hs)
      fun r => Triple.isolated (Prog.Only.marked invalidate_only (by simp))
    obtain ⟨⟨prepared, fit⟩, hload⟩ := hs
    refine ⟨prepared.isolated, fit fun cp hcp => ?_⟩
    rw [hcp] at hload
    rw [hload] at hlow
    exact of_decide_eq_true hlow
  · rename_i hlow
    refine Triple.pure fun s hs => ?_
    obtain ⟨⟨prepared, _⟩, hload⟩ := hs
    cases hcp : s .nullifiersCheckpoint with
    | none =>
      rw [hcp] at hload
      rw [hload] at hlow
      exact absurd rfl hlow
    | some cp => exact prepared.on hcp

/-- An export height fits 64 bits. -/
lemma exportTarget_fits (reported : Reported blocks args)
    (ok : exportTarget args = .ok (snapshotHeight, height)) : height < U64 := by
  rw [exportTarget] at ok
  obtain ⟨snapshot, _, ok⟩ := bind_eq_ok.mp ok
  obtain ⟨_, _, ok⟩ := bind_eq_ok.mp ok
  obtain ⟨tip, htip, ok⟩ := bind_eq_ok.mp ok
  obtain ⟨target, htarget, ok⟩ := bind_eq_ok.mp ok
  obtain ⟨_, _, ok⟩ := bind_eq_ok.mp ok
  cases ok
  have hfits := reported.tip tip (context_eq_ok.mp htip)
  have hle : target ≤ tip := by
    rw [cappedTip] at htarget
    split at htarget
    · exact (Except.ok.inj htarget).ge
    · obtain ⟨_, _, htarget⟩ := bind_eq_ok.mp htarget
      obtain rfl := Except.ok.inj htarget
      exact Nat.min_le_left _ _
  have hsnapshot : snapshotHeight.elim target (min target) ≤ target := by
    cases snapshotHeight with
    | none => exact le_rfl
    | some h => exact Nat.min_le_left _ _
  omega

/-- The retry loop keeps the networks apart. -/
lemma runLoop_isolated {fuel : Nat} (reported : Reported blocks args) (fits : height < U64) :
    Triple (IsolatedStep blocks codecs)
      (fun s => Prepared blocks codecs args.zcashNetwork s ∧ FitForSync height s)
      (runLoop codecs args snapshotHeight height fuel) fun _ _ => True := by
  induction fuel with
  | zero => exact Triple.lift fun _ _ h => by cases h
  | succ fuel ih =>
    refine Triple.bind rebuildIndex_isolated fun _ => ?_
    refine Triple.bind (loadCheckpoint_triple fun s hs => hs.1.read) fun r => ?_
    dsimp only
    split
    · refine Triple.bind Triple.lift_ok fun _ => ?_
      refine Triple.bind (((deleteSyncArtifacts_triple fun _ _ => remove_isolatedStep).keeping
        fun _ _ step => step.keeps).conseq (fun s hs => ⟨hs.1.1.1.isolated, hs⟩)
        fun _ _ hs => hs) fun _ => ?_
      exact ih.conseq (fun s hs => ⟨.inr hs, fun _ => covered_of_none (hs.2 _ (by decide))⟩)
        fun _ _ hs => hs
    · exact Triple.bind (syncStage_isolated reported) fun _ =>
        Triple.isolated (buildStage_isolated fits)

/-- Every step of a run keeps the networks apart. -/
lemma run_isolated (reported : Reported blocks args) :
    Triple (IsolatedStep blocks codecs)
      (fun s => Isolated blocks codecs s ∧ SyncsCovered codecs args s) (run codecs args)
      fun _ _ => True := by
  let Fits : Dir → Prop := fun s => ∀ snapshotHeight height,
    exportTarget args = .ok (snapshotHeight, height) → FitForSync height s
  have fits_of_none : ∀ s : Dir, s .nullifiersBin = none → Fits s :=
    fun s hbin _ _ _ _ => covered_of_none hbin
  refine Triple.seq (fun _ s => Isolated blocks codecs s ∧
    (s .datasetMarker = some (markerLine codecs args.zcashNetwork) → Fits s)) ?_ fun _ => ?_
  · rw [resetFirst]
    split
    · refine ((deleteSyncArtifacts_triple fun _ _ => remove_isolatedStep).keeping
        fun _ _ step => step.keeps).conseq (fun s hs => ⟨hs.1, hs⟩) fun _ s hs => ⟨hs.1, fun _ => ?_⟩
      exact fits_of_none s (hs.2 _ (by decide))
    · rename_i hflag
      exact Triple.pure fun s hs => ⟨hs.1, hs.2.resolve_left hflag⟩
  · refine Triple.bind (ensureIronwoodDataset_isolated fun s hart =>
      fits_of_none s (hart _ (by decide))) fun _ => Triple.bind Triple.lift_ok ?_
    rintro ⟨snapshotHeight, height⟩
    refine Triple.assume (fun _ hs => hs.2) fun htarget => ?_
    exact (runLoop_isolated reported (exportTarget_fits reported htarget)).conseq
      (fun s hs => ⟨.inl hs.1.1, hs.1.2 _ _ htarget⟩) fun _ _ hs => hs

/-- What is lost of the index changes nothing. -/
lemma Isolated.loseTail (isolated : Isolated blocks codecs s) (lost : LoseTail Unsynced s s') :
    Isolated blocks codecs s' := by
  have hsame : ∀ n ≠ DataFile.nullifiersIndex, s' n = s n := fun n hn => LoseTail.eq lost hn
  refine ⟨isolated.dataset.imp (fun hnone => (hsame _ (by simp)).trans hnone) ?_, ?_⟩
  · rintro ⟨net, on⟩
    refine ⟨net, by rw [hsame _ (by simp)]; exact on.marked, fun n data hdata => ?_⟩
    by_cases hn : n = .nullifiersIndex
    · subst hn
      trivial
    · exact on.files n data ((hsame n hn).symm.trans hdata)
  · rw [hsame _ (by simp)]
    exact isolated.metadata

/-- Directories of covered runs are isolated. -/
lemma NetworkRuns.isolated (runs : NetworkRuns blocks codecs (SyncsCovered codecs) s) :
    Isolated blocks codecs s := by
  induction runs with
  | fresh => exact ⟨.inl rfl, fun _ _ h => by cases h⟩
  | run _ reported covered ih =>
    obtain ⟨hsteps, _⟩ := run_isolated reported _ ⟨ih, covered⟩
    exact (hsteps.mono fun _ _ step => step.keeps).exec ih
  | crash _ reported covered cut lost ih =>
    obtain ⟨hsteps, _⟩ := run_isolated reported _ ⟨ih, covered⟩
    exact ((hsteps.mono fun _ _ step => step.keeps).interrupted ih cut).loseTail lost

/-- A marker check that fails has written nothing. -/
lemma ensureIronwoodDataset_fails {json : Json DatasetMarker} {e : Fault}
    (fails : (ensureIronwoodDataset json net s).2 = .error e) :
    (ensureIronwoodDataset json net).after s = s := by
  rw [ensureIronwoodDataset] at fails ⊢
  cases hmarker : (s .datasetMarker).isSome with
  | true =>
    rw [Prog.after, exists_bind hmarker, if_pos rfl]
    exact Prog.Only.after_self (.bind (readFile_only trivial) fun _ =>
      .bind .lift fun _ => .bind .lift fun _ => .lift)
  | false =>
    rw [exists_bind hmarker] at fails
    rw [Prog.after, exists_bind hmarker]
    cases hfind : RAW_DATASET_ARTIFACTS.find? fun n => (s n).isSome with
    | some n =>
      rw [if_neg (by simp), Prog.inspect_bind hfind]
      rfl
    | none =>
      rw [if_neg (by simp), Prog.inspect_bind hfind] at fails
      cases fails

/-- What the files of a directory are to say of the networks: beside a marker that decodes, the data
is of its network, and metadata that parses describes a tree of nullifiers of the network it names. -/
structure Apart (blocks : ZcashNetwork → CompactBlock → Prop) (codecs : Codecs) (s : Dir) : Prop where
  dataset : ∀ text marker, s .datasetMarker = some text → codecs.marker.decode text = .ok marker →
    ∀ n data, s n = some data → FileOf blocks codecs marker.zcashNetwork n data
  metadata : ∀ text root, s .pirRoot = some text → codecs.metadata.decode text = .ok root →
    ∃ height tree tier0Bytes rows rowBytes, TreeFrom blocks codecs root.zcashNetwork tree ∧
      root = exportMetadata tree root.zcashNetwork (some height) COMPILED_PIR_LAYOUT tier0Bytes rows
        rowBytes

/-- An isolated directory keeps the networks apart. -/
lemma Isolated.apart (isolated : Isolated blocks codecs s) : Apart blocks codecs s := by
  refine ⟨?_, ?_⟩
  · intro text marker htext hdecode
    rcases isolated.dataset with hnone | ⟨net, on⟩
    · rw [htext] at hnone
      cases hnone
    · cases htext.symm.trans on.marker
      cases hdecode.symm.trans decode_markerLine
      exact on.files
  · intro text root htext hdecode
    obtain ⟨net, height, tree, tier0Bytes, rows, rowBytes, of, hpre⟩ :=
      isolated.metadata .main text htext
    by_cases hwhole : text = codecs.metadata.encode
        (exportMetadata tree net (some height) COMPILED_PIR_LAYOUT tier0Bytes rows rowBytes)
    · rw [hwhole, codecs.metadata.decode_encode] at hdecode
      cases hdecode
      exact ⟨height, tree, tier0Bytes, rows, rowBytes, of, rfl⟩
    · exact absurd hdecode (codecs.metadata.decode_cut _ _ _ hpre hwhole)

/-- In every run wherever it is cut: a dataset is of the network of its marker, what is left without a
marker is not used, metadata names the network its tree is of, and a marker check that fails leaves the
directory as it is. -/
theorem run_isolates_networks (runs : NetworkRuns blocks codecs (SyncsCovered codecs) s)
    (reported : Reported blocks args) (covered : SyncsCovered codecs args s) :
    (∀ s', Interrupted s (run codecs args s).1 s' → Apart blocks codecs s') ∧
      (∀ ops o rest, (run codecs args s).1 = ops ++ o :: rest → LeavesAlone (exec s ops) o) ∧
      ∀ s' net e, (ensureIronwoodDataset codecs.marker net s').2 = .error e →
        (ensureIronwoodDataset codecs.marker net).after s' = s' := by
  obtain ⟨hsteps, _⟩ := run_isolated reported _ ⟨runs.isolated, covered⟩
  refine ⟨fun s' cut => ?_, fun ops o rest hops => ?_, fun s' net e fails =>
    ensureIronwoodDataset_fails fails⟩
  · exact ((hsteps.mono fun _ _ step => step.keeps).interrupted runs.isolated cut).apart
  · rw [hops] at hsteps
    exact (steps_append.mp hsteps).2.1.alone

end Commands

section Sample

variable {blocks : ZcashNetwork → CompactBlock → Prop} {codecs : Codecs} {net : ZcashNetwork}
  {s s' : Dir} {allowed : Args → Dir → Prop}

/-- A mainnet block with one nullifier. -/
def mainBlock : Chain .main where
  txs := fun h => if h = 3428143 then [[3]] else []
  tip := 3428150
  tip_lt := by decide
  fits := by decide

/-- The blocks of the two sample chains. -/
def sampleBlocks : ZcashNetwork → CompactBlock → Prop
  | .main, b => ∃ h, b = mainBlock.block h
  | .test, b => ∃ h, b = twoBlocks.block h

/-- A mainnet run. -/
def mainRun (reset : Bool) : Args where
  zcashNetwork := .main
  maxHeight := some 3428150
  nonInteractive := true
  invalidateAfterBlocks := false
  syncReset := reset
  console := ⟨"", false, ""⟩
  snapshotHeight := .ok none
  chainTip := .ok 3428150
  lwds := [mainBlock.server]

/-- A testnet run that resets. -/
def resetTo (height : Nat) : Args := { syncTo height with syncReset := true }

/-- Codecs of the sample runs, which write no tree. -/
def markerCodecs : Codecs := sampleCodecs ⟨0, 0, [], [], .replicate _ 0⟩

/-- A chain's own server streams only its blocks, and reports its network. -/
lemma Chain.reported {c : Chain net} {args : Args} (of : ∀ h, blocks net (c.block h))
    (hlwds : args.lwds = [c.server]) (htip : args.chainTip = .ok c.tip) : Reported blocks args where
  servers := by
    intro l hl net' h state ok hnet start stop bs hbs b hb
    rw [hlwds] at hl
    obtain rfl := List.mem_singleton.mp hl
    cases ok
    cases hbs
    obtain ⟨h', _, rfl⟩ := List.mem_map.mp hb
    have hname : net.asStr = net'.asStr := hnet
    obtain rfl : net = net' := by
      cases net <;> cases net' <;> first | rfl | exact absurd hname (by decide)
    exact of h'
  tip := by
    intro h ok
    rw [htip] at ok
    cases ok
    have := c.tip_lt
    simp only [U64]
    omega

/-- Mainnet runs are reported. -/
lemma mainRun_reported {reset : Bool} : Reported sampleBlocks (mainRun reset) :=
  Chain.reported (c := mainBlock) (fun h => ⟨h, rfl⟩) rfl rfl

/-- Testnet runs are reported. -/
lemma syncTo_reported {height : Nat} : Reported sampleBlocks (syncTo height) :=
  Chain.reported (c := twoBlocks) (fun h => ⟨h, rfl⟩) rfl rfl

/-- Without `nullifiers.bin` a run is fit for its sync. -/
lemma syncsCovered_of_none {args : Args} (hbin : s .nullifiersBin = none) :
    SyncsCovered codecs args s :=
  .inr fun _ _ _ _ _ => covered_of_none hbin

/-- Two cut runs store the first testnet block. -/
lemma networkRuns_stored (fresh : allowed (syncTo 4134000) fun _ => none)
    (marked : allowed (syncTo 4134000) markedDir) :
    NetworkRuns sampleBlocks markerCodecs allowed (storedDir [5]) :=
  .crash (.crash .fresh syncTo_reported fresh (run_interrupted_marked rfl) loseTail_refl)
    syncTo_reported marked (run_interrupted_stored rfl) loseTail_refl

/-- Only the marker of mainnet is there. -/
def mainMarked : Dir
  | .datasetMarker => some (markerText .main ++ [10])
  | _ => none

/-- The mainnet block is stored. -/
def mainStored : Dir
  | .datasetMarker => some (markerText .main ++ [10])
  | .nullifiersBin => some (encodeWords [3])
  | .nullifiersCheckpoint => some (encodeEntry 3428150 32)
  | .nullifiersIndex => some (encodeEntry 3428150 32)
  | _ => none

/-- A mainnet run that resets the testnet dataset and is cut behind its marker. -/
lemma run_interrupted_reset :
    Interrupted (storedDir [5]) (run markerCodecs (mainRun true) (storedDir [5])).1 mainMarked := by
  have hreset : resetFirst (mainRun true) (storedDir [5]) =
      ([.remove .nullifiersBin, .remove .nullifiersCheckpoint, .remove .nullifiersIndex,
          .remove .datasetMarker], .ok ()) := rfl
  have hcleared : (resetFirst (mainRun true)).after (storedDir [5]) = fun _ => none := by
    rw [Prog.after, hreset]
    funext n
    cases n <;> rfl
  refine interrupted_bind_ok (a := ()) (by rw [hreset]) ?_
  rw [hcleared]
  refine interrupted_bind ?_
  have hdir : mainMarked = (ensureIronwoodDataset markerJson .main).after fun _ => none := by
    funext n
    cases n <;> rfl
  rw [hdir]
  exact .exec

/-- The next mainnet run is cut behind its cycle. -/
lemma run_interrupted_main :
    Interrupted mainMarked (run markerCodecs (mainRun false) mainMarked).1 mainStored := by
  have hopen : openSync markerJson [mainBlock.server] .main (some 3428150) mainMarked =
      ([.read .datasetMarker, .read .datasetMarker],
        .ok ⟨[mainBlock.server], 3428150, 3428142, 3428150⟩) := rfl
  have hdir : mainStored = exec mainMarked
      (syncCycle [mainBlock.server] 3428143 3428150 mainMarked).1 := by
    funext n
    cases n <;> rfl
  refine run_interrupted_sync rfl rfl (show exportTarget (mainRun false) = .ok (none, 3428150) from rfl)
    rfl (show (loadCheckpoint mainMarked).2 = .ok none from rfl) (fun _ h => by cases h) rfl
    (sync_interrupted hopen (by decide) (by decide) ?_)
  rw [hdir]
  exact .exec

/-- One data directory, first of testnet, then reset and of mainnet: the stored nullifier is
mainnet's. -/
theorem run_isolates_networks_switched :
    NetworkRuns sampleBlocks markerCodecs (SyncsCovered markerCodecs) mainMarked ∧
      Interrupted mainMarked (run markerCodecs (mainRun false) mainMarked).1 mainStored ∧
      Apart sampleBlocks markerCodecs mainStored ∧
      FileOf sampleBlocks markerCodecs .main .nullifiersBin (encodeWords [3]) := by
  have runs : NetworkRuns sampleBlocks markerCodecs (SyncsCovered markerCodecs) mainMarked :=
    .crash (networkRuns_stored (syncsCovered_of_none rfl) (syncsCovered_of_none rfl))
      mainRun_reported (.inl rfl) run_interrupted_reset
      loseTail_refl
  have apart := (run_isolates_networks runs mainRun_reported (syncsCovered_of_none rfl)).1 _
    run_interrupted_main
  exact ⟨runs, run_interrupted_main, apart,
    apart.dataset _ (currentMarker .main) rfl rfl .nullifiersBin _ rfl⟩

/-- The stored testnet directory with other data. -/
def cutDir (bin : Option Bytes) : Dir
  | .nullifiersBin => bin
  | n => storedDir [] n

/-- A reset that is cut behind `nullifiers.bin` leaves the checkpoint. -/
lemma run_interrupted_cut :
    Interrupted (storedDir [5]) (run markerCodecs (resetTo 4134000) (storedDir [5])).1
      (cutDir none) := by
  have hdir : cutDir none = (Op.remove .nullifiersBin : FsOp).apply (storedDir [5]) := by
    funext n
    cases n <;> rfl
  rw [hdir]
  exact interrupted_bind (.step .stop)

/-- The next run starts at the checkpoint and is cut while it opens the file for its append. -/
lemma run_interrupted_append :
    Interrupted (cutDir none) (run markerCodecs (syncTo 4134010) (cutDir none)).1
      (cutDir (some [])) := by
  have hopen : openSync markerJson [twoBlocks.server] .test (some 4134010) (cutDir none) =
      ([.read .datasetMarker, .read .datasetMarker, .read .nullifiersCheckpoint],
        .ok ⟨[twoBlocks.server], 4134010, 4134000, 4134010⟩) := rfl
  have hdir : cutDir (some []) = Function.update (cutDir none) .nullifiersBin (some []) := by
    funext n
    cases n <;> rfl
  refine run_interrupted_sync rfl rfl syncTo_target_next rfl
    (show (loadCheckpoint (cutDir none)).2 = .ok (some (4134000, 32)) from rfl)
    (fun _ h => by cases h; decide) rfl (sync_interrupted hopen (by decide) (by decide) ?_)
  refine interrupted_bind_ok (a := ()) rfl ?_
  rw [hdir]
  change Interrupted (cutDir none) (.append .nullifiersBin (encodeWords [7]) :: _) _
  exact .torn (.append (List.nil_prefix))

/-- The one after it fills the file up to the checkpoint. -/
lemma run_interrupted_zeros :
    Interrupted (cutDir (some [])) (run markerCodecs (syncTo 4134010) (cutDir (some []))).1
      (cutDir (some (List.replicate 32 0))) := by
  have hopen : openSync markerJson [twoBlocks.server] .test (some 4134010) (cutDir (some [])) =
      ([.read .datasetMarker, .read .datasetMarker, .read .nullifiersCheckpoint,
          .setLen .nullifiersBin 32],
        .ok ⟨[twoBlocks.server], 4134010, 4134000, 4134010⟩) := rfl
  have hdir : cutDir (some (List.replicate 32 0)) = exec (cutDir (some []))
      (openSync markerJson [twoBlocks.server] .test (some 4134010) (cutDir (some []))).1 := by
    rw [hopen]
    funext n
    cases n <;> rfl
  refine run_interrupted_sync rfl rfl syncTo_target_next rfl
    (show (loadCheckpoint (cutDir (some []))).2 = .ok (some (4134000, 32)) from rfl)
    (fun _ h => by cases h; decide) rfl ?_
  rw [show (syncTo 4134010).lwds = [twoBlocks.server] from rfl, sync_eq, hdir]
  exact interrupted_bind .exec

/-- The sample nullifiers are 5 and 7. -/
lemma nullifierOf_twoBlocks {nf : Bytes} (of : NullifierOf sampleBlocks .test nf) :
    nf = Fp.toRepr 5 ∨ nf = Fp.toRepr 7 := by
  obtain ⟨_, ⟨h, rfl⟩, tx, htx, hnf⟩ := of
  obtain ⟨nfs, hnfs, rfl⟩ := List.mem_map.mp htx
  obtain ⟨x, hx, rfl⟩ := List.mem_map.mp hnf
  simp only [twoBlocks] at hnfs
  split at hnfs
  · simp_all
  · split at hnfs
    · simp_all
    · cases hnfs

/-- After a reset that was cut between `nullifiers.bin` and its checkpoint, a sync fills the file with
zero bytes beside the marker of testnet. -/
theorem run_stores_zero_bytes :
    NetworkRuns sampleBlocks markerCodecs (fun _ _ => True) (cutDir (some [])) ∧
      Reported sampleBlocks (syncTo 4134010) ∧
      Interrupted (cutDir (some [])) (run markerCodecs (syncTo 4134010) (cutDir (some []))).1
        (cutDir (some (List.replicate 32 0))) ∧
      ¬ Apart sampleBlocks markerCodecs (cutDir (some (List.replicate 32 0))) := by
  refine ⟨?_, syncTo_reported, run_interrupted_zeros, fun apart => ?_⟩
  · have reset : Reported sampleBlocks (resetTo 4134000) :=
      Chain.reported (c := twoBlocks) (fun h => ⟨h, rfl⟩) rfl rfl
    exact .crash (.crash (networkRuns_stored trivial trivial) reset trivial run_interrupted_cut
      loseTail_refl) syncTo_reported trivial run_interrupted_append loseTail_refl
  · obtain ⟨nfs, words, hpre⟩ := apart.dataset _ (currentMarker .test) rfl rfl .nullifiersBin _ rfl
    cases nfs with
    | nil => exact absurd hpre.length_le (by simp)
    | cons nf nfs =>
      have hzero : List.replicate 32 0 = nf.val := by
        rw [List.flatMap_cons] at hpre
        refine List.IsPrefix.eq_of_length
          (List.prefix_of_prefix_length_le hpre (List.prefix_append _ _) ?_) ?_
        · rw [nf.property]
          rfl
        · rw [nf.property]
          rfl
      rcases nullifierOf_twoBlocks (words nf List.mem_cons_self) with h | h
      · exact absurd (hzero.trans h) (by decide)
      · exact absurd (hzero.trans h) (by decide)

end Sample

end NullifierPir.NfServer.CmdSync
