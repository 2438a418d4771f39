import NullifierPir.Ingest.Chain

/-!
# What a sync does to the data directory

`SyncOp` lists every file operation of `sync`, each with the state it is performed in. It is proved
once, as triples along the program, from a directory whose data is `Sound`: `nullifiers.bin` is a byte
prefix of the chain's stream and the checkpoint, if there is one, names a block end inside it.
Between cycles the directory is exactly at a height (`AtHeight`). What survives a crash follows from
`SyncOp` alone (`SyncOp.keeps_sound`).
-/

namespace NullifierPir.Ingest
open Rust ByteString Crash NullifierPir.Types

section Defs

variable {net : ZcashNetwork}

/-- Data that a crash may leave: a prefix of the stream that covers the checkpoint. -/
structure Sound (c : Chain net) (s : Dir) : Prop where
  bin : ∀ b, s .nullifiersBin = some b → b <+: c.stream
  checkpoint : ∀ cp, s .nullifiersCheckpoint = some cp →
    ∃ h, nu63ActivationHeight net ≤ h ∧ h ≤ c.tip ∧
      cp = encodeEntry h (c.bytesUpTo h).length ∧
      ∃ b, s .nullifiersBin = some b ∧ (c.bytesUpTo h).length ≤ b.length

/-- Exactly the blocks up to `h` are stored and committed; before activation, nothing is. -/
def AtHeight (c : Chain net) (h : Nat) (s : Dir) : Prop :=
  (h + 1 = nu63ActivationHeight net ∧ s .nullifiersCheckpoint = none ∧
    (s .nullifiersBin).getD [] = []) ∨
  (nu63ActivationHeight net ≤ h ∧ h ≤ c.tip ∧
    s .nullifiersCheckpoint = some (encodeEntry h (c.bytesUpTo h).length) ∧
    s .nullifiersBin = some (c.bytesUpTo h))

/-- The marker names the current dataset of `net`. -/
def Marked (json : Json DatasetMarker) (net : ZcashNetwork) (s : Dir) : Prop :=
  ∃ bs m, s .datasetMarker = some bs ∧ json.decode bs = .ok m ∧ m.zcashNetwork = net ∧
    isCurrentDataset m.nullifierPool m.datasetVersion = true

/-- No raw or tree file exists. -/
def NoArtifacts (s : Dir) : Prop := ∀ n ∈ RAW_DATASET_ARTIFACTS, s n = none

/-- The height `resume_height` reads off the checkpoint. -/
def committedHeight (net : ZcashNetwork) (s : Dir) : Nat :=
  match s .nullifiersCheckpoint with
  | some cp => (decodeEntry cp 0).1
  | none => nu63ActivationHeight net - 1

/-- The file operations of a sync, each with the state it is performed in. -/
inductive SyncOp (json : Json DatasetMarker) (c : Chain net) (s : Dir) : FsOp → Prop
  | read {n} : (s .datasetMarker).isSome → SyncOp json c s (.read n)
  | markerTmp : s .datasetMarker = none → NoArtifacts s →
      SyncOp json c s (.create .datasetMarkerTmp (json.encode (currentMarker net) ++ [10]))
  | marker : s .datasetMarker = none → NoArtifacts s →
      s .datasetMarkerTmp = some (json.encode (currentMarker net) ++ [10]) →
      SyncOp json c s (.rename .datasetMarkerTmp .datasetMarker)
  | truncate {h} : Marked json net s → Sound c s → nu63ActivationHeight net ≤ h → h ≤ c.tip →
      s .nullifiersCheckpoint = some (encodeEntry h (c.bytesUpTo h).length) →
      SyncOp json c s (.setLen .nullifiersBin (c.bytesUpTo h).length)
  | clear : Marked json net s → s .nullifiersCheckpoint = none →
      SyncOp json c s (.setLen .nullifiersBin 0)
  | append {h n} : Marked json net s → AtHeight c h s → h + n ≤ c.tip →
      SyncOp json c s (.append .nullifiersBin (encodeWords (c.between (h + 1) n)))
  | checkpointTmp {h} : Marked json net s → nu63ActivationHeight net ≤ h → h ≤ c.tip →
      s .nullifiersBin = some (c.bytesUpTo h) → Sound c s →
      SyncOp json c s
        (.create .nullifiersCheckpointTmp (encodeEntry h (c.bytesUpTo h).length))
  | checkpoint {h} : Marked json net s → nu63ActivationHeight net ≤ h → h ≤ c.tip →
      s .nullifiersBin = some (c.bytesUpTo h) →
      s .nullifiersCheckpointTmp = some (encodeEntry h (c.bytesUpTo h).length) →
      SyncOp json c s (.rename .nullifiersCheckpointTmp .nullifiersCheckpoint)
  | index {h} : Marked json net s → AtHeight c h s →
      SyncOp json c s (.append .nullifiersIndex (encodeEntry h (c.bytesUpTo h).length))

/-- A step of a sync: a file operation or a block request. -/
def SyncStep (json : Json DatasetMarker) (c : Chain net) (s : Dir) (o : FsOp) : Prop :=
  SyncOp json c s o ∨ ∃ i start stop, o = .call (.getBlockRange i start stop)

end Defs

section State

variable {json : Json DatasetMarker} {net : ZcashNetwork} {c : Chain net} {s s' : Dir}

/-- Soundness reads the data and the checkpoint. -/
lemma Sound.congr (sound : Sound c s) (hbin : s' .nullifiersBin = s .nullifiersBin)
    (hcp : s' .nullifiersCheckpoint = s .nullifiersCheckpoint) : Sound c s' := by
  refine ⟨?_, ?_⟩
  · rw [hbin]
    exact sound.bin
  · rw [hbin, hcp]
    exact sound.checkpoint

/-- So does being at a height. -/
lemma AtHeight.congr {h} (at_ : AtHeight c h s) (hbin : s' .nullifiersBin = s .nullifiersBin)
    (hcp : s' .nullifiersCheckpoint = s .nullifiersCheckpoint) : AtHeight c h s' := by
  rw [AtHeight, hbin, hcp]
  exact at_

/-- The mark reads the marker. -/
lemma Marked.congr (m : Marked json net s) (h : s' .datasetMarker = s .datasetMarker) :
    Marked json net s' := by
  rw [Marked, h]
  exact m

/-- A marked directory has a marker. -/
lemma Marked.isSome (m : Marked json net s) : (s .datasetMarker).isSome := by
  obtain ⟨bs, _, h, _⟩ := m
  rw [h]
  rfl

/-- A height in a directory is at least the one before the activation. -/
lemma AtHeight.low {h} (at_ : AtHeight c h s) : nu63ActivationHeight net ≤ h + 1 := by
  rcases at_ with ⟨h, _⟩ | ⟨h, _⟩
  · exact h.ge
  · exact Nat.le_succ_of_le h

/-- The bytes stored at a height. -/
lemma AtHeight.bin {h} (at_ : AtHeight c h s) : (s .nullifiersBin).getD [] = c.bytesUpTo h := by
  rcases at_ with ⟨hact, _, hbin⟩ | ⟨_, _, _, hbin⟩
  · rw [hbin, show h = nu63ActivationHeight net - 1 by omega, Chain.bytesUpTo_pred]
  · rw [hbin]
    rfl

/-- A directory at a height is sound. -/
lemma AtHeight.sound {h} (at_ : AtHeight c h s) : Sound c s := by
  rcases at_ with ⟨_, hcp, hbin⟩ | ⟨hact, htip, hcp, hbin⟩
  · refine ⟨?_, ?_⟩
    · intro b hb
      rw [hb] at hbin
      obtain rfl : b = [] := hbin
      exact List.nil_prefix
    · intro cp h
      rw [hcp] at h
      cases h
  · refine ⟨?_, ?_⟩
    · intro b hb
      rw [hbin] at hb
      cases hb
      exact Chain.bytesUpTo_mono (Nat.le_succ_of_le hact) htip
    · intro cp h
      rw [hcp] at h
      cases h
      exact ⟨_, hact, htip, rfl, _, hbin, le_rfl⟩

/-- From activation on, both files are determined by the height. -/
lemma AtHeight.files {h} (at_ : AtHeight c h s) (hact : nu63ActivationHeight net ≤ h) :
    h ≤ c.tip ∧ s .nullifiersCheckpoint = some (encodeEntry h (c.bytesUpTo h).length) ∧
      s .nullifiersBin = some (c.bytesUpTo h) := by
  rcases at_ with ⟨h', _⟩ | ⟨_, files⟩
  · omega
  · exact files

/-- A directory without data is sound. -/
lemma sound_of_noArtifacts (h : NoArtifacts s) : Sound c s := by
  have hbin : s .nullifiersBin = none := h _ (by simp [RAW_DATASET_ARTIFACTS])
  have hcp : s .nullifiersCheckpoint = none := h _ (by simp [RAW_DATASET_ARTIFACTS])
  refine ⟨?_, ?_⟩
  · intro b hb
    rw [hbin] at hb
    cases hb
  · intro cp h
    rw [hcp] at h
    cases h

/-- A record has 16 bytes. -/
lemma length_encodeEntry {h off} : (encodeEntry h off).length = 16 := by
  simp [encodeEntry]

/-- A record holds both numbers in 64 bits. -/
lemma decodeEntry_encodeEntry_mod {h off} :
    decodeEntry (encodeEntry h off) 0 = (h % U64, off % U64) := by
  have hpow : (256 : Nat) ^ 8 = U64 := by decide
  have h1 : slice (encodeEntry h off) 0 8 = toLe 8 h := by
    rw [encodeEntry, slice_append_left (by simp)]
    have := @slice_zero_length _ (toLe 8 h)
    rwa [length_toLe] at this
  have h2 : slice (encodeEntry h off) (0 + 8) 8 = toLe 8 off := by
    have happ := @slice_append_right _ (toLe 8 h) (toLe 8 off) 0 8
    rw [length_toLe] at happ
    rw [encodeEntry, Nat.zero_add, happ]
    have := @slice_zero_length _ (toLe 8 off)
    rwa [length_toLe] at this
  rw [decodeEntry, h1, h2, ofLe_toLe_mod, ofLe_toLe_mod, hpow]

/-- A record is read back. -/
lemma decodeEntry_encodeEntry {h off} (hh : h < U64) (hoff : off < U64) :
    decodeEntry (encodeEntry h off) 0 = (h, off) := by
  rw [decodeEntry_encodeEntry_mod, Nat.mod_eq_of_lt hh, Nat.mod_eq_of_lt hoff]

/-- The checkpoint of a chain height is read back. -/
lemma decodeEntry_checkpoint {h} (hact : nu63ActivationHeight net ≤ h) (htip : h ≤ c.tip) :
    decodeEntry (encodeEntry h (c.bytesUpTo h).length) 0 = (h, (c.bytesUpTo h).length) := by
  have := c.tip_lt
  apply decodeEntry_encodeEntry
  · simp only [U64]
    omega
  · exact Chain.length_bytesUpTo_lt (Nat.le_succ_of_le hact) htip

/-- Cutting the stored prefix at a committed length leaves the blocks up to that height. -/
lemma resize_committed {h b} (hact : nu63ActivationHeight net ≤ h) (htip : h ≤ c.tip)
    (hb : b <+: c.stream) (hlen : (c.bytesUpTo h).length ≤ b.length) :
    resize b (c.bytesUpTo h).length = c.bytesUpTo h := by
  have hpre : c.bytesUpTo h <+: b :=
    List.prefix_of_prefix_length_le (Chain.bytesUpTo_mono (Nat.le_succ_of_le hact) htip) hb hlen
  rw [resize, Nat.sub_eq_zero_of_le hlen, List.replicate_zero, List.append_nil]
  exact (List.prefix_iff_eq_take.mp hpre).symm

/-- The data covers the checkpoint. -/
lemma Sound.covers {h} (sound : Sound c s) (hact : nu63ActivationHeight net ≤ h) (htip : h ≤ c.tip)
    (hcp : s .nullifiersCheckpoint = some (encodeEntry h (c.bytesUpTo h).length)) :
    ∃ b, s .nullifiersBin = some b ∧ (c.bytesUpTo h).length ≤ b.length := by
  obtain ⟨h', hact', htip', heq, b, hb, hlen⟩ := sound.checkpoint _ hcp
  have hdec := congrArg (fun e => (decodeEntry e 0).1) heq
  simp only [decodeEntry_checkpoint hact htip, decodeEntry_checkpoint hact' htip'] at hdec
  subst hdec
  exact ⟨b, hb, hlen⟩

/-- Truncating to the checkpoint leaves the committed height. -/
lemma Sound.atHeight_truncate {h} (sound : Sound c s) (hact : nu63ActivationHeight net ≤ h)
    (htip : h ≤ c.tip)
    (hcp : s .nullifiersCheckpoint = some (encodeEntry h (c.bytesUpTo h).length)) :
    AtHeight c h ((Op.setLen .nullifiersBin (c.bytesUpTo h).length : FsOp).apply s) := by
  obtain ⟨b, hb, hlen⟩ := sound.covers hact htip hcp
  refine .inr ⟨hact, htip, ?_, ?_⟩
  · rw [apply_setLen, if_neg (by simp), hcp]
  · rw [apply_setLen, if_pos rfl, hb, Option.map_some, resize_committed hact htip (sound.bin b hb) hlen]

/-- Truncating to nothing leaves an empty dataset. -/
lemma atHeight_clear (hcp : s .nullifiersCheckpoint = none) :
    AtHeight c (nu63ActivationHeight net - 1) ((Op.setLen .nullifiersBin 0 : FsOp).apply s) := by
  have := @nu63ActivationHeight_pos net
  refine .inl ⟨by omega, ?_, ?_⟩
  · rw [apply_setLen, if_neg (by simp), hcp]
  · rw [apply_setLen, if_pos rfl]
    cases s .nullifiersBin with
    | none => rfl
    | some b => simp [resize]

/-- An append of the next blocks, whole or torn, stays within the stream. -/
lemma AtHeight.sound_append {h n p} (at_ : AtHeight c h s) (htip : h + n ≤ c.tip)
    (hp : p <+: encodeWords (c.between (h + 1) n))
    (hbin : s' .nullifiersBin = some ((s .nullifiersBin).getD [] ++ p))
    (hcp : s' .nullifiersCheckpoint = s .nullifiersCheckpoint) : Sound c s' := by
  have hpre : (s .nullifiersBin).getD [] ++ p <+: c.stream := by
    rw [at_.bin]
    refine ((List.prefix_append_right_inj _).mpr hp).trans ?_
    rw [← Chain.bytesUpTo_append at_.low]
    exact Chain.bytesUpTo_mono (at_.low.trans (by omega)) htip
  refine ⟨?_, ?_⟩
  · intro b hb
    rw [hbin] at hb
    cases hb
    exact hpre
  · intro cp h
    rw [hcp] at h
    obtain ⟨h', hact, htip', heq, b, hb, hlen⟩ := at_.sound.checkpoint cp h
    refine ⟨h', hact, htip', heq, _, hbin, hlen.trans ?_⟩
    rw [hb, List.length_append]
    exact Nat.le_add_right _ _

/-- The rename of the checkpoint commits the stored height. -/
lemma atHeight_commit {h} (hact : nu63ActivationHeight net ≤ h) (htip : h ≤ c.tip)
    (hbin : s .nullifiersBin = some (c.bytesUpTo h))
    (htmp : s .nullifiersCheckpointTmp = some (encodeEntry h (c.bytesUpTo h).length)) :
    AtHeight c h
      ((Op.rename .nullifiersCheckpointTmp .nullifiersCheckpoint : FsOp).apply s) := by
  refine .inr ⟨hact, htip, ?_, ?_⟩
  · rw [apply_rename htmp, if_neg (by simp), if_pos rfl]
  · rw [apply_rename htmp, if_neg (by simp), if_neg (by simp), hbin]

end State

section Keeps

variable {json : Json DatasetMarker} {net : ZcashNetwork} {c : Chain net} {s : Dir} {o : FsOp}

/-- Operations that avoid the data and the checkpoint keep the data sound. -/
lemma keeps_sound_of_avoids (hbin : o.Avoids .nullifiersBin) (hcp : o.Avoids .nullifiersCheckpoint) :
    Keeps (Sound c) s o := fun sound =>
  ⟨sound.congr hbin.apply hcp.apply, fun _ ht => sound.congr (hbin.torn ht) (hcp.torn ht)⟩

/-- Every operation of a sync keeps the data sound, also when a crash tears it. -/
lemma SyncOp.keeps_sound (op : SyncOp json c s o) : Keeps (Sound c) s o := by
  cases op with
  | read _ => exact keeps_sound_of_avoids trivial trivial
  | markerTmp _ _ => exact keeps_sound_of_avoids (by simp [Op.Avoids]) (by simp [Op.Avoids])
  | marker _ _ _ => exact keeps_sound_of_avoids (by simp [Op.Avoids]) (by simp [Op.Avoids])
  | index _ _ => exact keeps_sound_of_avoids (by simp [Op.Avoids]) (by simp [Op.Avoids])
  | checkpointTmp _ _ _ _ _ => exact keeps_sound_of_avoids (by simp [Op.Avoids]) (by simp [Op.Avoids])
  | truncate _ sound hact htip hcp =>
    intro _
    refine ⟨(sound.atHeight_truncate hact htip hcp).sound, ?_⟩
    intro _ ht
    cases ht
  | clear _ hcp =>
    intro _
    refine ⟨(atHeight_clear hcp).sound, ?_⟩
    intro _ ht
    cases ht
  | append _ at_ htip =>
    intro _
    refine ⟨?_, ?_⟩
    · exact at_.sound_append htip (List.prefix_refl _) (by simp) (by simp)
    · intro s' ht
      cases ht with
      | append hp => exact at_.sound_append htip hp (by simp) (by simp)
  | checkpoint _ hact htip hbin htmp =>
    intro _
    refine ⟨(atHeight_commit hact htip hbin htmp).sound, ?_⟩
    intro _ ht
    cases ht

end Keeps

end NullifierPir.Ingest
