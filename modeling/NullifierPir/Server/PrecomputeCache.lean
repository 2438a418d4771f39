import NullifierPir.Store
import NullifierPir.Types.Ypir

/-!
# The precompute cache

Port of `pir/server/src/precompute_cache.rs` and of `OwnedTierState::new_or_load`. YPIR and BLAKE3 are
third parties: `Ypir` holds the setup, the dump and the load of its state, `Ypir.Lawful` says that a
load inverts a dump and consumes exactly its bytes, and the hash is any function into 32 bytes. That it
does not collide is assumed of the strings that occur (`S`), since no hash is injective on all of them.

A cache file is `Genuine` when it does not record hashes that match another payload. What `write_cache`
installs is genuine (`cacheBytes_genuine`), so over every interleaving of tier replacements, loads,
writes and corruption a hit equals a rebuild (`cache_hit_eq_rebuild`).
-/

namespace NullifierPir.Server
open Rust ByteString Crash NullifierPir.Types

/-- `*b"SVOTEPC1"`. -/
def MAGIC : Bytes := [83, 86, 79, 84, 69, 80, 67, 49]
def SCHEMA_V2 : Nat := 2
def HEADER_BYTES : Nat := 148

/-- Why a cache is not used (Rust `CacheLoadError`). -/
inductive CacheLoadError where
  | notFound
  | badMagic
  | schemaMismatch (found expected : Nat)
  | targetMismatch
  | tierSourceMismatch
  | scenarioMismatch
  | payloadHashMismatch
  | payloadLenMismatch (found expected : Nat)
  | payloadError (msg : String)
  | io (msg : String)
  deriving DecidableEq

/-- A 32-byte digest. -/
abbrev Digest := { bs : Bytes // bs.length = 32 }

/-- Header metadata; the payload follows it on disk (Rust `CacheHeader`). -/
structure CacheHeader where
  targetHash : Digest
  scenarioHash : Digest
  tierSourceHash : Digest
  payloadHash : Digest
  payloadLen : Nat

/-- Header bytes (Rust `CacheHeader::write_to`). -/
def CacheHeader.bytes (h : CacheHeader) : Bytes :=
  MAGIC ++ (toLe 4 SCHEMA_V2 ++ (h.targetHash.val ++ (h.scenarioHash.val ++ (h.tierSourceHash.val ++
    (h.payloadHash.val ++ toLe 8 h.payloadLen)))))

/-- Return the error unless the condition holds. -/
def check (c : Bool) (e : CacheLoadError) : Except CacheLoadError Unit :=
  if c then .ok () else .error e

/-- An opened file, or the error of opening it. -/
def opened (e : CacheLoadError) : Option Bytes → Except CacheLoadError Bytes
  | some bs => .ok bs
  | none => .error e

/-- `read_exact` from the front of the remaining bytes. -/
def readExact (n : Nat) (bs : Bytes) : Except CacheLoadError ({ p : Bytes // p.length = n } × Bytes) :=
  if h : n ≤ bs.length then .ok (⟨bs.take n, List.length_take_of_le h⟩, bs.drop n)
  else .error (.io "cache header truncated")

/-- Parse a header; returns it with the bytes after it (Rust `CacheHeader::read_from`). -/
def CacheHeader.readFrom (bs : Bytes) : Except CacheLoadError (CacheHeader × Bytes) := do
  let magic ← readExact 8 bs
  check (decide (magic.1.val = MAGIC)) .badMagic
  let schema ← readExact 4 magic.2
  check (ofLe schema.1.val == SCHEMA_V2) (.schemaMismatch (ofLe schema.1.val) SCHEMA_V2)
  let targetHash ← readExact 32 schema.2
  let scenarioHash ← readExact 32 targetHash.2
  let tierSourceHash ← readExact 32 scenarioHash.2
  let payloadHash ← readExact 32 tierSourceHash.2
  let payloadLen ← readExact 8 payloadHash.2
  return (⟨targetHash.1, scenarioHash.1, tierSourceHash.1, payloadHash.1, ofLe payloadLen.1.val⟩,
    payloadLen.2)

/-- The YPIR library: setup, dump and load of the server state. A load returns how many bytes it
consumed. -/
structure Ypir where
  ServerState : Type
  OfflineState : Type
  build : Bytes → YpirScenario → Bytes → ServerState × OfflineState
  dumpServer : ServerState → Bytes
  dumpOffline : OfflineState → Bytes
  loadServer : Bytes → YpirScenario → Bytes → Except String (ServerState × Nat)
  loadOffline : Bytes → YpirScenario → Bytes → Except String (OfflineState × Nat)

/-- Loading inverts dumping and consumes exactly its bytes, whose count is a `u64`. -/
structure Ypir.Lawful (y : Ypir) : Prop where
  server : ∀ target sc data rest, y.loadServer target sc
    (y.dumpServer (y.build target sc data).1 ++ rest) =
      .ok ((y.build target sc data).1, (y.dumpServer (y.build target sc data).1).length)
  offline : ∀ target sc data rest, y.loadOffline target sc
    (y.dumpOffline (y.build target sc data).2 ++ rest) =
      .ok ((y.build target sc data).2, (y.dumpOffline (y.build target sc data).2).length)
  size : ∀ target sc data, (y.dumpServer (y.build target sc data).1 ++
    y.dumpOffline (y.build target sc data).2).length < U64

/-- The hashed scenario fields. -/
def scenarioBytes (sc : YpirScenario) : Bytes :=
  toLe 8 sc.numItems ++ toLe 8 sc.itemSizeBits ++ toLe 8 sc.polyLen

section Program

variable (y : Ypir) (blake3 : Bytes → Digest)

/-- Payload of a built state. -/
def Ypir.payload (target : Bytes) (sc : YpirScenario) (data : Bytes) : Bytes :=
  y.dumpServer (y.build target sc data).1 ++ y.dumpOffline (y.build target sc data).2

/-- Load and validate a cache (Rust `try_load_cache`): `cache` is the opened file and `tier` the bytes
that are hashed from the tier file. -/
def tryLoadCache (target : Bytes) (sc : YpirScenario) (cache tier : Option Bytes) :
    Except CacheLoadError (y.ServerState × y.OfflineState) := do
  let file ← opened .notFound cache
  let parsed ← CacheHeader.readFrom file
  let header := parsed.1
  let payload := parsed.2
  check (decide (header.targetHash = blake3 target)) .targetMismatch
  check (decide (header.scenarioHash = blake3 (scenarioBytes sc))) .scenarioMismatch
  let tierBytes ← opened (.io "No such file or directory (os error 2)") tier
  check (decide (header.tierSourceHash = blake3 tierBytes)) .tierSourceMismatch
  let server ← (y.loadServer target sc payload).mapError .payloadError
  let offline ← (y.loadOffline target sc (payload.drop server.2)).mapError .payloadError
  let actualLen := server.2 + offline.2
  check (decide (blake3 (payload.take actualLen) = header.payloadHash)) .payloadHashMismatch
  check (actualLen == header.payloadLen) (.payloadLenMismatch actualLen header.payloadLen)
  check (payload.drop actualLen).isEmpty (.io "trailing bytes after payload")
  return (server.1, offline.1)

/-- The header `write_cache` records. -/
def finalHeader (target : Bytes) (sc : YpirScenario) (data : Bytes) : CacheHeader where
  targetHash := blake3 target
  scenarioHash := blake3 (scenarioBytes sc)
  tierSourceHash := blake3 data
  payloadHash := blake3 (y.payload target sc data)
  payloadLen := (y.payload target sc data).length

/-- A finished cache file. -/
def cacheBytes (target : Bytes) (sc : YpirScenario) (data : Bytes) : Bytes :=
  (finalHeader y blake3 target sc data).bytes ++ y.payload target sc data

/-- Writes to the temporary file: a placeholder header, the payload, the header again. -/
def writeTmp (target : Bytes) (sc : YpirScenario) (data : Bytes) : List FsOp :=
  let final := finalHeader y blake3 target sc data
  let placeholder := { final with payloadHash := ⟨List.replicate 32 0, List.length_replicate⟩, payloadLen := 0 }
  [.create .tier1PrecomputeTmp [], .append .tier1PrecomputeTmp placeholder.bytes,
    .append .tier1PrecomputeTmp (y.payload target sc data),
    .overwrite .tier1PrecomputeTmp final.bytes]

/-- How a `write_cache` ends: the temporary file is renamed into place; an error stops it before that
and the temporary file is removed if it can be; or the process dies. -/
inductive WriteCache (target : Bytes) (sc : YpirScenario) (data : Bytes) (s : Dir) :
    Rust Unit → Dir → Prop
  | written : WriteCache target sc data s (.ok ())
      (exec s (writeTmp y blake3 target sc data ++
        [.rename .tier1PrecomputeTmp .tier1Precompute]))
  | failed {s' msg} : Interrupted s (writeTmp y blake3 target sc data) s' →
      WriteCache target sc data s (bail msg) ((Op.remove .tier1PrecomputeTmp : FsOp).apply s')
  | failedTwice {s' msg} : Interrupted s (writeTmp y blake3 target sc data) s' →
      WriteCache target sc data s (bail msg) s'
  | crashed {s'} : Interrupted s (writeTmp y blake3 target sc data) s' →
      WriteCache target sc data s (panicked "crash") s'

/-- Load the tier state, preferring the cache (Rust `new_or_load`): `tier` is what the load hashes and
`read` what is read on a miss; the write at the end does not affect the result. -/
def newOrLoad (target : Bytes) (sc : YpirScenario) (cache tier read : Option Bytes) :
    Rust ((y.ServerState × y.OfflineState) × Bool) :=
  match tryLoadCache y blake3 target sc cache tier with
  | .ok loaded => return (loaded, true)
  | .error _ => do
    let data ← ofOption s!"read tier file {DataFile.tier1.name}" read
    return (y.build target sc data, false)

end Program

section Genuine

variable {y : Ypir} {blake3 : Bytes → Digest} {S : Set Bytes}

/-- The fields of a scenario are `usize` values. -/
def FitsUsize (sc : YpirScenario) : Prop :=
  sc.numItems < U64 ∧ sc.itemSizeBits < U64 ∧ sc.polyLen < U64

/-- The file records no hashes that match another payload than the one built from what they are
hashes of. -/
def Genuine (y : Ypir) (blake3 : Bytes → Digest) (S : Set Bytes) (file : Bytes) : Prop :=
  ∀ header payload target sc tier, CacheHeader.readFrom file = .ok (header, payload) →
    target ∈ S → scenarioBytes sc ∈ S → tier ∈ S → FitsUsize sc →
    header.targetHash = blake3 target → header.scenarioHash = blake3 (scenarioBytes sc) →
    header.tierSourceHash = blake3 tier → header.payloadHash = blake3 payload →
    payload = y.payload target sc tier

/-- Both parts of a good result are good. -/
lemma loadBind_eq_ok {α β : Type} {x : Except CacheLoadError α} {f : α → Except CacheLoadError β} {b} :
    (x >>= f) = .ok b ↔ ∃ a, x = .ok a ∧ f a = .ok b := by
  cases x with
  | ok a => simp [bind, Except.bind]
  | error e => simp [bind, Except.bind]

/-- A check passes exactly when its condition holds. -/
@[simp] lemma check_eq_ok {c e u} : check c e = .ok u ↔ c = true := by
  cases c with
  | true => simp [check]
  | false => simp [check]

/-- A field is read in front of the rest. -/
lemma readExact_append {n} {p : { p : Bytes // p.length = n }} {rest} :
    readExact n (p.val ++ rest) = .ok (p, rest) := by
  have hle : n ≤ (p.val ++ rest).length := by
    rw [List.length_append, p.property]
    exact Nat.le_add_right _ _
  have htake : (p.val ++ rest).take n = p.val := List.take_left' p.property
  have hdrop : (p.val ++ rest).drop n = rest := List.drop_left' p.property
  rw [readExact, dif_pos hle]
  simp only [htake, hdrop]

/-- A written header is read back. -/
lemma readFrom_bytes {h : CacheHeader} {rest} (hlen : h.payloadLen < U64) :
    CacheHeader.readFrom (h.bytes ++ rest) = .ok (h, rest) := by
  have hschema : ofLe (toLe 4 SCHEMA_V2) = SCHEMA_V2 := ofLe_toLe (by decide)
  have hpay : ofLe (toLe 8 h.payloadLen) = h.payloadLen := ofLe_toLe hlen
  simp only [CacheHeader.readFrom, CacheHeader.bytes, List.append_assoc]
  rw [@readExact_append 8 ⟨MAGIC, rfl⟩]
  simp only [bind, Except.bind, decide_true]
  rw [@readExact_append 4 ⟨toLe 4 SCHEMA_V2, length_toLe⟩]
  simp only [hschema, beq_self_eq_true]
  rw [@readExact_append 32 h.targetHash]
  simp only []
  rw [@readExact_append 32 h.scenarioHash]
  simp only []
  rw [@readExact_append 32 h.tierSourceHash]
  simp only []
  rw [@readExact_append 32 h.payloadHash]
  simp only []
  rw [@readExact_append 8 ⟨toLe 8 h.payloadLen, length_toLe⟩]
  simp only [hpay]
  rfl

/-- The hashed fields determine the scenario. -/
lemma scenarioBytes_injective {sc sc' : YpirScenario} (h : FitsUsize sc) (h' : FitsUsize sc')
    (heq : scenarioBytes sc = scenarioBytes sc') : sc = sc' := by
  obtain ⟨h1, h2, h3⟩ := h
  obtain ⟨h1', h2', h3'⟩ := h'
  obtain ⟨heq, hpoly⟩ := List.append_inj heq (by simp)
  obtain ⟨hitems, hbits⟩ := List.append_inj heq (by simp)
  have hle : ∀ {a b}, a < U64 → b < U64 → toLe 8 a = toLe 8 b → a = b := by
    intro a b ha hb h
    rw [← @ofLe_toLe 8 a ha, h, ofLe_toLe hb]
  cases sc
  cases sc'
  simp only [YpirScenario.mk.injEq]
  exact ⟨hle h1 h1' hitems, hle h2 h2' hbits, hle h3 h3' hpoly⟩

/-- What `write_cache` installs is genuine. -/
lemma cacheBytes_genuine (lawful : y.Lawful) (inj : Set.InjOn blake3 S) {target sc data}
    (ht : target ∈ S) (hs : scenarioBytes sc ∈ S) (hd : data ∈ S) (hfit : FitsUsize sc) :
    Genuine y blake3 S (cacheBytes y blake3 target sc data) := by
  intro header payload target' sc' tier hread ht' hs' hd' hfit' htarget hscenario htier _
  rw [cacheBytes, readFrom_bytes (lawful.size target sc data)] at hread
  cases hread
  obtain rfl := inj ht ht' htarget
  obtain rfl := scenarioBytes_injective hfit hfit' (inj hs hs' hscenario)
  obtain rfl := inj hd hd' htier
  rfl

/-- What `write_cache` installs is loaded again for the same tier bytes. -/
lemma tryLoadCache_cacheBytes (lawful : y.Lawful) {target sc data} :
    tryLoadCache y blake3 target sc (some (cacheBytes y blake3 target sc data)) (some data) =
      .ok (y.build target sc data) := by
  have hserver := lawful.server target sc data (y.dumpOffline (y.build target sc data).2)
  have hoffline := lawful.offline target sc data []
  rw [List.append_nil] at hoffline
  have hread : CacheHeader.readFrom (cacheBytes y blake3 target sc data) =
      .ok (finalHeader y blake3 target sc data, y.payload target sc data) :=
    readFrom_bytes (lawful.size target sc data)
  simp only [tryLoadCache, opened, bind, Except.bind, hread, finalHeader, check, decide_true,
    ↓reduceIte]
  simp only [Ypir.payload, hserver, Except.mapError, List.drop_left, hoffline, ← List.length_append,
    List.take_length, List.drop_length, decide_true, beq_self_eq_true, ↓reduceIte, List.isEmpty_nil]
  rfl

/-- A hit on a genuine file is the state built from the hashed tier bytes. -/
lemma tryLoadCache_genuine (lawful : y.Lawful) {file target sc tier st}
    (genuine : Genuine y blake3 S file) (ht : target ∈ S) (hs : scenarioBytes sc ∈ S) (hd : tier ∈ S)
    (hfit : FitsUsize sc) (ok : tryLoadCache y blake3 target sc (some file) (some tier) = .ok st) :
    st = y.build target sc tier := by
  obtain ⟨_, hfile, ok⟩ := loadBind_eq_ok.mp ok
  cases hfile
  obtain ⟨⟨header, payload⟩, hread, ok⟩ := loadBind_eq_ok.mp ok
  obtain ⟨_, htarget, ok⟩ := loadBind_eq_ok.mp ok
  obtain ⟨_, hscenario, ok⟩ := loadBind_eq_ok.mp ok
  obtain ⟨_, htier, ok⟩ := loadBind_eq_ok.mp ok
  cases htier
  obtain ⟨_, htier, ok⟩ := loadBind_eq_ok.mp ok
  obtain ⟨⟨server, n⟩, hserver, ok⟩ := loadBind_eq_ok.mp ok
  obtain ⟨⟨offline, m⟩, hoffline, ok⟩ := loadBind_eq_ok.mp ok
  obtain ⟨_, hhash, ok⟩ := loadBind_eq_ok.mp ok
  obtain ⟨_, _, ok⟩ := loadBind_eq_ok.mp ok
  obtain ⟨_, hend, ok⟩ := loadBind_eq_ok.mp ok
  obtain rfl := Except.ok.inj ok
  simp only [check_eq_ok, decide_eq_true_eq, List.isEmpty_iff] at htarget hscenario htier hhash hend
  -- nothing follows the consumed bytes, so the recorded hash is that of the whole payload
  have hall : payload.take (n + m) = payload := by
    have := List.take_append_drop (n + m) payload
    rw [hend, List.append_nil] at this
    exact this
  rw [hall] at hhash
  obtain rfl := genuine header payload target sc tier hread ht hs hd hfit htarget hscenario htier
    hhash.symm
  rw [Ypir.payload, lawful.server] at hserver
  obtain ⟨rfl, rfl⟩ := Prod.mk.inj (Except.ok.inj hserver)
  rw [Ypir.payload, List.drop_left] at hoffline
  have hload := lawful.offline target sc tier []
  rw [List.append_nil] at hload
  rw [hload] at hoffline
  obtain ⟨rfl, _⟩ := Prod.mk.inj (Except.ok.inj hoffline)
  rfl

end Genuine

section Runs

variable {y : Ypir} {blake3 : Bytes → Digest} {S : Set Bytes}

/-- Writing the temp file leaves the cache alone. -/
lemma writeTmp_avoids {target sc data} {o : FsOp} (h : o ∈ writeTmp y blake3 target sc data) :
    o.Avoids .tier1Precompute := by
  simp only [writeTmp, List.mem_cons, List.not_mem_nil, or_false] at h
  rcases h with rfl | rfl | rfl | rfl
  · exact DataFile.noConfusion
  · exact DataFile.noConfusion
  · exact DataFile.noConfusion
  · exact DataFile.noConfusion

/-- A write that fails or crashes leaves the installed file. -/
lemma WriteCache.cache_of_not_ok {target sc data s s' r}
    (write : WriteCache y blake3 target sc data s r s') (hr : r ≠ .ok ()) :
    s' .tier1Precompute = s .tier1Precompute := by
  cases write with
  | written => exact absurd rfl hr
  | failed cut =>
    rw [apply_remove, if_neg DataFile.noConfusion]
    exact cut.of_avoids fun o ho => writeTmp_avoids ho
  | failedTwice cut => exact cut.of_avoids fun o ho => writeTmp_avoids ho
  | crashed cut => exact cut.of_avoids fun o ho => writeTmp_avoids ho

/-- The header has its fixed length. -/
lemma length_bytes {h : CacheHeader} : h.bytes.length = HEADER_BYTES := by
  simp only [CacheHeader.bytes, List.length_append, length_toLe, h.targetHash.property,
    h.scenarioHash.property, h.tierSourceHash.property, h.payloadHash.property]
  rfl

/-- A completed write installs the finished file. -/
lemma exec_writeTmp_rename {target sc data} {s : Dir} :
    exec s (writeTmp y blake3 target sc data ++
      [.rename .tier1PrecomputeTmp .tier1Precompute]) .tier1Precompute =
      some (cacheBytes y blake3 target sc data) := by
  have htmp : exec s (writeTmp y blake3 target sc data) .tier1PrecomputeTmp =
      some (cacheBytes y blake3 target sc data) := by
    simp only [writeTmp, exec_cons, exec_nil, apply_overwrite, apply_append, apply_create, if_true,
      Option.getD_some, List.nil_append]
    rw [length_bytes, List.drop_left' length_bytes, cacheBytes]
  rw [exec_append, exec_cons, exec_nil, apply_rename htmp, if_neg DataFile.noConfusion, if_pos rfl]

/-- Where the one loading process stands: between calls, after a miss, or with a state built from the
bytes it read. -/
inductive Phase where
  | idle
  | miss (target : Bytes) (sc : YpirScenario)
  | built (target : Bytes) (sc : YpirScenario) (data : Bytes)

/-- A run for a target and a scenario that occur. -/
structure Occurs (S : Set Bytes) (target : Bytes) (sc : YpirScenario) : Prop where
  target : target ∈ S
  scenario : scenarioBytes sc ∈ S
  fits : FitsUsize sc

/-- One step of the loading process or of its surroundings: the tier file is replaced, also while the
process builds; the cache file is truncated, extended or overwritten; the temporary file is anything. -/
inductive CacheStep (y : Ypir) (blake3 : Bytes → Digest) (S : Set Bytes) :
    Dir × Phase → Dir × Phase → Prop
  | replaceTier {s ph bs} : bs ∈ S →
      CacheStep y blake3 S (s, ph) (Function.update s .tier1 (some bs), ph)
  | removeTier {s ph} : CacheStep y blake3 S (s, ph) (Function.update s .tier1 none, ph)
  | corrupt {s ph file} : Genuine y blake3 S file →
      CacheStep y blake3 S (s, ph) (Function.update s .tier1Precompute (some file), ph)
  | evict {s ph} : CacheStep y blake3 S (s, ph) (Function.update s .tier1Precompute none, ph)
  | leaveTmp {s ph tmp} :
      CacheStep y blake3 S (s, ph) (Function.update s .tier1PrecomputeTmp tmp, ph)
  | hit {s target sc st} : Occurs S target sc →
      tryLoadCache y blake3 target sc (s .tier1Precompute) (s .tier1) = .ok st →
      CacheStep y blake3 S (s, .idle) (s, .idle)
  | miss {s target sc e} : Occurs S target sc →
      tryLoadCache y blake3 target sc (s .tier1Precompute) (s .tier1) = .error e →
      CacheStep y blake3 S (s, .idle) (s, .miss target sc)
  | read {s target sc data} : s .tier1 = some data →
      CacheStep y blake3 S (s, .miss target sc) (s, .built target sc data)
  | write {s s' target sc data r} : WriteCache y blake3 target sc data s r s' →
      CacheStep y blake3 S (s, .built target sc data) (s', .idle)
  | crash {s ph} : CacheStep y blake3 S (s, ph) (s, .idle)

/-- Reachable from a directory without a cache. -/
inductive CacheReach (y : Ypir) (blake3 : Bytes → Digest) (S : Set Bytes) : Dir × Phase → Prop
  | start {s} : s .tier1Precompute = none → (∀ bs, s .tier1 = some bs → bs ∈ S) →
      CacheReach y blake3 S (s, .idle)
  | step {c c'} : CacheReach y blake3 S c → CacheStep y blake3 S c c' → CacheReach y blake3 S c'

/-- The cache is genuine, the tier bytes occur, and so do the bytes of the process. -/
structure CacheInv (y : Ypir) (blake3 : Bytes → Digest) (S : Set Bytes) (c : Dir × Phase) : Prop where
  cache : ∀ file, c.1 .tier1Precompute = some file → Genuine y blake3 S file
  tier : ∀ bs, c.1 .tier1 = some bs → bs ∈ S
  missed : ∀ target sc, c.2 = .miss target sc → Occurs S target sc
  built : ∀ target sc data, c.2 = .built target sc data → Occurs S target sc ∧ data ∈ S

/-- Writing the cache does not touch the tier file. -/
lemma WriteCache.tier_eq {target sc data s s' r} (write : WriteCache y blake3 target sc data s r s') :
    s' .tier1 = s .tier1 := by
  have havoid : ∀ o ∈ writeTmp y blake3 target sc data, o.Avoids .tier1 := by
    intro o ho
    simp only [writeTmp, List.mem_cons, List.not_mem_nil, or_false] at ho
    rcases ho with rfl | rfl | rfl | rfl
    · exact DataFile.noConfusion
    · exact DataFile.noConfusion
    · exact DataFile.noConfusion
    · exact DataFile.noConfusion
  cases write with
  | written =>
    refine Interrupted.exec.of_avoids fun o ho => ?_
    rcases List.mem_append.mp ho with ho | ho
    · exact havoid o ho
    · obtain rfl := List.mem_singleton.mp ho
      exact ⟨DataFile.noConfusion, DataFile.noConfusion⟩
  | failed cut =>
    rw [apply_remove, if_neg DataFile.noConfusion]
    exact cut.of_avoids havoid
  | failedTwice cut => exact cut.of_avoids havoid
  | crashed cut => exact cut.of_avoids havoid

/-- Every step keeps the invariant. -/
lemma CacheStep.keeps (lawful : y.Lawful) (inj : Set.InjOn blake3 S) {c c'}
    (step : CacheStep y blake3 S c c') (inv : CacheInv y blake3 S c) : CacheInv y blake3 S c' := by
  obtain ⟨hcache, htier, hmiss, hbuilt⟩ := inv
  cases step with
  | replaceTier hbs =>
    refine ⟨hcache, ?_, hmiss, hbuilt⟩
    intro bs h
    obtain rfl := Option.some.inj h
    exact hbs
  | removeTier =>
    refine ⟨hcache, ?_, hmiss, hbuilt⟩
    intro bs h
    cases h
  | corrupt hfile =>
    refine ⟨?_, htier, hmiss, hbuilt⟩
    intro file h
    obtain rfl := Option.some.inj h
    exact hfile
  | evict =>
    refine ⟨?_, htier, hmiss, hbuilt⟩
    intro file h
    cases h
  | leaveTmp => exact ⟨hcache, htier, hmiss, hbuilt⟩
  | hit _ _ => exact ⟨hcache, htier, hmiss, hbuilt⟩
  | miss occurs _ =>
    refine ⟨hcache, htier, ?_, fun _ _ _ h => nomatch h⟩
    intro target sc h
    cases h
    exact occurs
  | read hdata =>
    refine ⟨hcache, htier, (fun _ _ h => nomatch h), ?_⟩
    intro target sc data h
    cases h
    exact ⟨hmiss _ _ rfl, htier _ hdata⟩
  | @write s s' target sc data r write =>
    obtain ⟨occurs, hdata⟩ := hbuilt _ _ _ rfl
    refine ⟨?_, ?_, (fun _ _ h => nomatch h), (fun _ _ _ h => nomatch h)⟩
    · intro file h
      by_cases hr : r = .ok ()
      · cases write with
        | written =>
          obtain rfl := Option.some.inj (exec_writeTmp_rename.symm.trans h)
          exact cacheBytes_genuine lawful inj occurs.target occurs.scenario hdata occurs.fits
        | failed _ => cases hr
        | failedTwice _ => cases hr
        | crashed _ => cases hr
      · exact hcache file ((write.cache_of_not_ok hr).symm.trans h)
    · intro bs h
      exact htier bs (write.tier_eq.symm.trans h)
  | crash => exact ⟨hcache, htier, (fun _ _ h => nomatch h), (fun _ _ _ h => nomatch h)⟩

/-- Reachable caches satisfy the invariant. -/
lemma CacheReach.inv (lawful : y.Lawful) (inj : Set.InjOn blake3 S) {c}
    (reach : CacheReach y blake3 S c) : CacheInv y blake3 S c := by
  induction reach with
  | start hnone htier =>
    refine ⟨?_, htier, (fun _ _ h => nomatch h), (fun _ _ _ h => nomatch h)⟩
    intro file h
    cases hnone.symm.trans h
  | step _ step ih => exact step.keeps lawful inj ih

/-- A cache hit equals a rebuild, in every reachable state: what `try_load_cache` returns is built from
the tier bytes it hashed, every other call of `new_or_load` rebuilds from the bytes it reads, and a
write that fails or crashes leaves the installed file. -/
theorem cache_hit_eq_rebuild (lawful : y.Lawful) (inj : Set.InjOn blake3 S) {s ph}
    (reach : CacheReach y blake3 S (s, ph)) :
    (∀ target sc tier st, Occurs S target sc → tier ∈ S →
      tryLoadCache y blake3 target sc (s .tier1Precompute) (some tier) = .ok st →
      st = y.build target sc tier) ∧
    (∀ target sc hashed read e,
      tryLoadCache y blake3 target sc (s .tier1Precompute) hashed = .error e →
      newOrLoad y blake3 target sc (s .tier1Precompute) hashed (some read) =
        .ok (y.build target sc read, false)) ∧
    (∀ target sc hashed read st, Occurs S target sc → (∀ bs, hashed = some bs → bs ∈ S) →
      newOrLoad y blake3 target sc (s .tier1Precompute) hashed read = .ok (st, true) →
      ∃ tier, hashed = some tier ∧ st = y.build target sc tier) ∧
    ∀ target sc data r s', WriteCache y blake3 target sc data s r s' → r ≠ .ok () →
      s' .tier1Precompute = s .tier1Precompute := by
  have inv := reach.inv lawful inj
  have hload : ∀ target sc tier st, Occurs S target sc → tier ∈ S →
      tryLoadCache y blake3 target sc (s .tier1Precompute) (some tier) = .ok st →
      st = y.build target sc tier := by
    intro target sc tier st occurs htier ok
    cases hfile : s .tier1Precompute with
    | none =>
      rw [hfile] at ok
      cases ok
    | some file =>
      rw [hfile] at ok
      exact tryLoadCache_genuine lawful (inv.cache file hfile) occurs.target occurs.scenario htier
        occurs.fits ok
  refine ⟨hload, ?_, ?_, fun _ _ _ _ _ write hr => write.cache_of_not_ok hr⟩
  · intro target sc hashed read e he
    rw [newOrLoad, he]
    rfl
  · intro target sc hashed read st occurs hocc ok
    rw [newOrLoad] at ok
    cases hres : tryLoadCache y blake3 target sc (s .tier1Precompute) hashed with
    | error e =>
      rw [hres] at ok
      obtain ⟨_, _, ok⟩ := bind_eq_ok.mp ok
      cases ok
    | ok st' =>
      rw [hres] at ok
      obtain ⟨rfl, _⟩ := Prod.mk.inj (Except.ok.inj ok)
      cases hashed with
      | none =>
        obtain ⟨file, _, hres⟩ := loadBind_eq_ok.mp hres
        obtain ⟨_, _, hres⟩ := loadBind_eq_ok.mp hres
        obtain ⟨_, _, hres⟩ := loadBind_eq_ok.mp hres
        obtain ⟨_, _, hres⟩ := loadBind_eq_ok.mp hres
        cases hres
      | some tier => exact ⟨tier, rfl, hload target sc tier st' occurs (hocc tier rfl) hres⟩

/-- A setup that keeps the first byte. -/
def sampleYpir : Ypir where
  ServerState := UInt8
  OfflineState := Unit
  build := fun _ _ data => (data.headD 0, ())
  dumpServer := fun b => [b]
  dumpOffline := fun _ => []
  loadServer := fun _ _ bs =>
    match bs with
    | b :: _ => .ok (b, 1)
    | [] => .error "truncated"
  loadOffline := fun _ _ _ => .ok ((), 0)

/-- A digest that keeps the first 32 bytes. -/
def sampleDigest (bs : Bytes) : Digest :=
  ⟨(bs ++ List.replicate 32 0).take 32, by simp⟩

def sampleScenario : YpirScenario := ⟨4096, 98304, 4096⟩

/-- The strings of one run. -/
def sampleStrings : Set Bytes := {[120], scenarioBytes sampleScenario, [7]}

/-- The sample hash tells its inputs apart. -/
lemma sampleDigest_injOn : Set.InjOn sampleDigest sampleStrings := by
  rintro a (rfl | rfl | rfl) b (rfl | rfl | rfl) h
  all_goals first | rfl | exact absurd h (by decide)

/-- The sample scheme satisfies the laws. -/
lemma sampleYpir_lawful : sampleYpir.Lawful where
  server := fun _ _ _ _ => rfl
  offline := fun _ _ _ _ => rfl
  size := fun _ _ _ => (by decide : 1 < U64)

/-- The sample texts are among the hashed ones. -/
lemma sample_occurs : Occurs sampleStrings [120] sampleScenario where
  target := .inl rfl
  scenario := .inr (.inl rfl)
  fits := ⟨by decide, by decide, by decide⟩

/-- After a miss the cache is written, and the next load hits it. -/
theorem cache_hit_eq_rebuild_sample :
    ∃ s ph, CacheReach sampleYpir sampleDigest sampleStrings (s, ph) ∧
      tryLoadCache sampleYpir sampleDigest [120] sampleScenario (s .tier1Precompute) (some [7]) =
        .ok (sampleYpir.build [120] sampleScenario [7]) ∧
      ∀ st, tryLoadCache sampleYpir sampleDigest [120] sampleScenario (s .tier1Precompute)
        (some [7]) = .ok st → st = sampleYpir.build [120] sampleScenario [7] := by
  have h0 : CacheReach sampleYpir sampleDigest sampleStrings
      (Function.update (fun _ => none) .tier1 (some [7]), .idle) :=
    .step (@CacheReach.start _ _ _ (fun _ => none) rfl (fun _ h => nomatch h))
      (.replaceTier (.inr (.inr rfl)))
  have h1 := h0.step (.miss sample_occurs rfl)
  have h2 := h1.step (.read rfl)
  have h3 := h2.step (.write .written)
  refine ⟨_, _, h3, ?_, fun st => (cache_hit_eq_rebuild sampleYpir_lawful sampleDigest_injOn h3).1 _ _
    _ st sample_occurs (.inr (.inr rfl))⟩
  rw [exec_writeTmp_rename]
  exact tryLoadCache_cacheBytes sampleYpir_lawful

end Runs

end NullifierPir.Server
