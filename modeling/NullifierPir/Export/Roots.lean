import NullifierPir.Export.Boundaries
import NullifierPir.Export.Tree

/-!
# The roots of a nullifier set

The roots do not depend on how the nullifiers are listed (`prepareNullifiers_set`), and the circuit
root is the same whether the depth-19 root is extended or the depth-29 tree is built from the leaves
(`extendRoot_buildLevels`).
-/

namespace NullifierPir.Export
open Rust Imt NullifierPir.Types

/-- Lists with the same elements up to sentinels prepare the same ranges and build the same tree, and
injecting the sentinels first makes no difference. -/
theorem prepareNullifiers_set :
    (∀ nfs nfs' : List Fp, (∀ v, v ∉ sentinels → (v ∈ nfs ↔ v ∈ nfs')) →
      prepareNullifiers nfs = prepareNullifiers nfs' ∧
      ∀ H, buildPirTreeFromNullifiers H nfs = buildPirTreeFromNullifiers H nfs') ∧
    ∀ nfs, buildRangesWithSentinels nfs = prepareNullifiers nfs := by
  refine ⟨?_, fun nfs => buildRangesWithSentinels_eq⟩
  intro nfs nfs' h
  refine ⟨prepareNullifiers_congr h, ?_⟩
  intro H
  rw [buildPirTreeFromNullifiers, buildPirTreeFromNullifiers, prepareNullifiers_congr h]

/-- A list whose pad fits and that is small enough has a tree. -/
lemma exists_tree {H : Hasher} {nfs : List Fp} (fits : PadFits nfs) (small : nfs.length ≤ 2 ^ PIR_DEPTH) :
    ∃ tree, buildPirTreeFromNullifiers H nfs = .ok tree := by
  obtain ⟨ranges, ok⟩ := prepareNullifiers_isOk_iff.mpr fits
  obtain ⟨hlen, _⟩ := buildPuncturedRanges_ok (prepareNullifiers_eq.symm.trans ok)
  have hcard : (withSentinels nfs).length ≤ nfs.length + 34 := by
    rw [length_withSentinels]
    refine (List.toFinset_card_le _).trans ?_
    rw [List.length_append]
    exact Nat.add_le_add_left (by decide +kernel) _
  have hpad : (paddedNfs nfs).length ≤ (withSentinels nfs).length + 1 := by
    rw [paddedNfs]
    split
    · exact List.length_insertIdx_le_succ
    · exact Nat.le_succ _
  rw [buildPirTreeFromNullifiers, ok, ok_bind]
  refine buildPirTree_eq_ok ?_ (verifyPuncturedRangeSpans_ok ok)
  rw [PIR_DEPTH] at small ⊢
  omega

section Extend

variable {H : Hasher} {empty : Vector Fp TREE_DEPTH}

/-- Fewer levels are an initial segment of more. -/
lemma levelsFrom_take {n m i prev levels} (ok : levelsFrom H empty (n + m) i prev = .ok levels) :
    levelsFrom H empty n i prev = .ok (levels.take (n + 1)) := by
  induction n generalizing i prev levels with
  | zero =>
    rw [Nat.zero_add] at ok
    cases m with
    | zero =>
      cases ok
      rfl
    | succ m =>
      obtain ⟨_, _, ok⟩ := bind_eq_ok.mp ok
      obtain ⟨_, _, ok⟩ := bind_eq_ok.mp ok
      cases ok
      rfl
  | succ n ih =>
    rw [Nat.add_right_comm] at ok
    obtain ⟨next, hnext, ok⟩ := bind_eq_ok.mp ok
    obtain ⟨rest, hrest, ok⟩ := bind_eq_ok.mp ok
    cases ok
    rw [levelsFrom, hnext, ok_bind, ih hrest]
    rfl

/-- The stored levels of a shallower build are those of a deeper one. -/
lemma buildLevels_take {leaves depth more r r'} (hdepth : 1 ≤ depth)
    (ok : buildLevels H leaves empty depth = .ok r)
    (ok' : buildLevels H leaves empty (depth + more) = .ok r') : r'.2.take depth = r.2 := by
  obtain ⟨xs, hxs, ok⟩ := bind_eq_ok.mp ok
  obtain ⟨ys, hys, ok⟩ := bind_eq_ok.mp ok
  obtain ⟨levels, hlevels, ok⟩ := bind_eq_ok.mp ok
  obtain ⟨_, _, ok⟩ := bind_eq_ok.mp ok
  obtain ⟨_, _, ok⟩ := bind_eq_ok.mp ok
  obtain ⟨_, _, ok⟩ := bind_eq_ok.mp ok
  cases ok
  obtain ⟨xs', hxs', ok'⟩ := bind_eq_ok.mp ok'
  obtain rfl := Except.ok.inj (hxs.symm.trans hxs')
  obtain ⟨ys', hys', ok'⟩ := bind_eq_ok.mp ok'
  obtain rfl := Except.ok.inj (hys.symm.trans hys')
  obtain ⟨levels', hlevels', ok'⟩ := bind_eq_ok.mp ok'
  obtain ⟨_, _, ok'⟩ := bind_eq_ok.mp ok'
  obtain ⟨_, _, ok'⟩ := bind_eq_ok.mp ok'
  obtain ⟨_, _, ok'⟩ := bind_eq_ok.mp ok'
  cases ok'
  rw [show depth + more - 1 = depth - 1 + more by omega] at hlevels'
  have htake := levelsFrom_take hlevels'
  rw [Nat.sub_add_cancel hdepth, hlevels] at htake
  exact (Except.ok.inj htake).symm

/-- Extending the root of the depth-19 build gives the root of the depth-29 build, and the two store
the same lower levels. -/
theorem extendRoot_buildLevels {leaves : List Fp} (hn : leaves.length ≤ 2 ^ 19) :
    ∃ root levels root' levels',
      buildLevels H leaves (precomputeEmptyHashes H) 19 = .ok (root, levels) ∧
      buildLevels H leaves (precomputeEmptyHashes H) 29 = .ok (root', levels') ∧
      extendRoot H root (precomputeEmptyHashes H) = root' ∧
      levels.length = 19 ∧ levels'.take 19 = levels := by
  obtain ⟨levels, hlevels, hlen, _⟩ :=
    @buildLevels_spec H leaves 19 (by decide) (by decide) hn
  obtain ⟨levels', hlevels', _, _⟩ :=
    @buildLevels_spec H leaves 29 (by decide) (by decide) (hn.trans (by decide))
  refine ⟨_, levels, _, levels', hlevels, hlevels', extendRoot_eq hn, hlen, ?_⟩
  exact @buildLevels_take H _ leaves 19 10 _ _ (by decide) hlevels hlevels'

/-- Three leaves, so that every level but the last is padded. -/
theorem extendRoot_buildLevels_ragged :
    ∃ root levels root' levels',
      buildLevels Hasher.affine [5, 7, 11] (precomputeEmptyHashes Hasher.affine) 19 = .ok (root, levels) ∧
      buildLevels Hasher.affine [5, 7, 11] (precomputeEmptyHashes Hasher.affine) 29 =
        .ok (root', levels') ∧
      extendRoot Hasher.affine root (precomputeEmptyHashes Hasher.affine) = root' ∧
      levels'.take 19 = levels := by
  obtain ⟨root, levels, root', levels', ok, ok', heq, _, htake⟩ :=
    @extendRoot_buildLevels Hasher.affine [5, 7, 11] (by decide)
  exact ⟨root, levels, root', levels', ok, ok', heq, htake⟩

end Extend

end NullifierPir.Export
