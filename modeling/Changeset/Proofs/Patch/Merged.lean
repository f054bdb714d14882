import Changeset.Proofs.Patch.Enclosing
import Changeset.Proofs.Patch.Regrouping
import Changeset.Proofs.Symbol.Table

/-!
# Hunks in one fragment change one symbol

A hunk is aligned with a key only if its lines lie in the symbols of that key,
and if no smaller symbol of the table that decides about it encloses them
(`isAligned_of_align?`). A group is opened by one member and joined by members
of its key only (`isUniform_groups`), so hunks that share a fragment are all
aligned with one symbol, and a hunk that changes no line stands alone
(`bySymbol_merges_aligned`).
-/

namespace Changeset.Patch

-- ---------------------------------------------------------------------------
-- Alignment
-- ---------------------------------------------------------------------------

/-- The changed lines of a hunk lie in the symbols of the key `k`, added ones in the new table's and
removed ones in the old table's. The table that decides, which is the new one for a hunk that adds
lines, has no smaller symbol around them. -/
structure IsAligned (before after : Table) (h : Hunk) (k : String) : Prop where
  changes : h.added ≠ [] ∨ h.removed ≠ []
  added : ∀ n ∈ h.added, ∃ s, after.get? k = some s ∧ s.line ≤ n ∧ n ≤ s.endLine
  removed : ∀ n ∈ h.removed, ∃ s, before.get? k = some s ∧ s.line ≤ n ∧ n ≤ s.endLine
  leastAfter : h.added ≠ [] → ∃ s, after.get? k = some s ∧
    ∀ t ∈ after.symbols, t.encloses h.added = true → s.spanSize ≤ t.spanSize
  leastBefore : h.added = [] → ∃ s, before.get? k = some s ∧
    ∀ t ∈ before.symbols, t.encloses h.removed = true → s.spanSize ≤ t.spanSize

variable {before after : Table} {h : Hunk} {k : String}

theorem exists_span_of_encloses {t : Table} {s : Symbol} {lines : List Int} (hs : t.get? k = some s)
    (hlines : s.encloses lines = true) :
    ∀ n ∈ lines, ∃ s, t.get? k = some s ∧ s.line ≤ n ∧ n ≤ s.endLine := by
  obtain ⟨-, hspan⟩ := Symbol.encloses_iff.mp hlines
  intro n hn
  exact ⟨s, hs, hspan n hn⟩

theorem get?_of_isSmallestEnclosing {t : Table} {s : Symbol} {lines : List Int}
    (h : IsSmallestEnclosing t.symbols lines s) : t.get? s.key = some s :=
  Table.mem_symbols_iff.mp h.mem

theorem isAligned_of_added {s : Symbol} (hs : IsSmallestEnclosing after.symbols h.added s)
    (hadded : h.added ≠ [])
    (hremoved : ∀ n ∈ h.removed,
      ∃ old, before.get? s.key = some old ∧ old.line ≤ n ∧ n ≤ old.endLine) :
    IsAligned before after h s.key where
  changes := .inl hadded
  added := exists_span_of_encloses (get?_of_isSmallestEnclosing hs) hs.encloses
  removed := hremoved
  leastAfter := fun _ => ⟨s, get?_of_isSmallestEnclosing hs, fun _ => hs.le⟩
  leastBefore := fun hnone => absurd hnone hadded

theorem isAligned_of_removed {s : Symbol} (hs : IsSmallestEnclosing before.symbols h.removed s)
    (hadded : h.added = []) (hremoved : h.removed ≠ []) : IsAligned before after h s.key where
  changes := .inr hremoved
  added := by simp [hadded]
  removed := exists_span_of_encloses (get?_of_isSmallestEnclosing hs) hs.encloses
  leastAfter := fun hsome => absurd hadded hsome
  leastBefore := fun _ => ⟨s, get?_of_isSmallestEnclosing hs, fun _ => hs.le⟩

theorem isAligned_of_align? (hk : align? before after h = some k) : IsAligned before after h k := by
  unfold align? at hk
  split at hk
  · rename_i hadded
    split at hk
    · cases hk
    · rename_i s hs
      have hsmallest := isSmallestEnclosing_of_eq_some hs
      split at hk
      · rename_i hremoved
        cases hk
        exact isAligned_of_added hsmallest hadded (by simp [hremoved])
      · split at hk
        · rename_i old hold
          split at hk
          · rename_i hencloses
            cases hk
            exact isAligned_of_added hsmallest hadded (exists_span_of_encloses hold hencloses)
          · cases hk
        · cases hk
  · rename_i hadded
    split at hk
    · rename_i hremoved
      obtain ⟨s, hs, rfl⟩ := Option.map_eq_some_iff.mp hk
      exact isAligned_of_removed (isSmallestEnclosing_of_eq_some hs) (not_not.mp hadded) hremoved
    · cases hk

theorem align?_eq_none (hadded : h.added = []) (hremoved : h.removed = []) :
    align? before after h = none := by
  simp [align?, hadded, hremoved]

-- ---------------------------------------------------------------------------
-- Groups
-- ---------------------------------------------------------------------------

/-- What holds of a group when it is opened, and still when a member joins it, holds of all. -/
theorem forall_mem_groups {α : Type} {key : α → Option String} {P : Group α → Prop} {xs : List α}
    (hopens : ∀ x ∈ xs, P ⟨key x, [x]⟩)
    (hjoins : ∀ g, P g → ∀ x ∈ xs, key x = g.key → g.key ≠ none → P ⟨g.key, g.members ++ [x]⟩) :
    ∀ g ∈ groups key xs, P g := by
  induction xs using List.reverseRecOn with
  | nil => simp [groups]
  | append_singleton xs x ih =>
    have hlast : groups key (xs ++ [x]) = place (key x) x (groups key xs) := by
      simp [groups]
    have hxs := ih (fun y hy => hopens y (List.mem_append_left _ hy))
      fun g hg y hy => hjoins g hg y (List.mem_append_left _ hy)
    have hx : x ∈ xs ++ [x] := by simp
    rw [hlast]
    rcases place_cases (key x) x (groups key xs) with ⟨he, -⟩ | ⟨pre, g, post, k, hgs, hk, hg, he⟩
    · rw [he, List.forall_mem_append, List.forall_mem_singleton]
      exact ⟨hxs, hopens x hx⟩
    · rw [hgs, List.forall_mem_append, List.forall_mem_cons] at hxs
      rw [he, List.forall_mem_append, List.forall_mem_cons]
      obtain ⟨hpre, hmid, hpost⟩ := hxs
      exact ⟨hpre, hjoins g hmid x hx (hk.trans hg.symm) (by simp [hg]), hpost⟩

structure Group.IsUniform {α : Type} (key : α → Option String) (g : Group α) : Prop where
  keyed : ∀ x ∈ g.members, key x = g.key
  alone : g.key = none → ∃ x, g.members = [x]

theorem isUniform_groups {α : Type} (key : α → Option String) (xs : List α) :
    ∀ g ∈ groups key xs, g.IsUniform key := by
  refine forall_mem_groups (fun x _ => ⟨by simp, fun _ => ⟨x, rfl⟩⟩) ?_
  intro g hg x _ hkey hsome
  refine ⟨?_, fun hnone => absurd hnone hsome⟩
  rw [List.forall_mem_append, List.forall_mem_singleton]
  exact ⟨hg.keyed, hkey⟩

theorem groups_members {α : Type} (key : α → Option String) (xs : List α) :
    ∀ g ∈ groups key xs, g.members ≠ [] ∧ g.members ⊆ xs := by
  refine forall_mem_groups (fun x hx => ⟨by simp, by simpa using hx⟩) ?_
  rintro g ⟨-, hsub⟩ x hx - -
  exact ⟨by simp, List.append_subset.mpr ⟨hsub, by simpa using hx⟩⟩

-- ---------------------------------------------------------------------------
-- Fragments
-- ---------------------------------------------------------------------------

theorem value_bySymbol {p : String} {d : Document} (hr : Document.read p = .ok d)
    (hne : d.hunks ≠ []) (hfiles : d.files.length ≤ 1) (before after : Table) :
    (bySymbol before after p).value = .ok (splitBySymbol before after d) := by
  rw [bySymbol, value_splitWith]
  simp only [hr, List.isEmpty_iff, if_neg hne]
  rw [value_cutBySymbol, if_neg (by omega)]

/-- The fragments of a patch of one file are those of the groups of its hunks. Where a group has
several hunks they are all aligned with one key. -/
theorem bySymbol_merges_aligned {p : String} {d : Document} (hr : Document.read p = .ok d)
    (hne : d.hunks ≠ []) (hfiles : d.files.length ≤ 1) (before after : Table) :
    (bySymbol before after p).value =
      .ok ((groups (align? before after) d.hunks).map fun g => fragment g.members) ∧
    ∀ g ∈ groups (align? before after) d.hunks,
      (2 ≤ g.members.length → ∃ k, ∀ h ∈ g.members, IsAligned before after h k) ∧
      ∀ h ∈ g.members, h.added = [] → h.removed = [] → g.members = [h] := by
  refine ⟨value_bySymbol hr hne hfiles before after, ?_⟩
  intro g hg
  have huniform := isUniform_groups (align? before after) d.hunks g hg
  constructor
  · intro hseveral
    cases hkey : g.key with
    | none =>
      obtain ⟨x, hx⟩ := huniform.alone hkey
      rw [hx] at hseveral
      simp at hseveral
    | some k =>
      refine ⟨k, ?_⟩
      intro h hh
      exact isAligned_of_align? ((huniform.keyed h hh).trans hkey)
  · intro h hh hadded hremoved
    have hkey := huniform.keyed h hh
    rw [align?_eq_none hadded hremoved] at hkey
    obtain ⟨x, hx⟩ := huniform.alone hkey.symm
    rw [hx] at hh ⊢
    rw [List.mem_singleton.mp hh]

def mixed : String :=
  "--- a\n+++ b\n@@ -3 +3 @@\n-x\n+y\n@@ -30 +30 @@\n-p\n+q\n@@ -5,0 +6 @@\n+z\n" ++
    "@@ -8 +8,0 @@\n-w\n"

def mixedHunks : List Hunk := [
  ⟨3, 1, 3, 1, [['-', 'x'], ['+', 'y']], []⟩,
  ⟨5, 0, 6, 1, [['+', 'z']], []⟩,
  ⟨8, 1, 8, 0, [['-', 'w']], []⟩]

def mixedDocument : Document := ⟨[⟨"a", "b", [
  ⟨3, 1, 3, 1, [['-', 'x'], ['+', 'y']], []⟩,
  ⟨30, 1, 30, 1, [['-', 'p'], ['+', 'q']], []⟩,
  ⟨5, 0, 6, 1, [['+', 'z']], []⟩,
  ⟨8, 1, 8, 0, [['-', 'w']], []⟩]⟩]⟩

/-- A class of twenty lines, a function in it, and a constant of the same lines as the function. -/
def nested : Table :=
  Table.ofList [⟨"class:C", "C", "class", "class C", 1, 0, 20⟩,
    ⟨"function:f", "f", "function", "function f", 2, 0, 9⟩,
    ⟨"const:c", "c", "const", "const c", 2, 0, 9⟩]

theorem bySymbol_merges_aligned_mixed :
    Document.read mixed = .ok mixedDocument ∧ mixedDocument.hunks ≠ [] ∧
    mixedDocument.files.length ≤ 1 ∧
    ⟨some "function:f", mixedHunks⟩ ∈ groups (align? nested nested) mixedDocument.hunks ∧
    ∃ k, ∀ h ∈ mixedHunks, IsAligned nested nested h k := by
  have hr : Document.read mixed = .ok mixedDocument := by decide +kernel
  have hne : mixedDocument.hunks ≠ [] := by decide
  have hfiles : mixedDocument.files.length ≤ 1 := by decide
  have hg : ⟨some "function:f", mixedHunks⟩ ∈
      groups (align? nested nested) mixedDocument.hunks := by decide +kernel
  refine ⟨hr, hne, hfiles, hg, ?_⟩
  exact ((bySymbol_merges_aligned hr hne hfiles nested nested).2 _ hg).1 (by decide)

end Changeset.Patch
