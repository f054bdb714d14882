import Changeset.Proofs.Patch.Enclosing
import Changeset.Proofs.Symbol.Table

/-!
# Symbols that alignment overlooks

A hunk that adds and removes lines changes a symbol if the symbol's new version
encloses the added lines and its old version the removed ones (`IsAround`).
Alignment tries one symbol only, the first of the smallest ones around the added
lines, and what it finds is around the hunk (`align?_eq_some_iff`). So if a
symbol is around the hunk, one is found exactly if that smallest symbol is
around it too (`align?_isAround`); of two variables that one statement declares,
a new one in front hides the one that was there before (`align?_overlooks`).
-/

namespace Changeset.Patch

variable {before after : Table} {h : Hunk} {k : String}

-- ---------------------------------------------------------------------------
-- The first smallest symbol
-- ---------------------------------------------------------------------------

theorem IsSmallestEnclosing.unique {ss : List Symbol} {lines : List Int} {s t : Symbol}
    (hs : IsSmallestEnclosing ss lines s) (ht : IsSmallestEnclosing ss lines t) : s = t := by
  obtain ⟨pre, post, hss, hpre, -⟩ := hs.first
  obtain ⟨pre', post', hss', hpre', -⟩ := ht.first
  have hle := hs.le ht.mem ht.encloses
  have hge := ht.le hs.mem hs.encloses
  -- Neither can stand in front of the other, as it would have to be larger.
  have hs' : s ∉ pre' := fun hmem => absurd (hpre' s hmem hs.encloses) (by omega)
  have ht' : t ∉ pre := fun hmem => absurd (hpre t hmem ht.encloses) (by omega)
  rcases List.append_eq_append_iff.mp (hss.symm.trans hss') with
    ⟨mid, rfl, htail⟩ | ⟨mid, rfl, htail⟩
  · cases mid with
    | nil => exact (List.cons.inj htail).1
    | cons m mid => exact absurd (by simp [(List.cons.inj htail).1]) hs'
  · cases mid with
    | nil => exact (List.cons.inj htail).1.symm
    | cons m mid => exact absurd (by simp [(List.cons.inj htail).1]) ht'

theorem smallestEnclosing?_eq_some_iff {ss : List Symbol} {lines : List Int} {s : Symbol} :
    smallestEnclosing? ss lines = some s ↔ IsSmallestEnclosing ss lines s := by
  refine ⟨isSmallestEnclosing_of_eq_some, fun hs => ?_⟩
  rcases smallestEnclosing?_cases ss lines with ⟨-, hout⟩ | ⟨t, hsome, ht⟩
  · exact absurd hs.encloses (hout s hs.mem)
  · rw [hsome, hs.unique ht]

-- ---------------------------------------------------------------------------
-- Symbols around a hunk
-- ---------------------------------------------------------------------------

/-- The symbols of the key `k` enclose the changed lines of a hunk, the new one the added lines and
the old one the removed lines. -/
structure IsAround (before after : Table) (h : Hunk) (k : String) : Prop where
  added : ∃ s, after.get? k = some s ∧ s.encloses h.added = true
  removed : ∃ s, before.get? k = some s ∧ s.encloses h.removed = true

theorem align?_eq_some_iff (hadded : h.added ≠ []) (hremoved : h.removed ≠ []) :
    align? before after h = some k ↔
      ∃ s, IsSmallestEnclosing after.symbols h.added s ∧ s.key = k ∧
        IsAround before after h k := by
  unfold align?
  rw [if_pos hadded]
  constructor
  · intro hk
    split at hk
    · cases hk
    · rename_i s hs
      rw [if_neg hremoved] at hk
      split at hk
      · rename_i old hold
        rw [Option.ite_none_right_eq_some, Option.some.injEq] at hk
        obtain ⟨hencloses, rfl⟩ := hk
        have hsmallest := isSmallestEnclosing_of_eq_some hs
        refine ⟨s, hsmallest, rfl, ⟨s, ?_, hsmallest.encloses⟩, old, hold, hencloses⟩
        exact Table.mem_symbols_iff.mp hsmallest.mem
      · cases hk
  · rintro ⟨s, hs, rfl, -, old, hold, hencloses⟩
    simp [smallestEnclosing?_eq_some_iff.mpr hs, hremoved, hold, hencloses]

/-- What is found for a hunk that adds and removes lines is around it. If any symbol is, one is
found exactly if the first of the smallest symbols around the added lines is one that is. -/
theorem align?_isAround (hadded : h.added ≠ []) (hremoved : h.removed ≠ []) :
    (∀ k, align? before after h = some k → IsAround before after h k) ∧
    ((∃ k, IsAround before after h k) →
      ((∃ k, align? before after h = some k) ↔
        ∀ s, IsSmallestEnclosing after.symbols h.added s → IsAround before after h s.key)) := by
  constructor
  · intro k hk
    obtain ⟨-, -, -, hk⟩ := (align?_eq_some_iff hadded hremoved).mp hk
    exact hk
  · rintro ⟨k, hk⟩
    constructor
    · rintro ⟨k, hk⟩ s hs
      obtain ⟨t, ht, rfl, haround⟩ := (align?_eq_some_iff hadded hremoved).mp hk
      rw [hs.unique ht]
      exact haround
    · intro hall
      obtain ⟨new, hnew, hencloses⟩ := hk.added
      rcases smallestEnclosing?_cases after.symbols h.added with ⟨-, hout⟩ | ⟨s, -, hs⟩
      · exact absurd hencloses (hout new (Table.mem_of_get? hnew))
      · exact ⟨s.key, (align?_eq_some_iff hadded hremoved).mpr ⟨s, hs, rfl, hall s hs⟩⟩

/-- A variable before, and the same one with another that is declared behind it or in front. -/
def single : Table := Table.ofList [⟨"let:b", "b", "let", "let b = 1;", 1, 0, 1⟩]

def joinedBehind : Table :=
  Table.ofList [⟨"let:b", "b", "let", "let b = 2, a = 0;", 1, 0, 1⟩,
    ⟨"let:a", "a", "let", "let b = 2, a = 0;", 1, 0, 1⟩]

def joinedInFront : Table :=
  Table.ofList [⟨"let:a", "a", "let", "let a = 0, b = 2;", 1, 0, 1⟩,
    ⟨"let:b", "b", "let", "let a = 0, b = 2;", 1, 0, 1⟩]

def joiningBehind : Hunk :=
  ⟨1, 1, 1, 1, ["-let b = 1;".toList, "+let b = 2, a = 0;".toList], []⟩

def joiningInFront : Hunk :=
  ⟨1, 1, 1, 1, ["-let b = 1;".toList, "+let a = 0, b = 2;".toList], []⟩

theorem align?_isAround_joinedBehind :
    joiningBehind.added ≠ [] ∧ joiningBehind.removed ≠ [] ∧
    IsAround single joinedBehind joiningBehind "let:b" ∧
    (∀ s, IsSmallestEnclosing joinedBehind.symbols joiningBehind.added s →
      IsAround single joinedBehind joiningBehind s.key) ∧
    ∃ k, align? single joinedBehind joiningBehind = some k ∧
      IsAround single joinedBehind joiningBehind k := by
  have hadded : joiningBehind.added ≠ [] := by decide
  have hremoved : joiningBehind.removed ≠ [] := by decide
  have haround : IsAround single joinedBehind joiningBehind "let:b" :=
    ⟨⟨_, rfl, by decide⟩, _, rfl, by decide⟩
  have hsmallest : ∀ s, IsSmallestEnclosing joinedBehind.symbols joiningBehind.added s →
      IsAround single joinedBehind joiningBehind s.key := by
    intro s hs
    cases smallestEnclosing?_eq_some_iff.mpr hs
    exact haround
  obtain ⟨hfound, hall⟩ := align?_isAround hadded hremoved
  obtain ⟨k, hk⟩ := (hall ⟨_, haround⟩).mpr hsmallest
  exact ⟨hadded, hremoved, haround, hsmallest, k, hk, hfound k hk⟩

theorem align?_overlooks :
    joiningInFront.added ≠ [] ∧ joiningInFront.removed ≠ [] ∧
    IsAround single joinedInFront joiningInFront "let:b" ∧
    align? single joinedInFront joiningInFront = none := by
  refine ⟨by decide, by decide, ⟨⟨_, rfl, by decide⟩, _, rfl, by decide⟩, by decide +kernel⟩

end Changeset.Patch
