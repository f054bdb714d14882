import Changeset.Patch.Fragment
import Mathlib.Data.List.Induction

/-!
# The smallest symbol around some lines

The search keeps the best symbol so far and lets a later one take its place only
if that is smaller. So what it finds encloses the lines, no symbol that does is
smaller, and those before it are larger (`isSmallestEnclosing_of_eq_some`); it
finds nothing only if there is no such symbol (`smallestEnclosing?_cases`).
-/

namespace Changeset.Patch

variable {ss : List Symbol} {lines : List Int} {s : Symbol}

/-- `s` encloses the lines with the least span in `ss`, and is the first one of that span. -/
structure IsSmallestEnclosing (ss : List Symbol) (lines : List Int) (s : Symbol) : Prop where
  encloses : s.encloses lines = true
  first : ∃ pre post, ss = pre ++ s :: post ∧
    (∀ t ∈ pre, t.encloses lines = true → s.spanSize < t.spanSize) ∧
    ∀ t ∈ post, t.encloses lines = true → s.spanSize ≤ t.spanSize

theorem IsSmallestEnclosing.mem (h : IsSmallestEnclosing ss lines s) : s ∈ ss := by
  obtain ⟨pre, post, rfl, -, -⟩ := h.first
  simp

theorem IsSmallestEnclosing.le (h : IsSmallestEnclosing ss lines s) {t : Symbol} (ht : t ∈ ss)
    (hlines : t.encloses lines = true) : s.spanSize ≤ t.spanSize := by
  obtain ⟨pre, post, rfl, hpre, hpost⟩ := h.first
  simp only [List.mem_append, List.mem_cons] at ht
  rcases ht with ht | rfl | ht
  · exact Int.le_of_lt (hpre t ht hlines)
  · exact Int.le_refl _
  · exact hpost t ht hlines

theorem IsSmallestEnclosing.concat (h : IsSmallestEnclosing ss lines s) {t : Symbol}
    (ht : t.encloses lines = true → s.spanSize ≤ t.spanSize) :
    IsSmallestEnclosing (ss ++ [t]) lines s := by
  obtain ⟨pre, post, rfl, hpre, hpost⟩ := h.first
  refine ⟨h.encloses, pre, post ++ [t], by simp, hpre, ?_⟩
  intro u hu
  rcases List.mem_append.mp hu with hu | hu
  · exact hpost u hu
  · cases List.mem_singleton.mp hu
    exact ht

theorem isSmallestEnclosing_last {t : Symbol} (ht : t.encloses lines = true)
    (hss : ∀ u ∈ ss, u.encloses lines = true → t.spanSize < u.spanSize) :
    IsSmallestEnclosing (ss ++ [t]) lines t :=
  ⟨ht, ss, [], rfl, hss, by simp⟩

theorem smallestEnclosing?_concat (ss : List Symbol) (t : Symbol) (lines : List Int) :
    smallestEnclosing? (ss ++ [t]) lines =
      if t.encloses lines then
        (smallestEnclosing? ss lines).elim (some t) fun b =>
          if t.spanSize < b.spanSize then some t else some b
      else smallestEnclosing? ss lines := by
  simp only [smallestEnclosing?, List.filter_append, List.foldl_append]
  by_cases h : t.encloses lines = true
  · simp only [List.filter_cons, h, if_true, List.filter_nil, List.foldl_cons, List.foldl_nil]
    split <;> simp_all
  · simp [h]

theorem smallestEnclosing?_cases (ss : List Symbol) (lines : List Int) :
    (smallestEnclosing? ss lines = none ∧ ∀ t ∈ ss, t.encloses lines ≠ true) ∨
      ∃ s, smallestEnclosing? ss lines = some s ∧ IsSmallestEnclosing ss lines s := by
  induction ss using List.reverseRecOn with
  | nil => exact .inl ⟨rfl, by simp⟩
  | append_singleton ss t ih =>
    rw [smallestEnclosing?_concat]
    by_cases ht : t.encloses lines = true
    · rw [if_pos ht]
      rcases ih with ⟨hnone, hout⟩ | ⟨b, hsome, hb⟩
      · rw [hnone]
        refine .inr ⟨t, rfl, isSmallestEnclosing_last ht fun u hu hlines => ?_⟩
        exact absurd hlines (hout u hu)
      · rw [hsome, Option.elim_some]
        by_cases hlt : t.spanSize < b.spanSize
        · rw [if_pos hlt]
          refine .inr ⟨t, rfl, isSmallestEnclosing_last ht fun u hu hlines => ?_⟩
          exact Int.lt_of_lt_of_le hlt (hb.le hu hlines)
        · rw [if_neg hlt]
          exact .inr ⟨b, rfl, hb.concat fun _ => Int.not_lt.mp hlt⟩
    · rw [if_neg ht]
      rcases ih with ⟨hnone, hout⟩ | ⟨b, hsome, hb⟩
      · refine .inl ⟨hnone, ?_⟩
        intro u hu
        rcases List.mem_append.mp hu with hu | hu
        · exact hout u hu
        · cases List.mem_singleton.mp hu
          exact ht
      · exact .inr ⟨b, hsome, hb.concat fun h => absurd h ht⟩

theorem isSmallestEnclosing_of_eq_some (h : smallestEnclosing? ss lines = some s) :
    IsSmallestEnclosing ss lines s := by
  rcases smallestEnclosing?_cases ss lines with ⟨hnone, -⟩ | ⟨b, hsome, hb⟩
  · simp [hnone] at h
  · cases hsome.symm.trans h
    exact hb

end Changeset.Patch
