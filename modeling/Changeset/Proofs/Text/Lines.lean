import Changeset.Text.Position
import Mathlib.Data.List.Induction

/-!
# Lines and places of a text

Lines are cut at newlines and at nothing else. `textLines_append` says what
they are behind a beginning of the text, and where that beginning ends: its
position names the line that the rest goes on with, and its column is as long
as what the line has so far. So a position is a place of the text, and the text
from that place on is what was left to read (`textFrom_advance`). Positions only
grow while a text is read (`Position.le_advance`).
-/

namespace Changeset

-- ---------------------------------------------------------------------------
-- Lines
-- ---------------------------------------------------------------------------

def textLines (cs : List Char) : List (List Char) := cs.splitOn '\n'

theorem textLines_newline (cs : List Char) : textLines ('\n' :: cs) = [] :: textLines cs := by
  simp [textLines, List.splitOn_cons_eq_if_modifyHead]

theorem textLines_cons {c : Char} (hc : c ≠ '\n') (cs : List Char) :
    textLines (c :: cs) = (textLines cs).modifyHead (c :: ·) := by
  simp [textLines, List.splitOn_cons_eq_if_modifyHead, hc]

theorem exists_textLines (cs : List Char) : ∃ l ls, textLines cs = l :: ls :=
  List.exists_cons_of_ne_nil (List.splitOn_ne_nil '\n' cs)

/-- The lines of a beginning are kept, but for the last of them, which the rest goes on with. The
rest can hold more than characters, as long as these stay apart. -/
theorem splitOn_map_append {α : Type} [BEq α] [LawfulBEq α] {f : Char → α}
    (hf : Function.Injective f) (before : List Char) :
    ∃ init last, Position.start.advance before = ⟨init.length + 1, last.length⟩ ∧
      ∀ cs, (before.map f ++ cs).splitOn (f '\n') =
        init ++ (cs.splitOn (f '\n')).modifyHead (last ++ ·) := by
  -- From the end, where the line that is still open grows or is closed.
  induction before using List.reverseRecOn with
  | nil =>
    refine ⟨[], [], rfl, fun cs => ?_⟩
    obtain ⟨l, ls, h⟩ := List.exists_cons_of_ne_nil (List.splitOn_ne_nil (f '\n') cs)
    simp [h]
  | append_singleton before c ih =>
    obtain ⟨init, last, hp, hlines⟩ := ih
    by_cases hc : c = '\n'
    · subst hc
      refine ⟨init ++ [last], [], ?_, fun cs => ?_⟩
      · rw [Position.advance_append, hp]
        simp [Position.next]
      · obtain ⟨l, ls, h⟩ := List.exists_cons_of_ne_nil (List.splitOn_ne_nil (f '\n') cs)
        rw [List.map_append, List.append_assoc, List.map_singleton, List.singleton_append, hlines,
          List.splitOn_cons_eq_if_modifyHead]
        simp [h]
    · refine ⟨init, last ++ [f c], ?_, fun cs => ?_⟩
      · rw [Position.advance_append, hp]
        simp [Position.next, hc]
      · obtain ⟨l, ls, h⟩ := List.exists_cons_of_ne_nil (List.splitOn_ne_nil (f '\n') cs)
        rw [List.map_append, List.append_assoc, List.map_singleton, List.singleton_append, hlines,
          List.splitOn_cons_eq_if_modifyHead]
        simp [h, hf.eq_iff, hc]

theorem textLines_append (before : List Char) :
    ∃ init last, Position.start.advance before = ⟨init.length + 1, last.length⟩ ∧
      ∀ cs, textLines (before ++ cs) = init ++ (textLines cs).modifyHead (last ++ ·) := by
  simpa [textLines] using splitOn_map_append Function.injective_id before

-- ---------------------------------------------------------------------------
-- Places
-- ---------------------------------------------------------------------------

/-- A line of the text and a column that is not beyond its end. -/
structure Position.IsIn (p : Position) (cs : List Char) : Prop where
  line_pos : 1 ≤ p.line
  line_le : p.line ≤ (textLines cs).length
  column_le : ∃ l, (textLines cs)[p.line - 1]? = some l ∧ p.column ≤ l.length

/-- What a text holds from a place on. -/
def textFrom (cs : List Char) (p : Position) : List Char :=
  (['\n'].intercalate ((textLines cs).drop (p.line - 1))).drop p.column

section
variable (before cs : List Char)

theorem isIn_advance : (Position.start.advance before).IsIn (before ++ cs) := by
  obtain ⟨init, last, hp, hlines⟩ := textLines_append before
  obtain ⟨l, ls, h⟩ := exists_textLines cs
  rw [hp]
  refine ⟨Nat.le_add_left _ _, ?_, last ++ l, ?_, ?_⟩
  · simp [hlines, h]
  · simp [hlines, h]
  · simp

theorem textFrom_advance : textFrom (before ++ cs) (Position.start.advance before) = cs := by
  obtain ⟨init, last, hp, hlines⟩ := textLines_append before
  obtain ⟨l, ls, h⟩ := exists_textLines cs
  have hcs : ['\n'].intercalate (l :: ls) = cs := by
    rw [← h]
    exact List.intercalate_splitOn '\n'
  have hlast : ['\n'].intercalate ((last ++ l) :: ls) = last ++ cs := by
    rw [← hcs]
    cases ls <;> simp [List.intercalate_cons_cons]
  rw [hp, textFrom, hlines, h]
  simp [hlast]

end

-- ---------------------------------------------------------------------------
-- The order of positions
-- ---------------------------------------------------------------------------

namespace Position

instance : LE Position where
  le p q := p.line < q.line ∨ p.line = q.line ∧ p.column ≤ q.column

theorem le_def {p q : Position} :
    p ≤ q ↔ p.line < q.line ∨ p.line = q.line ∧ p.column ≤ q.column := Iff.rfl

protected theorem le_refl (p : Position) : p ≤ p := .inr ⟨rfl, Nat.le_refl _⟩

protected theorem le_trans {p q r : Position} (h : p ≤ q) (h' : q ≤ r) : p ≤ r := by
  rw [le_def] at *
  omega

theorem le_next (p : Position) (c : Char) : p ≤ p.next c := by
  rw [le_def, next]
  split
  · exact .inl (Nat.lt_succ_self _)
  · exact .inr ⟨rfl, Nat.le_succ _⟩

theorem le_advance (p : Position) (cs : List Char) : p ≤ p.advance cs := by
  induction cs generalizing p with
  | nil => exact Position.le_refl p
  | cons c cs ih => exact Position.le_trans (p.le_next c) (ih (p.next c))

end Position

end Changeset
