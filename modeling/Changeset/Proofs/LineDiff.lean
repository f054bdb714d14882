import Changeset.LineDiff
import Changeset.Proofs.Edit.Alignment
import Changeset.Proofs.Text.Numeral

/-!
# The changes of two texts are an edit script

`changes_leave_same_lines`: the lines that the deletions report and the lines
that the insertions report are ranges of the old and of the new text, and
without them the two texts have the same lines. A change is read as whoever
gets it can read it, from its kind, its line and the number that its detail
opens with. No change is reported exactly if the texts are equal
(`changes_eq_nil_iff`).
-/

namespace Changeset.LineDiff

open Edit (Range Run Side)

-- ---------------------------------------------------------------------------
-- Reading a change
-- ---------------------------------------------------------------------------

def stated (detail : String) : Nat := Digit.toNat (detail.toList.takeWhile Digit.isDigit)

/-- The lines that a change reports, counted from 0. -/
def reported (c : Change) : Range := ⟨c.line.toNat - 1, stated c.detail⟩

def reportedBy (kind : ChangeKind) (cs : List Change) : List Range :=
  (cs.filter (·.kind = kind)).map reported

theorem stated_change (r : Run) (index : Nat) : stated (change r index).detail = r.count := by
  have h : (change r index).detail.toList =
      Decimal.ofNat r.count ++ ' ' :: ("line(s) ".toList ++ (action r.side).toList) := by
    have hs : " line(s) ".toList = ' ' :: "line(s) ".toList := by decide
    simp only [change, String.toList_append, Decimal.toList_toString, hs, List.append_assoc,
      List.cons_append]
  rw [stated, h, Decimal.takeWhile_ofNat_append _ (by decide), Decimal.toNat_ofNat]

theorem reported_change (r : Run) (index : Nat) : reported (change r index) = r.range := by
  have hline : (change r index).line.toNat - 1 = r.start := rfl
  rw [reported, stated_change, hline, Run.range]

theorem kind_change (r : Run) (index : Nat) : (change r index).kind = runKind r.side := rfl

theorem runKind_eq_iff {side side' : Side} : runKind side = runKind side' ↔ side = side' := by
  cases side <;> cases side' <;> simp [runKind]

theorem reportedBy_mapIdx (side : Side) (rs : List Run) (shift : Nat) :
    reportedBy (runKind side) (rs.mapIdx fun index r => change r (index + shift)) =
      Edit.ranges side rs := by
  induction rs generalizing shift with
  | nil => rfl
  | cons r rs ih =>
    have hrest := ih (shift + 1)
    simp only [reportedBy, Edit.ranges] at hrest ⊢
    rw [List.mapIdx_cons, List.filter_cons, List.filter_cons]
    simp only [Nat.add_assoc, Nat.add_comm 1] at hrest ⊢
    by_cases h : r.side = side
    · simp [kind_change, h, reported_change, hrest]
    · simp [kind_change, runKind_eq_iff, h, hrest]

theorem reportedBy_changes (side : Side) (before after : Text) :
    reportedBy (runKind side) (changes before after) = Edit.ranges side (runs before after) :=
  reportedBy_mapIdx side (runs before after) 0

theorem reportedBy_delete (before after : Text) :
    reportedBy .delete (changes before after) = Edit.ranges .removed (runs before after) :=
  reportedBy_changes .removed before after

theorem reportedBy_insert (before after : Text) :
    reportedBy .insert (changes before after) = Edit.ranges .added (runs before after) :=
  reportedBy_changes .added before after

-- ---------------------------------------------------------------------------
-- The script
-- ---------------------------------------------------------------------------

/-- Nonempty ranges of `ls`, no two with a common line. -/
structure Marks (rs : List Range) (ls : List Text) : Prop where
  nonempty : ∀ r ∈ rs, 1 ≤ r.count
  inside : ∀ r ∈ rs, r.stop ≤ ls.length
  disjoint : rs.Pairwise Range.Disjoint

theorem marks_of_ordered {rs : List Range} {ls : List Text} (h : Range.Ordered ls.length 0 rs) :
    Marks rs ls where
  nonempty := fun r hr => (h.mem r hr).2.1
  inside := fun r hr => (h.mem r hr).2.2
  disjoint := h.disjoint

theorem line_pos_of_mem_changes {before after : Text} {c : Change} (hc : c ∈ changes before after) :
    1 ≤ c.line := by
  obtain ⟨i, hi, rfl⟩ := List.mem_mapIdx.mp hc
  simp only [change]
  omega

/--
Every change deletes lines of the old text or inserts lines of the new one, and
what is left of either text is the same.
-/
theorem changes_leave_same_lines (before after : Text) :
    (∀ c ∈ changes before after, (c.kind = .delete ∨ c.kind = .insert) ∧ 1 ≤ c.line) ∧
    Marks (reportedBy .delete (changes before after)) (lines before) ∧
    Marks (reportedBy .insert (changes before after)) (lines after) ∧
    Range.remove (reportedBy .delete (changes before after)) (lines before) =
      Range.remove (reportedBy .insert (changes before after)) (lines after) := by
  have hdelete : reportedBy .delete (changes before after) =
      Edit.ranges .removed (runs before after) :=
    reportedBy_changes .removed before after
  have hinsert : reportedBy .insert (changes before after) =
      Edit.ranges .added (runs before after) :=
    reportedBy_changes .added before after
  rw [hdelete, hinsert]
  refine ⟨?_, marks_of_ordered (Edit.ordered_removed _ _),
    marks_of_ordered (Edit.ordered_added _ _), Edit.remove_ranges _ _⟩
  intro c hc
  refine ⟨?_, line_pos_of_mem_changes hc⟩
  obtain ⟨i, hi, rfl⟩ := List.mem_mapIdx.mp hc
  rw [kind_change]
  cases (runs before after)[i].side
  · exact .inl rfl
  · exact .inr rfl

/-- Texts of the same lines are equal, so a text without changes is the other one. -/
theorem changes_eq_nil_iff (before after : Text) : changes before after = [] ↔ before = after := by
  rw [changes, List.mapIdx_eq_nil_iff, runs, Edit.runs_eq_nil_iff, lines, lines, Lines.split_inj]

end Changeset.LineDiff
