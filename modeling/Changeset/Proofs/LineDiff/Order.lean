import Changeset.Proofs.Edit.Separated
import Changeset.Proofs.LineDiff.Kept

/-!
# Changes are whole runs, in order

`changes_whole_inOrder`: the changes are numbered as they come, those of one
text go up through its lines, and no two of them touch. From one change to the
next there is a line that both texts keep, unless lines are replaced; then the
old lines are deleted first and the new ones are inserted next, in the same place
between kept lines. So lines that stand together are never reported apart, and
an insertion is not followed at once by a deletion.
-/

namespace Changeset.LineDiff

open Edit (Follows Run)

def told (c : Change) : Run where
  side := if c.kind = .insert then .added else .removed
  start := (reported c).start
  count := (reported c).count

theorem told_change (r : Run) (index : Nat) : told (change r index) = r := by
  rw [told, reported_change, kind_change]
  obtain ⟨side, start, count⟩ := r
  cases side <;> rfl

theorem map_name_changes (before after : Text) :
    (changes before after).map Change.name =
      (List.range (changes before after).length).map fun i => "chunk_" ++ toString i := by
  rw [changes, List.length_mapIdx]
  refine List.ext_getElem (by simp) ?_
  intro i hi hi'
  simp [change]

theorem isChain_changes (before after : Text) :
    (changes before after).IsChain fun c d =>
      Follows (keptLines before after) (told c) (told d) := by
  have hruns := Edit.isChain_runs (lines before) (lines after)
  rw [← keptLines_eq, List.isChain_iff_getElem] at hruns
  rw [List.isChain_iff_getElem]
  intro i hi
  simp only [changes, List.length_mapIdx] at hi
  simp only [changes, List.getElem_mapIdx, told_change]
  exact hruns i hi

/-- Each change has the number of its place, the lines that are reported of either text go up and
never touch, and between one change and the next a line is kept or none belongs. -/
theorem changes_whole_inOrder (before after : Text) :
    (changes before after).map Change.name =
      (List.range (changes before after).length).map (fun i => "chunk_" ++ toString i) ∧
    (reportedBy .delete (changes before after)).Pairwise (fun r s => r.stop < s.start) ∧
    (reportedBy .insert (changes before after)).Pairwise (fun r s => r.stop < s.start) ∧
    (changes before after).IsChain fun c d =>
      Follows (keptLines before after) (told c) (told d) := by
  refine ⟨map_name_changes before after, ?_, ?_, isChain_changes before after⟩
  · rw [reportedBy_delete]
    exact Edit.pairwise_ranges_runs .removed _ _
  · rw [reportedBy_insert]
    exact Edit.pairwise_ranges_runs .added _ _

end Changeset.LineDiff
