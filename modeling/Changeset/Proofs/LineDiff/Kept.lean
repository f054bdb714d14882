import Changeset.Proofs.Edit.Kept
import Changeset.Proofs.Edit.Longest
import Changeset.Proofs.LineDiff

/-!
# Common runs of lines are kept

The lines that no change reports are those that the texts keep, and each of them
pairs off with one of the other text (`keptLines`). `exists_isKeptRun`: of the
runs of lines that two texts have in common, one that is at least as long as any
given one is kept whole, since the alignment starts from a longest block and
only what lies before and behind it is aligned further.
-/

namespace Changeset.LineDiff

open Edit (Range longest)

/-- The lines that no change reports, by their indices in the old and in the new text. -/
def keptLines (before after : Text) : List (Nat × Nat) :=
  (Range.kept (reportedBy .delete (changes before after)) (lines before).length).zip
    (Range.kept (reportedBy .insert (changes before after)) (lines after).length)

theorem keptLines_eq (before after : Text) :
    keptLines before after = Edit.keptPairs (lines before) (lines after) := by
  rw [keptLines, reportedBy_delete, reportedBy_insert]
  rfl

theorem not_reported_of_mem_keptLines {before after : Text} {p : Nat × Nat}
    (hp : p ∈ keptLines before after) :
    (∀ r ∈ reportedBy .delete (changes before after), r.covers p.1 = false) ∧
      ∀ r ∈ reportedBy .insert (changes before after), r.covers p.2 = false := by
  obtain ⟨hleft, hright⟩ := List.of_mem_zip hp
  exact ⟨(Range.mem_kept.mp hleft).2, (Range.mem_kept.mp hright).2⟩

/-- The same `count` lines, from the index `i` on in the old text and from `j` on in the new one,
paired line by line. No change reports any of them on either side. -/
structure IsKeptRun (before after : Text) (i j count : Nat) : Prop where
  insideBefore : i + count ≤ (lines before).length
  insideAfter : j + count ≤ (lines after).length
  same : ((lines before).drop i).take count = ((lines after).drop j).take count
  paired : ∀ t < count, (i + t, j + t) ∈ keptLines before after
  notDeleted : ∀ r ∈ reportedBy .delete (changes before after), r.Disjoint ⟨i, count⟩
  notInserted : ∀ r ∈ reportedBy .insert (changes before after), r.Disjoint ⟨j, count⟩

theorem disjoint_of_not_covers {r : Range} {i count : Nat}
    (h : ∀ t < count, r.covers (i + t) = false) : r.Disjoint ⟨i, count⟩ := by
  intro n hn
  rw [Range.not_covers_iff]
  by_contra hinside
  simp only [Range.stop, not_or, Nat.not_lt, Nat.not_le] at hinside
  have hnone := h (n - i) (by omega)
  rw [Nat.add_sub_cancel' hinside.1, hn] at hnone
  cases hnone

theorem isKeptRun_of_paired {before after : Text} {i j count : Nat}
    (hbefore : i + count ≤ (lines before).length) (hafter : j + count ≤ (lines after).length)
    (hsame : ((lines before).drop i).take count = ((lines after).drop j).take count)
    (hpaired : ∀ t < count, (i + t, j + t) ∈ keptLines before after) :
    IsKeptRun before after i j count where
  insideBefore := hbefore
  insideAfter := hafter
  same := hsame
  paired := hpaired
  notDeleted := fun r hr => disjoint_of_not_covers fun t ht =>
    (not_reported_of_mem_keptLines (hpaired t ht)).1 r hr
  notInserted := fun r hr => disjoint_of_not_covers fun t ht =>
    (not_reported_of_mem_keptLines (hpaired t ht)).2 r hr

theorem isKeptRun_longest (before after : Text) :
    IsKeptRun before after (longest (lines before) (lines after)).left
      (longest (lines before) (lines after)).right
      (longest (lines before) (lines after)).size := by
  refine isKeptRun_of_paired (Edit.longest_left_le _ _) (Edit.longest_right_le _ _)
    (Edit.slice_longest _ _) ?_
  intro t ht
  rw [keptLines_eq, Edit.mem_keptPairs]
  exact ⟨_, Edit.longest_mem_blocks (Nat.zero_lt_of_lt ht), Edit.Block.mem_pairs.mpr ⟨t, ht, rfl⟩⟩

/-- Whatever run of lines two texts have in common, one at least as long is kept whole. -/
theorem exists_isKeptRun {before after : Text} {run : List Text} (hbefore : run <:+: lines before)
    (hafter : run <:+: lines after) :
    ∃ i j count, run.length ≤ count ∧ IsKeptRun before after i j count :=
  ⟨_, _, _, Edit.length_le_longest hbefore hafter, isKeptRun_longest before after⟩

def repeated : Text := Text.ofString "a\na\nx\na\n\ny\na"

def repeatedLater : Text := Text.ofString "a\nz\nx\na\n\na\na\n"

theorem exists_isKeptRun_repeated :
    ["x\n", "a\n", "\n"].map Text.ofString <:+: lines repeated ∧
    ["x\n", "a\n", "\n"].map Text.ofString <:+: lines repeatedLater ∧
    ∃ i j count, 3 ≤ count ∧ IsKeptRun repeated repeatedLater i j count := by
  have hbefore : ["x\n", "a\n", "\n"].map Text.ofString <:+: lines repeated := by
    decide +kernel
  have hafter : ["x\n", "a\n", "\n"].map Text.ofString <:+: lines repeatedLater := by
    decide +kernel
  exact ⟨hbefore, hafter, exists_isKeptRun hbefore hafter⟩

end Changeset.LineDiff
