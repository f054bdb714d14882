import Changeset.Edit.Run
import Changeset.Proofs.Edit.Range

/-!
# The blocks align the sequences

`aligned_blocks`: the matching blocks stand one behind the other in both
sequences and hold the same elements there, which goes through the
decomposition around the longest block. The edit runs of a side are the gaps
between the blocks of that side, so removing them leaves the elements of the
blocks on either side (`remove_ranges`). No run is left exactly if the sequences
are equal (`runs_eq_nil_iff`), where one block is all of either.
-/

namespace Changeset.Edit

variable {α : Type}

-- ---------------------------------------------------------------------------
-- Blocks
-- ---------------------------------------------------------------------------

def Block.leftRange (b : Block) : Range := ⟨b.left, b.size⟩

def Block.rightRange (b : Block) : Range := ⟨b.right, b.size⟩

/-- Blocks in order that hold the same elements in both sequences. -/
structure Aligned (xs ys : List α) (bs : List Block) : Prop where
  left : Range.Ordered xs.length 0 (bs.map Block.leftRange)
  right : Range.Ordered ys.length 0 (bs.map Block.rightRange)
  common : ∀ b ∈ bs, b.leftRange.slice xs = b.rightRange.slice ys

theorem Aligned.nil (xs ys : List α) : Aligned xs ys [] where
  left := Nat.zero_le _
  right := Nat.zero_le _
  common := by simp

theorem Aligned.around {xs ys : List α} {b : Block} {bs cs : List Block} (hpos : 0 < b.size)
    (hleft : b.left + b.size ≤ xs.length) (hright : b.right + b.size ≤ ys.length)
    (hcommon : b.leftRange.slice xs = b.rightRange.slice ys)
    (hbs : Aligned (xs.take b.left) (ys.take b.right) bs)
    (hcs : Aligned (xs.drop (b.left + b.size)) (ys.drop (b.right + b.size)) cs) :
    Aligned xs ys (bs ++ b :: cs.map (·.shift (b.left + b.size) (b.right + b.size))) where
  left := by
    have hb := hbs.left
    have hc := hcs.left
    rw [List.length_take, Nat.min_eq_left (by omega)] at hb
    rw [List.length_drop] at hc
    have h := Range.Ordered.around (r := b.leftRange) hpos hleft hb hc
    rw [List.map_map] at h
    rw [List.map_append, List.map_cons, List.map_map]
    exact h
  right := by
    have hb := hbs.right
    have hc := hcs.right
    rw [List.length_take, Nat.min_eq_left (by omega)] at hb
    rw [List.length_drop] at hc
    have h := Range.Ordered.around (r := b.rightRange) hpos hright hb hc
    rw [List.map_map] at h
    rw [List.map_append, List.map_cons, List.map_map]
    exact h
  common := by
    intro c hc
    rcases List.mem_append.mp hc with hc | hc
    · have hl := (hbs.left.mem _ (List.mem_map_of_mem hc)).2.2
      have hr := (hbs.right.mem _ (List.mem_map_of_mem hc)).2.2
      rw [List.length_take] at hl hr
      have h := hbs.common c hc
      rwa [Range.slice_take (by omega), Range.slice_take (by omega)] at h
    · rcases List.mem_cons.mp hc with rfl | hc
      · exact hcommon
      · obtain ⟨d, hd, rfl⟩ := List.mem_map.mp hc
        have h := hcs.common d hd
        rwa [Range.slice_drop, Range.slice_drop] at h

variable [DecidableEq α]

theorem take_commonLength (xs ys : List α) :
    xs.take (commonLength xs ys) = ys.take (commonLength xs ys) := by
  fun_induction commonLength xs ys <;> simp_all

theorem slice_longest (xs ys : List α) :
    (longest xs ys).leftRange.slice xs = (longest xs ys).rightRange.slice ys := by
  obtain ⟨-, -, hs⟩ := longest_spec xs ys
  simp only [Range.slice, Block.leftRange, Block.rightRange, hs]
  exact take_commonLength _ _

theorem aligned_blocks (xs ys : List α) : Aligned xs ys (blocks xs ys) := by
  fun_induction blocks xs ys with
  | case1 xs ys b h => exact .nil xs ys
  | case2 xs ys b h ihl ihr =>
    exact .around (Nat.pos_of_ne_zero h) (longest_left_le xs ys) (longest_right_le xs ys)
      (slice_longest xs ys) ihl ihr

-- ---------------------------------------------------------------------------
-- Runs
-- ---------------------------------------------------------------------------

def Run.range (r : Run) : Range := ⟨r.start, r.count⟩

def ranges (side : Side) (rs : List Run) : List Range := (rs.filter (·.side = side)).map Run.range

theorem ranges_append (side : Side) (rs ss : List Run) :
    ranges side (rs ++ ss) = ranges side rs ++ ranges side ss := by
  simp [ranges]

theorem ranges_removed_gapRuns (left right : Nat) (b : Block) :
    ranges .removed (gapRuns left right b) = Range.gap left b.left := by
  by_cases hl : left < b.left <;> by_cases hr : right < b.right <;>
    simp [ranges, gapRuns, Range.gap, Run.range, hl, hr]

theorem ranges_added_gapRuns (left right : Nat) (b : Block) :
    ranges .added (gapRuns left right b) = Range.gap right b.right := by
  by_cases hl : left < b.left <;> by_cases hr : right < b.right <;>
    simp [ranges, gapRuns, Range.gap, Run.range, hl, hr]

theorem ranges_removed_runsFrom (leftEnd rightEnd left right : Nat) (bs : List Block) :
    ranges .removed (runsFrom leftEnd rightEnd left right bs) =
      Range.gaps leftEnd left (bs.map Block.leftRange) := by
  induction bs generalizing left right with
  | nil => exact ranges_removed_gapRuns left right _
  | cons b bs ih =>
    rw [runsFrom, ranges_append, ranges_removed_gapRuns, ih]
    rfl

theorem ranges_added_runsFrom (leftEnd rightEnd left right : Nat) (bs : List Block) :
    ranges .added (runsFrom leftEnd rightEnd left right bs) =
      Range.gaps rightEnd right (bs.map Block.rightRange) := by
  induction bs generalizing left right with
  | nil => exact ranges_added_gapRuns left right _
  | cons b bs ih =>
    rw [runsFrom, ranges_append, ranges_added_gapRuns, ih]
    rfl

theorem ordered_removed (xs ys : List α) :
    Range.Ordered xs.length 0 (ranges .removed (runs xs ys)) := by
  rw [runs, ranges_removed_runsFrom]
  exact Range.ordered_gaps (aligned_blocks xs ys).left

theorem ordered_added (xs ys : List α) :
    Range.Ordered ys.length 0 (ranges .added (runs xs ys)) := by
  rw [runs, ranges_added_runsFrom]
  exact Range.ordered_gaps (aligned_blocks xs ys).right

theorem remove_ranges (xs ys : List α) :
    Range.remove (ranges .removed (runs xs ys)) xs =
      Range.remove (ranges .added (runs xs ys)) ys := by
  have h := aligned_blocks xs ys
  rw [runs, ranges_removed_runsFrom, ranges_added_runsFrom, Range.remove_gaps h.left,
    Range.remove_gaps h.right, List.flatMap_map, List.flatMap_map]
  exact List.flatMap_congr h.common

-- ---------------------------------------------------------------------------
-- Equal sequences
-- ---------------------------------------------------------------------------

theorem commonLength_self (xs : List α) : commonLength xs xs = xs.length := by
  induction xs with
  | nil => rfl
  | cons x xs ih => simp [commonLength_cons, ih]

theorem Block.longer_of_size_le {a b : Block} (h : b.size ≤ a.size) : a.longer b = a := by
  rw [Block.longer, if_neg (by omega)]

theorem longestAt_size_le (left right : Nat) (xs ys : List α) :
    (longestAt left right (tailLengths xs ys)).size ≤ xs.length := by
  obtain ⟨j, -, he⟩ := longestAt_tailLengths left right xs ys
  rw [he]
  exact commonLength_le_left xs (ys.drop j)

/-- A sequence is its own longest common block: the first one found is not exceeded by any other. -/
theorem longest_self (xs : List α) : longest xs xs = ⟨0, 0, xs.length⟩ := by
  cases xs with
  | nil => rfl
  | cons x xs =>
    have hrow : longestAt 0 0 (tailLengths (x :: xs) (x :: xs)) = ⟨0, 0, (x :: xs).length⟩ := by
      rw [tailLengths, longestAt, commonLength_self]
      exact Block.longer_of_size_le (longestAt_size_le 0 1 (x :: xs) xs)
    have hlater : (longest xs (x :: xs)).size ≤ (x :: xs).length := by
      have := longest_left_le xs (x :: xs)
      rw [List.length_cons]
      omega
    rw [longest_cons, hrow]
    exact Block.longer_of_size_le hlater

theorem blocks_nil_left (ys : List α) : blocks [] ys = [] := by
  rw [blocks]
  simp [longest_nil]

theorem blocks_self {xs : List α} (h : xs ≠ []) : blocks xs xs = [⟨0, 0, xs.length⟩] := by
  rw [blocks]
  simp [longest_self, h, blocks_nil_left]

theorem runs_self (xs : List α) : runs xs xs = [] := by
  cases xs with
  | nil =>
    rw [runs, blocks_nil_left]
    rfl
  | cons x xs =>
    rw [runs, blocks_self (List.cons_ne_nil x xs)]
    simp [runsFrom, gapRuns]

theorem runs_eq_nil_iff {xs ys : List α} : runs xs ys = [] ↔ xs = ys := by
  constructor
  · intro h
    have hsame := remove_ranges xs ys
    rw [h] at hsame
    simpa [ranges, Range.remove] using hsame
  · rintro rfl
    exact runs_self xs

end Changeset.Edit
