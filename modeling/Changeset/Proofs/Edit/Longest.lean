import Changeset.Edit.Block
import Mathlib.Data.List.Infix

/-!
# The longest block is longest

`length_le_longest`: no run that two sequences have in common is longer than
their longest block. The rows of lengths hold, for each place of the left
sequence, what is common from there and from each place of the right one
(`commonLength_mem_tailLengths`), so the block that the rows give is at least as
long as any of them. It is one of the blocks that align the sequences
(`longest_mem_blocks`).
-/

namespace Changeset.Edit

variable {α : Type}

theorem le_longestAt (left right : Nat) {ns : List Nat} {n : Nat} (hn : n ∈ ns) :
    n ≤ (longestAt left right ns).size := by
  induction ns generalizing right with
  | nil => cases hn
  | cons m ms ih =>
    rw [longestAt, Block.longer_size]
    rcases List.mem_cons.mp hn with rfl | hn
    · exact Nat.le_max_left _ _
    · exact (ih (right + 1) hn).trans (Nat.le_max_right _ _)

variable [DecidableEq α]

theorem commonLength_mem_tailLengths (xs ys : List α) (j : Nat) :
    commonLength xs (ys.drop j) ∈ tailLengths xs ys := by
  induction ys generalizing j with
  | nil => simp [tailLengths]
  | cons y ys ih =>
    rw [tailLengths, List.mem_cons]
    cases j with
    | zero => exact .inl rfl
    | succ j => exact .inr (ih j)

theorem commonLength_le_longest (xs ys : List α) (i j : Nat) :
    commonLength (xs.drop i) (ys.drop j) ≤ (longest xs ys).size := by
  induction xs generalizing i with
  | nil => simp
  | cons x xs ih =>
    rw [longest_cons, Block.longer_size, Block.shift_size]
    cases i with
    | zero =>
      have hrow := le_longestAt 0 0 (commonLength_mem_tailLengths (x :: xs) ys j)
      exact hrow.trans (Nat.le_max_left _ _)
    | succ i => exact (ih i).trans (Nat.le_max_right _ _)

theorem length_le_commonLength {run xs ys : List α} (hxs : run <+: xs) (hys : run <+: ys) :
    run.length ≤ commonLength xs ys := by
  obtain ⟨xs, rfl⟩ := hxs
  obtain ⟨ys, rfl⟩ := hys
  induction run with
  | nil => exact Nat.zero_le _
  | cons x run ih =>
    rw [List.cons_append, List.cons_append, commonLength_cons, if_pos rfl, List.length_cons]
    exact Nat.succ_le_succ ih

theorem length_le_longest {run xs ys : List α} (hxs : run <:+: xs) (hys : run <:+: ys) :
    run.length ≤ (longest xs ys).size := by
  obtain ⟨before, behind, rfl⟩ := hxs
  obtain ⟨before', behind', rfl⟩ := hys
  have hleft : run <+: (before ++ run ++ behind).drop before.length := by
    simp
  have hright : run <+: (before' ++ run ++ behind').drop before'.length := by
    simp
  exact (length_le_commonLength hleft hright).trans (commonLength_le_longest _ _ _ _)

theorem longest_mem_blocks {xs ys : List α} (h : 0 < (longest xs ys).size) :
    longest xs ys ∈ blocks xs ys := by
  rw [blocks, dif_neg (Nat.ne_of_gt h)]
  exact List.mem_append_right _ (List.mem_cons_self ..)

end Changeset.Edit
