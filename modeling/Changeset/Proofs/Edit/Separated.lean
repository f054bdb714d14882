import Changeset.Proofs.Edit.Kept

/-!
# Runs are whole and in order

A run is followed by a kept element, or by the run that takes its place: where
elements are removed and others are added between the same two blocks, the
removed ones come first (`isChain_runs`). Gaps of one side have a block between
them, so they never touch (`pairwise_ranges_runs`).
-/

namespace Changeset.Edit

-- ---------------------------------------------------------------------------
-- Gaps
-- ---------------------------------------------------------------------------

theorem Range.mem_gap {lo hi : Nat} {r : Range} (h : r ∈ gap lo hi) :
    r.start = lo ∧ r.stop = hi := by
  unfold gap at h
  split at h
  · rw [List.mem_singleton.mp h]
    exact ⟨rfl, by simp only [stop]; omega⟩
  · cases h

theorem Range.pairwise_gaps {hi lo : Nat} {rs : List Range} (h : Ordered hi lo rs) :
    (gaps hi lo rs).Pairwise fun r s => r.stop < s.start := by
  have hgap (lo hi : Nat) : (gap lo hi).Pairwise fun r s => r.stop < s.start := by
    unfold gap
    split
    · exact List.pairwise_singleton _ _
    · exact .nil
  induction rs generalizing lo with
  | nil => exact hgap lo hi
  | cons r rs ih =>
    obtain ⟨-, hpos, hrest⟩ := h
    refine List.pairwise_append.mpr ⟨hgap lo r.start, ih hrest, ?_⟩
    intro s hs t ht
    -- The range `r` stands between the two gaps and is not empty.
    have hbefore := (mem_gap hs).2
    have hbehind := ((ordered_gaps hrest).mem t ht).1
    simp only [stop] at hbefore hbehind ⊢
    omega

-- ---------------------------------------------------------------------------
-- Kept elements around runs
-- ---------------------------------------------------------------------------

def Side.index : Side → Nat × Nat → Nat
  | .removed, p => p.1
  | .added, p => p.2

def Run.EndsBefore (r : Run) (p : Nat × Nat) : Prop := r.range.stop ≤ r.side.index p

def Run.StartsBehind (r : Run) (p : Nat × Nat) : Prop := r.side.index p < r.range.start

def Apart (kept : List (Nat × Nat)) (r s : Run) : Prop :=
  ∃ p ∈ kept, r.EndsBefore p ∧ s.StartsBehind p

/-- `s` adds in the place where `r` removes: whatever is kept stands before both or behind both. -/
structure Replaces (kept : List (Nat × Nat)) (s r : Run) : Prop where
  removes : r.side = .removed
  adds : s.side = .added
  together : ∀ p ∈ kept, (r.StartsBehind p ∧ s.StartsBehind p) ∨ (r.EndsBefore p ∧ s.EndsBefore p)

def Follows (kept : List (Nat × Nat)) (r s : Run) : Prop := Apart kept r s ∨ Replaces kept s r

theorem range_mem_ranges {r : Run} {rs : List Run} (h : r ∈ rs) : r.range ∈ ranges r.side rs :=
  List.mem_map.mpr ⟨r, List.mem_filter.mpr ⟨h, decide_eq_true rfl⟩, rfl⟩

theorem stop_of_mem_gapRuns {left right : Nat} {b : Block} {r : Run} (h : r ∈ gapRuns left right b) :
    r.range.stop = r.side.index (b.left, b.right) := by
  have hrange := range_mem_ranges h
  cases hside : r.side with
  | removed =>
    rw [hside, ranges_removed_gapRuns] at hrange
    exact (Range.mem_gap hrange).2
  | added =>
    rw [hside, ranges_added_gapRuns] at hrange
    exact (Range.mem_gap hrange).2

theorem isChain_gapRuns {kept : List (Nat × Nat)} {left right : Nat} {b : Block}
    (hkept : ∀ p ∈ kept, (p.1 < left ∧ p.2 < right) ∨ (b.left ≤ p.1 ∧ b.right ≤ p.2)) :
    (gapRuns left right b).IsChain (Follows kept) := by
  by_cases hl : left < b.left <;> by_cases hr : right < b.right <;> simp only [gapRuns, hl, hr]
  · refine List.isChain_pair.mpr (.inr ⟨rfl, rfl, ?_⟩)
    intro p hp
    rcases hkept p hp with hbefore | ⟨hleft, hright⟩
    · exact .inl hbefore
    · refine .inr ⟨?_, ?_⟩ <;> simp only [Run.EndsBefore, Run.range, Range.stop, Side.index] <;> omega
  all_goals simp

section
variable {leftEnd rightEnd left right : Nat} {bs : List Block}

theorem index_le_start_of_mem_runsFrom
    (hleft : Range.Ordered leftEnd left (bs.map Block.leftRange))
    (hright : Range.Ordered rightEnd right (bs.map Block.rightRange)) {r : Run}
    (h : r ∈ runsFrom leftEnd rightEnd left right bs) :
    r.side.index (left, right) ≤ r.range.start := by
  have hrange := range_mem_ranges h
  cases hside : r.side with
  | removed =>
    rw [hside, ranges_removed_runsFrom] at hrange
    exact ((Range.ordered_gaps hleft).mem _ hrange).1
  | added =>
    rw [hside, ranges_added_runsFrom] at hrange
    exact ((Range.ordered_gaps hright).mem _ hrange).1

theorem start_le_of_mem {hi lo : Nat} {r s : Range} {rs : List Range}
    (h : Range.Ordered hi lo (r :: rs)) (hs : s ∈ r :: rs) : r.start ≤ s.start := by
  rcases List.mem_cons.mp hs with rfl | hs
  · exact Nat.le_refl _
  · exact (Nat.le_add_right _ _).trans (h.2.2.mem s hs).1

theorem isChain_runsFrom {kept : List (Nat × Nat)}
    (hleft : Range.Ordered leftEnd left (bs.map Block.leftRange))
    (hright : Range.Ordered rightEnd right (bs.map Block.rightRange))
    (hpairs : ∀ b ∈ bs, ∀ p ∈ b.pairs, p ∈ kept)
    (hkept : ∀ p ∈ kept, (p.1 < left ∧ p.2 < right) ∨ ∃ b ∈ bs, p ∈ b.pairs) :
    (runsFrom leftEnd rightEnd left right bs).IsChain (Follows kept) := by
  -- What is kept lies before the indices that are reached or in a block to come.
  induction bs generalizing left right with
  | nil =>
    refine isChain_gapRuns fun p hp => ?_
    rcases hkept p hp with hbefore | ⟨b, hb, -⟩
    · exact .inl hbefore
    · cases hb
  | cons b bs ih =>
    have hl : left ≤ b.left := hleft.1
    have hr : right ≤ b.right := hright.1
    have hpos : 0 < b.size := hleft.2.1
    refine List.IsChain.append ?_ (ih hleft.2.2 hright.2.2 ?_ ?_) ?_
    · refine isChain_gapRuns fun p hp => ?_
      rcases hkept p hp with hbefore | ⟨c, hc, hpc⟩
      · exact .inl hbefore
      · obtain ⟨t, -, rfl⟩ := Block.mem_pairs.mp hpc
        have hcl : b.left ≤ c.left := start_le_of_mem hleft (List.mem_map_of_mem hc)
        have hcr : b.right ≤ c.right := start_le_of_mem hright (List.mem_map_of_mem hc)
        exact .inr ⟨Nat.le_add_right_of_le hcl, Nat.le_add_right_of_le hcr⟩
    · exact fun c hc => hpairs c (List.mem_cons_of_mem _ hc)
    · intro p hp
      rcases hkept p hp with ⟨hpl, hpr⟩ | ⟨c, hc, hpc⟩
      · exact .inl ⟨by omega, by omega⟩
      · rcases List.mem_cons.mp hc with rfl | hc
        · obtain ⟨t, ht, rfl⟩ := Block.mem_pairs.mp hpc
          exact .inl ⟨Nat.add_lt_add_left ht _, Nat.add_lt_add_left ht _⟩
        · exact .inr ⟨c, hc, hpc⟩
    · intro r hrs s hss
      -- The first elements of the block stand behind its gap and before all runs to come.
      have hfirst : (b.left, b.right) ∈ b.pairs := Block.mem_pairs.mpr ⟨0, hpos, rfl⟩
      have hends := stop_of_mem_gapRuns (List.mem_of_getLast? hrs)
      have hstarts := index_le_start_of_mem_runsFrom hleft.2.2 hright.2.2 (List.mem_of_head? hss)
      refine .inl ⟨_, hpairs b (List.mem_cons_self ..) _ hfirst, hends.le, ?_⟩
      refine Nat.lt_of_lt_of_le ?_ hstarts
      cases s.side <;> exact Nat.lt_add_of_pos_right hpos

end

-- ---------------------------------------------------------------------------
-- Runs of two sequences
-- ---------------------------------------------------------------------------

variable {α : Type} [DecidableEq α]

theorem isChain_runs (xs ys : List α) : (runs xs ys).IsChain (Follows (keptPairs xs ys)) := by
  have h := aligned_blocks xs ys
  refine isChain_runsFrom h.left h.right ?_ ?_
  · exact fun b hb p hp => mem_keptPairs.mpr ⟨b, hb, hp⟩
  · exact fun p hp => .inr (mem_keptPairs.mp hp)

theorem pairwise_ranges_runs (side : Side) (xs ys : List α) :
    (ranges side (runs xs ys)).Pairwise fun r s => r.stop < s.start := by
  have h := aligned_blocks xs ys
  cases side with
  | removed =>
    rw [runs, ranges_removed_runsFrom]
    exact Range.pairwise_gaps h.left
  | added =>
    rw [runs, ranges_added_runsFrom]
    exact Range.pairwise_gaps h.right

end Changeset.Edit
