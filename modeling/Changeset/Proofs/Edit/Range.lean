import Mathlib.Data.List.Basic

/-!
# Ranges of a sequence

Ranges that stand one behind the other (`Ordered`) and the gaps between them
(`gaps`) cut a sequence in two: removing the gaps leaves the ranges
(`remove_gaps`). Everything here is about one sequence; an alignment is two
such cuts with the same ranges.
-/

namespace Changeset.Edit

structure Range where
  start : Nat
  count : Nat
  deriving DecidableEq, Repr

namespace Range

def stop (r : Range) : Nat := r.start + r.count

def covers (r : Range) (i : Nat) : Bool := r.start ≤ i && i < r.stop

def Disjoint (r s : Range) : Prop := ∀ i, r.covers i = true → s.covers i = false

def shift (r : Range) (n : Nat) : Range := ⟨r.start + n, r.count⟩

theorem covers_iff {r : Range} {i : Nat} : r.covers i = true ↔ r.start ≤ i ∧ i < r.stop := by
  simp [covers]

theorem not_covers_iff {r : Range} {i : Nat} : r.covers i = false ↔ i < r.start ∨ r.stop ≤ i := by
  rw [← Bool.not_eq_true, covers_iff]
  omega

theorem stop_shift (r : Range) (n : Nat) : (r.shift n).stop = r.stop + n := by
  simp only [stop, shift]
  omega

variable {α : Type}

def slice (r : Range) (xs : List α) : List α := (xs.drop r.start).take r.count

theorem slice_take {r : Range} {n : Nat} (h : r.stop ≤ n) (xs : List α) :
    r.slice (xs.take n) = r.slice xs := by
  unfold stop at h
  rw [slice, List.drop_take, List.take_take, Nat.min_eq_left (by omega), slice]

theorem slice_drop (r : Range) (n : Nat) (xs : List α) :
    r.slice (xs.drop n) = (r.shift n).slice xs := by
  rw [slice, List.drop_drop, Nat.add_comm, slice, shift]

def removeFrom (lo : Nat) (rs : List Range) (xs : List α) : List α :=
  (((xs.drop lo).zipIdx lo).filter fun p => !rs.any (·.covers p.2)).map Prod.fst

def remove (rs : List Range) (xs : List α) : List α :=
  (xs.zipIdx.filter fun p => !rs.any (·.covers p.2)).map Prod.fst

theorem removeFrom_zero (rs : List Range) (xs : List α) : removeFrom 0 rs xs = remove rs xs := rfl

theorem removeFrom_of_length_le {lo : Nat} (rs : List Range) {xs : List α} (h : xs.length ≤ lo) :
    removeFrom lo rs xs = [] := by
  simp [removeFrom, List.drop_eq_nil_of_le h]

theorem snd_mem_zipIdx_take {xs : List α} {lo n : Nat} {p : α × Nat}
    (hp : p ∈ ((xs.drop lo).take n).zipIdx lo) : lo ≤ p.2 ∧ p.2 < lo + n := by
  have hlt := List.snd_lt_add_of_mem_zipIdx hp
  rw [List.length_take] at hlt
  exact ⟨List.le_snd_of_mem_zipIdx hp, by omega⟩

theorem removeFrom_split {lo mid : Nat} (h : lo ≤ mid) (rs : List Range) (xs : List α) :
    removeFrom lo rs xs =
      ((((xs.drop lo).take (mid - lo)).zipIdx lo).filter fun p =>
        !rs.any (·.covers p.2)).map Prod.fst ++ removeFrom mid rs xs := by
  by_cases hmid : mid ≤ xs.length
  · have hd : xs.drop lo = (xs.drop lo).take (mid - lo) ++ xs.drop mid := by
      rw [← Nat.add_sub_cancel' h, ← List.drop_drop, Nat.add_sub_cancel_left, List.take_append_drop]
    have hl : lo + ((xs.drop lo).take (mid - lo)).length = mid := by
      simp only [List.length_take, List.length_drop]
      omega
    conv_lhs => rw [removeFrom, hd, List.zipIdx_append, List.filter_append, List.map_append, hl]
    rfl
  · have hend : removeFrom mid rs xs = [] := removeFrom_of_length_le rs (by omega)
    rw [hend, List.append_nil, List.take_of_length_le, removeFrom]
    simp only [List.length_drop]
    omega

theorem removeFrom_before {lo mid : Nat} (h : lo ≤ mid) {rs : List Range}
    (hrs : ∀ r ∈ rs, mid ≤ r.start) (xs : List α) :
    removeFrom lo rs xs = (xs.drop lo).take (mid - lo) ++ removeFrom mid rs xs := by
  rw [removeFrom_split h]
  congr 1
  rw [List.filter_eq_self.mpr]
  · simp
  · intro p hp
    obtain ⟨-, hlt⟩ := snd_mem_zipIdx_take hp
    simp only [Bool.not_eq_true', List.any_eq_false, Bool.not_eq_true]
    intro r hr
    exact not_covers_iff.mpr (.inl (by have := hrs r hr; omega))

/-- A range at the front takes all its elements, and none behind it. -/
theorem removeFrom_cons (r : Range) (rs : List Range) (xs : List α) :
    removeFrom r.start (r :: rs) xs = removeFrom r.stop rs xs := by
  have hle : r.start ≤ r.stop := Nat.le_add_right _ _
  rw [removeFrom_split hle, List.filter_eq_nil_iff.mpr, List.map_nil, List.nil_append]
  · unfold removeFrom
    congr 1
    refine List.filter_congr fun p hp => ?_
    have hge := List.le_snd_of_mem_zipIdx hp
    rw [List.any_cons, not_covers_iff.mpr (.inr hge), Bool.false_or]
  · intro p hp
    obtain ⟨hge, hlt⟩ := snd_mem_zipIdx_take hp
    have : r.covers p.2 = true := covers_iff.mpr ⟨hge, by omega⟩
    simp [this]

-- ---------------------------------------------------------------------------
-- Ranges one behind the other
-- ---------------------------------------------------------------------------

/-- Nonempty ranges in order between the indices `lo` and `hi`. -/
def Ordered (hi : Nat) : Nat → List Range → Prop
  | lo, [] => lo ≤ hi
  | lo, r :: rs => lo ≤ r.start ∧ 0 < r.count ∧ Ordered hi r.stop rs

theorem Ordered.mono {hi lo lo' : Nat} {rs : List Range} (h : Ordered hi lo' rs) (hlo : lo ≤ lo') :
    Ordered hi lo rs := by
  cases rs with
  | nil => exact Nat.le_trans hlo h
  | cons r rs => exact ⟨Nat.le_trans hlo h.1, h.2⟩

theorem Ordered.append {mid hi lo : Nat} {rs ss : List Range} (h : Ordered mid lo rs)
    (hs : Ordered hi mid ss) : Ordered hi lo (rs ++ ss) := by
  induction rs generalizing lo with
  | nil => exact hs.mono h
  | cons r rs ih => exact ⟨h.1, h.2.1, ih h.2.2⟩

theorem Ordered.shift {hi lo : Nat} {rs : List Range} (h : Ordered hi lo rs) (n : Nat) :
    Ordered (hi + n) (lo + n) (rs.map (·.shift n)) := by
  induction rs generalizing lo with
  | nil => exact Nat.add_le_add_right h n
  | cons r rs ih =>
    refine ⟨Nat.add_le_add_right h.1 n, h.2.1, ?_⟩
    rw [stop_shift]
    exact ih h.2.2

theorem Ordered.around {n : Nat} {r : Range} {rs ss : List Range} (hr : 0 < r.count)
    (hn : r.stop ≤ n) (hrs : Ordered r.start 0 rs) (hss : Ordered (n - r.stop) 0 ss) :
    Ordered n 0 (rs ++ r :: ss.map (·.shift r.stop)) := by
  refine hrs.append ⟨Nat.le_refl _, hr, ?_⟩
  have h := hss.shift r.stop
  rwa [Nat.sub_add_cancel hn, Nat.zero_add] at h

theorem Ordered.le {hi lo : Nat} {rs : List Range} (h : Ordered hi lo rs) : lo ≤ hi := by
  induction rs generalizing lo with
  | nil => exact h
  | cons r rs ih =>
    have hle := ih h.2.2
    have h1 := h.1
    unfold stop at hle
    omega

theorem Ordered.mem {hi lo : Nat} {rs : List Range} (h : Ordered hi lo rs) :
    ∀ r ∈ rs, lo ≤ r.start ∧ 0 < r.count ∧ r.stop ≤ hi := by
  induction rs generalizing lo with
  | nil => simp
  | cons r rs ih =>
    obtain ⟨h1, h2, h3⟩ := h
    intro s hs
    rcases List.mem_cons.mp hs with rfl | hs
    · exact ⟨h1, h2, h3.le⟩
    · obtain ⟨hs1, hs2⟩ := ih h3 s hs
      unfold stop at hs1
      exact ⟨by omega, hs2⟩

theorem Ordered.pairwise {hi lo : Nat} {rs : List Range} (h : Ordered hi lo rs) :
    rs.Pairwise fun r s => r.stop ≤ s.start := by
  induction rs generalizing lo with
  | nil => exact .nil
  | cons r rs ih => exact .cons (fun s hs => (h.2.2.mem s hs).1) (ih h.2.2)

theorem Ordered.disjoint {hi lo : Nat} {rs : List Range} (h : Ordered hi lo rs) :
    rs.Pairwise Disjoint := by
  refine h.pairwise.imp ?_
  intro r s hrs i hi
  obtain ⟨-, hlt⟩ := covers_iff.mp hi
  exact not_covers_iff.mpr (.inl (by omega))

-- ---------------------------------------------------------------------------
-- Gaps
-- ---------------------------------------------------------------------------

def gap (lo hi : Nat) : List Range := if lo < hi then [⟨lo, hi - lo⟩] else []

def gaps (hi : Nat) : Nat → List Range → List Range
  | lo, [] => gap lo hi
  | lo, r :: rs => gap lo r.start ++ gaps hi r.stop rs

theorem ordered_gap {lo hi : Nat} (h : lo ≤ hi) : Ordered hi lo (gap lo hi) := by
  unfold gap
  split
  · exact ⟨Nat.le_refl _, by simp only; omega, by simp only [Ordered, stop]; omega⟩
  · exact h

theorem ordered_gaps {hi lo : Nat} {rs : List Range} (h : Ordered hi lo rs) :
    Ordered hi lo (gaps hi lo rs) := by
  induction rs generalizing lo with
  | nil => exact ordered_gap h
  | cons r rs ih => exact (ordered_gap h.1).append ((ih h.2.2).mono (Nat.le_add_right _ _))

theorem removeFrom_gap {lo hi : Nat} (h : lo ≤ hi) (rs : List Range) (xs : List α) :
    removeFrom lo (gap lo hi ++ rs) xs = removeFrom hi rs xs := by
  unfold gap
  split
  · have hstop : stop ⟨lo, hi - lo⟩ = hi := by simp only [stop]; omega
    exact (removeFrom_cons ⟨lo, hi - lo⟩ rs xs).trans (by rw [hstop])
  · rw [List.nil_append, show lo = hi by omega]

/-- Removing the gaps leaves the ranges. -/
theorem removeFrom_gaps {xs : List α} {lo : Nat} {rs : List Range} (h : Ordered xs.length lo rs) :
    removeFrom lo (gaps xs.length lo rs) xs = rs.flatMap (·.slice xs) := by
  induction rs generalizing lo with
  | nil =>
    have hg := removeFrom_gap h [] xs
    rw [List.append_nil, removeFrom_of_length_le _ (Nat.le_refl _)] at hg
    exact hg
  | cons r rs ih =>
    have hle : r.start ≤ r.stop := Nat.le_add_right _ _
    have hbehind : ∀ s ∈ gaps xs.length r.stop rs, r.stop ≤ s.start :=
      fun s hs => ((ordered_gaps h.2.2).mem s hs).1
    rw [gaps, removeFrom_gap h.1, removeFrom_before hle hbehind, ih h.2.2, List.flatMap_cons, slice,
      show r.stop - r.start = r.count by simp [stop]]

theorem remove_gaps {xs : List α} {rs : List Range} (h : Ordered xs.length 0 rs) :
    remove (gaps xs.length 0 rs) xs = rs.flatMap (·.slice xs) := by
  rw [← removeFrom_zero, removeFrom_gaps h]

end Range

end Changeset.Edit
