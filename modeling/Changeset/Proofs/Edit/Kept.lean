import Changeset.Proofs.Edit.Alignment
import Mathlib.Data.List.Range

/-!
# Kept elements

What no run covers is kept, and as both sequences keep the same elements in the
same order, the kept indices of one pair off with those of the other
(`keptPairs`). The pairs are those of the blocks, index by index
(`keptPairs_eq`), so an element that is kept is told from the runs alone.
-/

namespace Changeset.Edit

namespace Range

def kept (rs : List Range) (n : Nat) : List Nat := remove rs (List.range n)

theorem mem_kept {rs : List Range} {n i : Nat} :
    i ∈ kept rs n ↔ i < n ∧ ∀ r ∈ rs, r.covers i = false := by
  have hindex (p : Nat × Nat) : p ∈ (List.range n).zipIdx ↔ p.1 < n ∧ p.2 = p.1 := by
    rw [List.mem_zipIdx_iff_getElem?, List.getElem?_eq_some_iff]
    constructor
    · rintro ⟨hlt, he⟩
      rw [List.length_range] at hlt
      rw [List.getElem_range] at he
      exact ⟨he ▸ hlt, he⟩
    · rintro ⟨hlt, he⟩
      exact ⟨by simpa [he] using hlt, by simpa using he⟩
  simp [kept, remove, hindex]

theorem slice_range {r : Range} {n : Nat} (h : r.stop ≤ n) :
    r.slice (List.range n) = List.range' r.start r.count := by
  unfold stop at h
  rw [slice, List.range_eq_range', List.drop_range', List.take_range'_of_length_ge (by omega),
    Nat.zero_add, Nat.mul_one]

theorem kept_gaps {n : Nat} {rs : List Range} (h : Ordered n 0 rs) :
    kept (gaps n 0 rs) n = rs.flatMap fun r => List.range' r.start r.count := by
  have hlist : Ordered (List.range n).length 0 rs := by rwa [List.length_range]
  have hgaps := remove_gaps hlist
  rw [List.length_range] at hgaps
  rw [kept, hgaps]
  exact List.flatMap_congr fun r hr => slice_range (h.mem r hr).2.2

end Range

def Block.pairs (b : Block) : List (Nat × Nat) :=
  (List.range' b.left b.size).zip (List.range' b.right b.size)

theorem Block.mem_pairs {b : Block} {p : Nat × Nat} :
    p ∈ b.pairs ↔ ∃ t < b.size, p = (b.left + t, b.right + t) := by
  rw [pairs, List.range'_eq_map_range, List.range'_eq_map_range, List.zip_map']
  simp [eq_comm]

theorem zip_indices (bs : List Block) :
    (bs.flatMap fun b => List.range' b.left b.size).zip
      (bs.flatMap fun b => List.range' b.right b.size) = bs.flatMap Block.pairs := by
  induction bs with
  | nil => rfl
  | cons b bs ih =>
    simp only [List.flatMap_cons]
    rw [List.zip_append (by simp), ih, Block.pairs]

variable {α : Type} [DecidableEq α]

/-- The elements that no run covers, an index of `xs` with an index of `ys`. -/
def keptPairs (xs ys : List α) : List (Nat × Nat) :=
  (Range.kept (ranges .removed (runs xs ys)) xs.length).zip
    (Range.kept (ranges .added (runs xs ys)) ys.length)

theorem keptPairs_eq (xs ys : List α) : keptPairs xs ys = (blocks xs ys).flatMap Block.pairs := by
  have h := aligned_blocks xs ys
  rw [keptPairs, runs, ranges_removed_runsFrom, ranges_added_runsFrom, Range.kept_gaps h.left,
    Range.kept_gaps h.right, List.flatMap_map, List.flatMap_map]
  exact zip_indices (blocks xs ys)

theorem mem_keptPairs {xs ys : List α} {p : Nat × Nat} :
    p ∈ keptPairs xs ys ↔ ∃ b ∈ blocks xs ys, p ∈ b.pairs := by
  rw [keptPairs_eq, List.mem_flatMap]

end Changeset.Edit
