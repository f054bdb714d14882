/-!
# Matching blocks

Two sequences are aligned around their longest common block: of the blocks of
greatest length the one that starts first in the left sequence, and of those
the one that starts first in the right. What lies before it and what lies
behind it is aligned in the same way.
-/

namespace Changeset.Edit

/-- A run of `size` elements, at `left` in one sequence and at `right` in the other. -/
structure Block where
  left : Nat
  right : Nat
  size : Nat
  deriving DecidableEq, Repr

namespace Block

def shift (b : Block) (left right : Nat) : Block :=
  ⟨b.left + left, b.right + right, b.size⟩

def longer (a b : Block) : Block := if a.size < b.size then b else a

@[simp] theorem shift_left (b : Block) (l r : Nat) : (b.shift l r).left = b.left + l := rfl

@[simp] theorem shift_right (b : Block) (l r : Nat) : (b.shift l r).right = b.right + r := rfl

@[simp] theorem shift_size (b : Block) (l r : Nat) : (b.shift l r).size = b.size := rfl

theorem longer_size (a b : Block) : (a.longer b).size = max a.size b.size := by
  unfold longer
  split <;> omega

theorem longer_eq (a b : Block) : a.longer b = a ∨ a.longer b = b := by
  unfold longer
  split <;> simp

end Block

variable {α : Type} [DecidableEq α]

def commonLength : List α → List α → Nat
  | x :: xs, y :: ys => if x = y then commonLength xs ys + 1 else 0
  | _, _ => 0

@[simp] theorem commonLength_nil_left (ys : List α) : commonLength [] ys = 0 := by
  simp [commonLength]

@[simp] theorem commonLength_nil_right (xs : List α) : commonLength xs [] = 0 := by
  cases xs <;> simp [commonLength]

theorem commonLength_cons (x y : α) (xs ys : List α) :
    commonLength (x :: xs) (y :: ys) = if x = y then commonLength xs ys + 1 else 0 := by
  rw [commonLength]

theorem commonLength_le_left (xs ys : List α) : commonLength xs ys ≤ xs.length := by
  fun_induction commonLength xs ys <;> simp
  omega

theorem commonLength_le_right (xs ys : List α) : commonLength xs ys ≤ ys.length := by
  fun_induction commonLength xs ys <;> simp
  omega

/-- The common lengths of `xs` with every tail of `ys`, the empty one included. -/
def tailLengths (xs : List α) : List α → List Nat
  | [] => [0]
  | y :: ys => commonLength xs (y :: ys) :: tailLengths xs ys

/-- The common lengths of `x :: xs` with the tails of `ys`, from those of `xs`. -/
def extendLengths (x : α) : List α → List Nat → List Nat
  | y :: ys, _ :: ns => (if x = y then ns.headD 0 + 1 else 0) :: extendLengths x ys ns
  | _, _ => [0]

omit [DecidableEq α] in
theorem headD_tailLengths [DecidableEq α] (xs ys : List α) :
    (tailLengths xs ys).headD 0 = commonLength xs ys := by
  cases ys <;> simp [tailLengths]

theorem extendLengths_tailLengths (x : α) (xs ys : List α) :
    extendLengths x ys (tailLengths xs ys) = tailLengths (x :: xs) ys := by
  induction ys with
  | nil => rfl
  | cons y ys ih =>
    simp only [tailLengths, extendLengths, ih, headD_tailLengths, commonLength_cons]

def longestAt (left : Nat) : Nat → List Nat → Block
  | right, [] => ⟨left, right, 0⟩
  | right, n :: ns => Block.longer ⟨left, right, n⟩ (longestAt left (right + 1) ns)

/-- The first longest block of two sequences, together with their row of tail lengths. -/
def longestWithLengths (ys : List α) : List α → Block × List Nat
  | [] => (⟨0, 0, 0⟩, tailLengths [] ys)
  | x :: xs =>
    let later := longestWithLengths ys xs
    let row := extendLengths x ys later.2
    (Block.longer (longestAt 0 0 row) (later.1.shift 1 0), row)

/-- The first longest common block; its size is 0 if nothing is common. -/
def longest (xs ys : List α) : Block := (longestWithLengths ys xs).1

theorem snd_longestWithLengths (ys xs : List α) :
    (longestWithLengths ys xs).2 = tailLengths xs ys := by
  induction xs with
  | nil => rfl
  | cons x xs ih => simp only [longestWithLengths, ih, extendLengths_tailLengths]

theorem longest_nil (ys : List α) : longest [] ys = ⟨0, 0, 0⟩ := rfl

theorem longest_cons (x : α) (xs ys : List α) :
    longest (x :: xs) ys =
      Block.longer (longestAt 0 0 (tailLengths (x :: xs) ys)) ((longest xs ys).shift 1 0) := by
  simp only [longest, longestWithLengths, snd_longestWithLengths, extendLengths_tailLengths]

theorem longestAt_tailLengths (left right : Nat) (xs ys : List α) :
    ∃ j, j ≤ ys.length ∧ longestAt left right (tailLengths xs ys) =
      ⟨left, right + j, commonLength xs (ys.drop j)⟩ := by
  induction ys generalizing right with
  | nil => exact ⟨0, by simp, by simp [tailLengths, longestAt, Block.longer]⟩
  | cons y ys ih =>
    rw [tailLengths, longestAt]
    obtain ⟨j, hj, he⟩ := ih (right + 1)
    rcases Block.longer_eq ⟨left, right, commonLength xs (y :: ys)⟩
      (longestAt left (right + 1) (tailLengths xs ys)) with h | h
    · exact ⟨0, by simp, by simp [h]⟩
    · exact ⟨j + 1, by simpa using hj, by
        rw [h, he, List.drop_succ_cons, Nat.add_right_comm, Nat.add_assoc]⟩

theorem longest_spec (xs ys : List α) :
    (longest xs ys).left ≤ xs.length ∧ (longest xs ys).right ≤ ys.length ∧
      (longest xs ys).size =
        commonLength (xs.drop (longest xs ys).left) (ys.drop (longest xs ys).right) := by
  induction xs with
  | nil => simp [longest_nil]
  | cons x xs ih =>
    rw [longest_cons]
    obtain ⟨j, hj, he⟩ := longestAt_tailLengths 0 0 (x :: xs) ys
    rcases Block.longer_eq (longestAt 0 0 (tailLengths (x :: xs) ys))
      ((longest xs ys).shift 1 0) with h | h
    · rw [h, he]
      simpa using hj
    · rw [h]
      simpa using ih

theorem longest_left_le (xs ys : List α) :
    (longest xs ys).left + (longest xs ys).size ≤ xs.length := by
  obtain ⟨hl, -, hs⟩ := longest_spec xs ys
  have := commonLength_le_left (xs.drop (longest xs ys).left) (ys.drop (longest xs ys).right)
  rw [← hs, List.length_drop] at this
  omega

theorem longest_right_le (xs ys : List α) :
    (longest xs ys).right + (longest xs ys).size ≤ ys.length := by
  obtain ⟨-, hr, hs⟩ := longest_spec xs ys
  have := commonLength_le_right (xs.drop (longest xs ys).left) (ys.drop (longest xs ys).right)
  rw [← hs, List.length_drop] at this
  omega

/-- The common blocks in order; neighbours may touch. -/
def blocks (xs ys : List α) : List Block :=
  let b := longest xs ys
  if _h : b.size = 0 then []
  else
    blocks (xs.take b.left) (ys.take b.right) ++
      b :: (blocks (xs.drop (b.left + b.size)) (ys.drop (b.right + b.size))).map
        (·.shift (b.left + b.size) (b.right + b.size))
termination_by xs.length
decreasing_by
  all_goals
    have hb : b = longest xs ys := rfl
    have := longest_left_le xs ys
    simp only [List.length_take, List.length_drop, ← hb] at *
    omega

end Changeset.Edit
