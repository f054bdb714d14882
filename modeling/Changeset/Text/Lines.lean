/-!
# Lines

A line ends at a newline and keeps it; only the last line can lack one. No
other separator ends a line, and no line is empty, so the lines of a text
determine it.
-/

namespace Changeset.Lines

variable {α : Type}

def extend (x : α) : List (List α) → List (List α)
  | [] => [[x]]
  | l :: ls => (x :: l) :: ls

/-- The lines of a text, cut after each element that `isEnd` accepts. -/
def split (isEnd : α → Bool) : List α → List (List α)
  | [] => []
  | x :: xs => if isEnd x then [x] :: split isEnd xs else extend x (split isEnd xs)

@[simp] theorem split_nil (isEnd : α → Bool) : split isEnd [] = [] := rfl

theorem split_cons_end {isEnd : α → Bool} {x : α} (h : isEnd x = true) (xs : List α) :
    split isEnd (x :: xs) = [x] :: split isEnd xs := by simp [split, h]

theorem split_cons_inner {isEnd : α → Bool} {x : α} (h : isEnd x = false) (xs : List α) :
    split isEnd (x :: xs) = extend x (split isEnd xs) := by simp [split, h]

@[simp] theorem flatten_extend (x : α) (ls : List (List α)) :
    (extend x ls).flatten = x :: ls.flatten := by
  cases ls <;> simp [extend]

theorem flatten_split (isEnd : α → Bool) (xs : List α) : (split isEnd xs).flatten = xs := by
  induction xs with
  | nil => rfl
  | cons x xs ih => by_cases h : isEnd x <;> simp [split, h, ih]

theorem split_inj {isEnd : α → Bool} {xs ys : List α} :
    split isEnd xs = split isEnd ys ↔ xs = ys := by
  constructor
  · intro h
    rw [← flatten_split isEnd xs, h, flatten_split]
  · rintro rfl
    rfl

theorem split_ne_nil {isEnd : α → Bool} {xs : List α} (h : xs ≠ []) : split isEnd xs ≠ [] := by
  intro hnil
  rw [← flatten_split isEnd xs, hnil] at h
  exact h rfl

theorem extend_append (x : α) {ls : List (List α)} (h : ls ≠ []) (ms : List (List α)) :
    extend x (ls ++ ms) = extend x ls ++ ms := by
  cases ls with
  | nil => exact absurd rfl h
  | cons l ls => rfl

theorem split_append {isEnd : α → Bool} {xs : List α} (h : ∀ x ∈ xs.getLast?, isEnd x = true)
    (ys : List α) : split isEnd (xs ++ ys) = split isEnd xs ++ split isEnd ys := by
  induction xs with
  | nil => rfl
  | cons x xs ih =>
    cases xs with
    | nil =>
      have hx : isEnd x = true := h x rfl
      simp [split_cons_end hx]
    | cons z zs =>
      have hsplit := ih h
      by_cases hx : isEnd x = true
      · rw [List.cons_append, split_cons_end hx, split_cons_end hx, hsplit, List.cons_append]
      · have hx : isEnd x = false := by simpa using hx
        rw [List.cons_append, split_cons_inner hx, split_cons_inner hx, hsplit,
          extend_append x (split_ne_nil (List.cons_ne_nil z zs))]

theorem split_append_end {isEnd : α → Bool} {xs : List α} {x : α}
    (hxs : ∀ y ∈ xs, isEnd y = false) (hx : isEnd x = true) (rest : List α) :
    split isEnd (xs ++ x :: rest) = (xs ++ [x]) :: split isEnd rest := by
  induction xs with
  | nil => exact split_cons_end hx rest
  | cons y ys ih =>
    obtain ⟨hy, hys⟩ := List.forall_mem_cons.mp hxs
    rw [List.cons_append, split_cons_inner hy, ih hys]
    rfl

theorem split_inner {isEnd : α → Bool} {xs : List α} (hne : xs ≠ [])
    (hxs : ∀ x ∈ xs, isEnd x = false) : split isEnd xs = [xs] := by
  induction xs with
  | nil => exact absurd rfl hne
  | cons x xs ih =>
    obtain ⟨hx, hxs⟩ := List.forall_mem_cons.mp hxs
    rw [split_cons_inner hx]
    cases xs with
    | nil => rfl
    | cons y ys =>
      rw [ih (List.cons_ne_nil y ys) hxs]
      rfl

theorem ne_nil_of_mem_extend {x : α} {ls : List (List α)} (h : ∀ l ∈ ls, l ≠ []) :
    ∀ l ∈ extend x ls, l ≠ [] := by
  cases ls <;> simp_all [extend]

theorem ne_nil_of_mem_split (isEnd : α → Bool) (xs : List α) :
    ∀ l ∈ split isEnd xs, l ≠ [] := by
  induction xs with
  | nil => simp
  | cons x xs ih =>
    by_cases h : isEnd x
    · simp only [split_cons_end h, List.mem_cons]
      rintro l (rfl | hl)
      · simp
      · exact ih l hl
    · rw [split_cons_inner (by simpa using h)]
      exact ne_nil_of_mem_extend ih

end Changeset.Lines
