/-!
# Results and errors

A chain of steps ends in a result if each step gives one, and in an error if
some step does and all before it give results. So a chain is taken apart from
its end, one step after the other.
-/

namespace Changeset

variable {ε δ α β σ : Type} {x : Except ε α} {b : β} {e : ε}

theorem bind_ok {f : α → Except ε β} : x >>= f = .ok b ↔ ∃ a, x = .ok a ∧ f a = .ok b := by
  cases x <;> simp [bind, Except.bind]

theorem map_ok {f : α → β} : x.map f = .ok b ↔ ∃ a, x = .ok a ∧ f a = b := by
  cases x <;> simp [Except.map]

theorem bind_error {f : α → Except ε β} :
    x >>= f = .error e ↔ x = .error e ∨ ∃ a, x = .ok a ∧ f a = .error e := by
  cases x <;> simp [bind, Except.bind]

theorem map_error {f : α → β} : x.map f = .error e ↔ x = .error e := by
  cases x <;> simp [Except.map]

theorem mapError_ok {f : ε → δ} {a : α} : x.mapError f = .ok a ↔ x = .ok a := by
  cases x <;> constructor <;> rintro ⟨⟩ <;> rfl

theorem mapError_error {f : ε → δ} {d : δ} :
    x.mapError f = .error d ↔ ∃ e, x = .error e ∧ f e = d := by
  cases x with
  | error e =>
    constructor
    · rintro ⟨⟩
      exact ⟨e, rfl, rfl⟩
    · rintro ⟨_, ⟨⟩, rfl⟩
      rfl
  | ok b => exact iff_of_false nofun nofun

theorem mapM_eq_ok {f : α → Except ε β} {g : α → β} {xs : List α}
    (h : ∀ x ∈ xs, f x = .ok (g x)) : xs.mapM f = .ok (xs.map g) := by
  induction xs with
  | nil => rfl
  | cons x xs ih =>
    obtain ⟨hx, hxs⟩ := List.forall_mem_cons.mp h
    rw [List.mapM_cons, hx, ih hxs]
    rfl

theorem foldlM_invariant {step : σ → α → Except ε σ} {P : σ → Prop} {xs : List α} {s t : σ}
    (hstep : ∀ x ∈ xs, ∀ s t, P s → step s x = .ok t → P t) (hs : P s)
    (h : xs.foldlM step s = .ok t) : P t := by
  induction xs generalizing s with
  | nil =>
    cases h
    exact hs
  | cons x xs ih =>
    obtain ⟨hx, hxs⟩ := List.forall_mem_cons.mp hstep
    rw [List.foldlM_cons] at h
    obtain ⟨u, hu, h⟩ := bind_ok.mp h
    exact ih hxs (hx s u hs hu) h

theorem foldlM_error {step : σ → α → Except ε σ} {s : σ} {xs : List α} :
    xs.foldlM step s = .error e ↔
      ∃ done x rest t, xs = done ++ x :: rest ∧
        done.foldlM step s = .ok t ∧ step t x = .error e := by
  constructor
  · intro h
    induction xs generalizing s with
    | nil => cases h
    | cons x xs ih =>
      rw [List.foldlM_cons, bind_error] at h
      rcases h with h | ⟨t, ht, h⟩
      · exact ⟨[], x, xs, s, rfl, rfl, h⟩
      · obtain ⟨done, y, rest, u, rfl, hu, hy⟩ := ih h
        refine ⟨x :: done, y, rest, u, rfl, ?_, hy⟩
        rw [List.foldlM_cons, ht]
        exact hu
  · rintro ⟨done, x, rest, t, rfl, ht, hx⟩
    rw [List.foldlM_append, ht]
    show (x :: rest).foldlM step t = .error e
    rw [List.foldlM_cons, hx]
    rfl

end Changeset
