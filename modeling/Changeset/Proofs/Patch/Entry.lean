import Changeset.Patch.Entry

/-!
# How a line outside of bodies begins

Each entry but plain text has an opening, and `opening_prefix` says that a line
which is read as an entry begins with it. So no line is a hunk header, a comment
or a file line without looking like one.
-/

namespace Changeset.Patch.Entry

def opening : Entry → List Char
  | .git _ _ => "diff --git ".toList
  | .newFile => "new file mode ".toList
  | .deletedFile => "deleted file mode ".toList
  | .source _ => "--- ".toList
  | .target _ => "+++ ".toList
  | .hunk _ => "@@ -".toList
  | .noNewline => noNewlineMark
  | .blank => ['\n']
  | .binary _ _ => "Binary file".toList
  | .gitBinary => gitBinaryNotice
  | .text => []

section
variable {cs : List Char} {e : Entry}

theorem eq_append_of_after? {os rest : List Char} (h : after? os cs = some rest) :
    cs = os ++ rest := by
  induction os generalizing cs with
  | nil => simpa [after?] using h
  | cons o os ih =>
    cases cs with
    | nil => cases h
    | cons c cs =>
      rw [after?, Option.ite_none_right_eq_some] at h
      obtain ⟨rfl, h⟩ := h
      rw [ih h, List.cons_append]

theorem opening_of_git? (h : git? cs = some e) : e.opening <+: cs := by
  simp only [git?, Option.bind_eq_bind, Option.bind_eq_some_iff, Option.pure_def,
    Option.some.injEq] at h
  obtain ⟨rest, hrest, names, -, rfl⟩ := h
  exact ⟨rest, (eq_append_of_after? hrest).symm⟩

theorem opening_of_mode? {os : List Char} {entry : Entry} (h : mode? os entry cs = some e) :
    e = entry ∧ os <+: cs := by
  simp only [mode?, Option.bind_eq_bind, Option.bind_eq_some_iff] at h
  obtain ⟨rest, hrest, h⟩ := h
  split at h <;> cases h
  exact ⟨rfl, rest, (eq_append_of_after? hrest).symm⟩

theorem opening_of_newFile? (h : newFile? cs = some e) : e.opening <+: cs := by
  obtain ⟨rfl, hos⟩ := opening_of_mode? h
  exact hos

theorem opening_of_deletedFile? (h : deletedFile? cs = some e) : e.opening <+: cs := by
  obtain ⟨rfl, hos⟩ := opening_of_mode? h
  exact hos

theorem opening_of_hunk? (h : hunk? cs = some e) : e.opening <+: cs := by
  unfold hunk? at h
  split at h
  · rename_i rest
    simp only [Option.bind_eq_bind, Option.bind_eq_some_iff] at h
    obtain ⟨old, -, h⟩ := h
    split at h
    · simp only [Option.bind_eq_some_iff] at h
      obtain ⟨new, -, h⟩ := h
      split at h <;> cases h
      exact ⟨rest, rfl⟩
    · cases h
  · cases h

theorem opening_of_binary? (h : binary? cs = some e) : e.opening <+: cs := by
  simp only [binary?, Option.bind_eq_bind, Option.bind_eq_some_iff] at h
  obtain ⟨rest, hrest, h⟩ := h
  have hopening : "Binary file".toList <+: cs := ⟨rest, (eq_append_of_after? hrest).symm⟩
  split at h
  case h_3 => cases h
  all_goals
    obtain ⟨name, -, h⟩ := List.exists_of_findSome?_eq_some h
    obtain ⟨tail, -, h⟩ := List.exists_of_findSome?_eq_some h
    split at h
    · cases h
      exact hopening
    · split at h <;> cases h
      exact hopening

theorem opening_getD {o : Option Entry} (h : ∀ e, o = some e → e.opening <+: cs) :
    (o.getD .text).opening <+: cs := by
  cases o with
  | none => exact List.nil_prefix
  | some e => exact h e rfl

theorem opening_prefix (cs : List Char) : (ofLine cs).opening <+: cs := by
  unfold ofLine
  split
  case h_1 rest => exact ⟨rest, rfl⟩
  case h_2 rest => exact ⟨rest, rfl⟩
  case h_3 => exact List.prefix_rfl
  case h_4 => exact opening_getD fun _ => opening_of_hunk?
  case h_5 =>
    split
    · rename_i hmark
      exact List.isPrefixOf_iff_prefix.mp hmark
    · exact List.nil_prefix
  case h_6 =>
    refine opening_getD fun e he => ?_
    rcases Option.or_eq_some_iff.mp he with he | ⟨-, he⟩
    · exact opening_of_git? he
    · exact opening_of_deletedFile? he
  case h_7 => exact opening_getD fun _ => opening_of_newFile?
  case h_8 => exact opening_getD fun _ => opening_of_binary?
  case h_9 =>
    split
    · rename_i hnotice
      rw [hnotice]
      exact List.prefix_rfl
    · exact List.nil_prefix
  case h_10 => exact List.nil_prefix

end

end Changeset.Patch.Entry
