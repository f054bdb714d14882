import Changeset.LineDiff
import Mathlib.Data.List.Basic

/-!
# Texts and their lines

A text is empty, a last line without newline, or a line in front of a text
(`byLine`), and its lines follow this (`lines_of_not_mem`, `lines_append_newline`).
The pieces between newlines give them as well, if each but the last gets its
newline back and the last is dropped when it is empty (`lines_eq_terminated`).
`lines_lossless`: no other lines make up the text, so it is known from its lines,
and their number from its newlines.
-/

namespace Changeset.LineDiff

def newline : CodePoint := .char '\n'

theorem isNewline_iff {p : CodePoint} : p.isNewline = true ↔ p = newline := by
  cases p <;> simp [CodePoint.isNewline, newline]

theorem isNewline_of_not_mem {body : Text} (h : newline ∉ body) :
    ∀ p ∈ body, p.isNewline = false := by
  intro p hp
  rw [← Bool.not_eq_true, isNewline_iff]
  rintro rfl
  exact h hp

-- ---------------------------------------------------------------------------
-- Line by line
-- ---------------------------------------------------------------------------

theorem lines_append_newline {body : Text} (h : newline ∉ body) (rest : Text) :
    lines (body ++ newline :: rest) = (body ++ [newline]) :: lines rest :=
  Lines.split_append_end (isNewline_of_not_mem h) (isNewline_iff.mpr rfl) rest

theorem lines_of_not_mem {body : Text} (hne : body ≠ []) (h : newline ∉ body) :
    lines body = [body] :=
  Lines.split_inner hne (isNewline_of_not_mem h)

@[elab_as_elim]
theorem byLine {P : Text → Prop} (nil : P [])
    (last : ∀ body, body ≠ [] → newline ∉ body → P body)
    (line : ∀ body rest, newline ∉ body → P rest → P (body ++ newline :: rest)) (t : Text) :
    P t := by
  by_cases hmem : newline ∈ t
  · obtain ⟨body, rest, ht, hbody⟩ := List.eq_append_cons_of_mem hmem
    exact ht ▸ line body rest hbody (byLine nil last line rest)
  · by_cases hne : t = []
    · exact hne ▸ nil
    · exact last t hne hmem
termination_by t.length
decreasing_by
  rw [ht, List.length_append, List.length_cons]
  omega

-- ---------------------------------------------------------------------------
-- Lines from the pieces between newlines
-- ---------------------------------------------------------------------------

/-- A newline is put behind each piece and taken off the last, which is left out if it was empty. -/
def terminated (pieces : List Text) : List Text :=
  let ended := pieces.map (· ++ [newline])
  let last := (ended.getLastD []).dropLast
  ended.dropLast ++ if last = [] then [] else [last]

theorem terminated_singleton (piece : Text) :
    terminated [piece] = if piece = [] then [] else [piece] := by
  simp [terminated]

theorem terminated_cons (piece : Text) {pieces : List Text} (h : pieces ≠ []) :
    terminated (piece :: pieces) = (piece ++ [newline]) :: terminated pieces := by
  obtain ⟨next, pieces, rfl⟩ := List.exists_cons_of_ne_nil h
  simp [terminated]

theorem lines_eq_terminated (t : Text) : lines t = terminated (t.splitOn newline) := by
  induction t using byLine with
  | nil => rfl
  | last body hne hbody =>
    rw [lines_of_not_mem hne hbody, List.splitOn_eq_singleton hbody, terminated_singleton,
      if_neg hne]
  | line body rest hbody ih =>
    rw [lines_append_newline hbody, List.splitOn_append_cons_self_of_not_mem hbody,
      terminated_cons _ (List.splitOn_ne_nil _ _), ih]

-- ---------------------------------------------------------------------------
-- Cuts of a text
-- ---------------------------------------------------------------------------

structure IsCutOf (ls : List Text) (t : Text) : Prop where
  joined : ls.flatten = t
  nonempty : ∀ l ∈ ls, l ≠ []
  newline_last : ∀ l ∈ ls, newline ∉ l.dropLast
  ended : ∀ l ∈ ls.dropLast, l.getLast? = some newline

theorem isCutOf_lines (t : Text) : IsCutOf (lines t) t := by
  induction t using byLine with
  | nil => exact ⟨rfl, nofun, nofun, nofun⟩
  | last body hne hbody =>
    rw [lines_of_not_mem hne hbody]
    refine ⟨by simp, by simpa using hne, ?_, nofun⟩
    intro l hl
    rw [List.mem_singleton.mp hl]
    exact fun hmem => hbody ((List.dropLast_sublist body).subset hmem)
  | line body rest hbody ih =>
    rw [lines_append_newline hbody]
    refine ⟨by simp [ih.joined], ?_, ?_, ?_⟩
    · exact List.forall_mem_cons.mpr ⟨by simp, ih.nonempty⟩
    · exact List.forall_mem_cons.mpr ⟨by simpa using hbody, ih.newline_last⟩
    · cases hrest : lines rest with
      | nil => exact nofun
      | cons l ls =>
        rw [List.dropLast_cons_cons]
        exact List.forall_mem_cons.mpr ⟨by simp, hrest ▸ ih.ended⟩

theorem IsCutOf.eq_lines {ls : List Text} {t : Text} (h : IsCutOf ls t) : ls = lines t := by
  obtain ⟨rfl, hne, hinner, hended⟩ := h
  induction ls with
  | nil => rfl
  | cons l ls ih =>
    obtain ⟨hl, hnes⟩ := List.forall_mem_cons.mp hne
    obtain ⟨hbody, hinners⟩ := List.forall_mem_cons.mp hinner
    obtain ⟨body, p, rfl⟩ := (List.eq_nil_or_concat' l).resolve_left hl
    rw [List.dropLast_concat] at hbody
    rw [List.flatten_cons]
    cases ls with
    | nil =>
      -- Only here the line need not end in a newline.
      rw [List.flatten_nil, List.append_nil]
      by_cases hp : p = newline
      · rw [hp, lines_append_newline hbody]
        rfl
      · have hmem : newline ∉ body ++ [p] := by simp [hbody, Ne.symm hp]
        rw [lines_of_not_mem hl hmem]
    | cons next ls =>
      rw [List.dropLast_cons_cons] at hended
      obtain ⟨hp, hendeds⟩ := List.forall_mem_cons.mp hended
      rw [List.getLast?_concat, Option.some.injEq] at hp
      rw [hp, List.append_assoc, List.singleton_append, lines_append_newline hbody,
        ← ih hnes hinners hendeds]

theorem length_lines (t : Text) :
    (lines t).length =
      t.count newline + if t ≠ [] ∧ t.getLast? ≠ some newline then 1 else 0 := by
  induction t using byLine with
  | nil => rfl
  | last body hne hbody =>
    have hlast : body.getLast? ≠ some newline := fun h => hbody (List.mem_of_getLast? h)
    rw [lines_of_not_mem hne hbody, List.count_eq_zero.mpr hbody, if_pos ⟨hne, hlast⟩]
    rfl
  | line body rest hbody ih =>
    rw [lines_append_newline hbody, List.length_cons, ih, List.count_append,
      List.count_eq_zero.mpr hbody, List.count_cons_self]
    cases rest with
    | nil => simp
    | cons p rest => simp [Nat.add_right_comm]

/-- The lines of a text are its pieces between newlines, terminated, and its only cut. Other texts
have other lines. There are as many as newlines, and one more if the text goes on behind the last. -/
theorem lines_lossless (t : Text) :
    lines t = terminated (t.splitOn newline) ∧ (∀ ls, IsCutOf ls t ↔ ls = lines t) ∧
    (∀ u, lines u = lines t ↔ u = t) ∧
    (lines t).length =
      t.count newline + if t ≠ [] ∧ t.getLast? ≠ some newline then 1 else 0 := by
  refine ⟨lines_eq_terminated t, fun ls => ⟨IsCutOf.eq_lines, ?_⟩, fun u => Lines.split_inj,
    length_lines t⟩
  rintro rfl
  exact isCutOf_lines t

end Changeset.LineDiff
