import Changeset.Proofs.Script.Reads
import Changeset.Script.Rule

/-!
# Names are read as they are written

A word is the very text that was read for it, escapes included
(`echoes_word`). So a name that is declared stands in the source, and in
whatever longer text its declaration is read from (`IsNameIn.mono`).
-/

namespace Changeset.Script

open Changeset.Script.Parser

-- ---------------------------------------------------------------------------
-- Words
-- ---------------------------------------------------------------------------

/-- A parser that gives the text that it reads, and reads some. -/
def Echoes (p : Parser (List Char)) : Prop :=
  ∀ ⦃s rest cs⦄, Reads p s rest cs → s = cs ++ rest ∧ cs ≠ []

theorem Echoes.orElse {p q : Parser (List Char)} (hp : Echoes p) (hq : Echoes q) :
    Echoes (p <|> q) := by
  intro s rest cs h
  rcases reads_orElse h with h | h
  · exact hp h
  · exact hq h

theorem Echoes.flatten {p : Parser (List Char)} (hp : Echoes p) {s rest : List Char}
    {css : List (List Char)} (h : Row p s rest css) : s = css.flatten ++ rest := by
  induction h with
  | nil s => rfl
  | cons ha _ ih => rw [(hp ha).1, ih, List.flatten_cons, List.append_assoc]

theorem row_satisfy {f : Char → Bool} {s rest cs : List Char} (h : Row (satisfy f) s rest cs) :
    s = cs ++ rest := by
  induction h with
  | nil s => rfl
  | cons ha _ ih =>
    rw [(reads_satisfy ha).1, ih]
    rfl

theorem echoes_run (f g : Char → Bool) :
    Echoes (do let c ← satisfy f; let cs ← takeWhile g; pure (c :: cs)) := by
  intro s rest cs h
  simp only [reads_bind, reads_pure] at h
  obtain ⟨c, s₁, hc, ds, s₂, hds, rfl, rfl⟩ := h
  refine ⟨?_, List.cons_ne_nil _ _⟩
  rw [(reads_satisfy hc).1, reads_takeWhile hds]
  rfl

theorem echoes_wordEscape : Echoes wordEscape := by
  intro s rest cs h
  simp only [wordEscape, reads_bind] at h
  obtain ⟨_, s₀, hopen, h⟩ := h
  rw [reads_literal hopen]
  rcases reads_orElse h with h | h
  · simp only [many1, hexDigit, reads_bind, reads_pure] at h
    obtain ⟨_, s₁, hbrace, ds, s₂, hdigits, _, s₅, hclose, rfl, rfl⟩ := h
    obtain ⟨d, s₃, hd, ds', s₄, hds, rfl, rfl⟩ := hdigits
    rw [reads_char hbrace, (reads_satisfy hd).1, row_satisfy (row_of_reads_many hds),
      reads_char hclose]
    simp
  · simp only [hexDigit, reads_bind, reads_pure] at h
    obtain ⟨a, s₁, ha, b, s₂, hb, c, s₃, hc, d, s₄, hd, rfl, rfl⟩ := h
    rw [(reads_satisfy ha).1, (reads_satisfy hb).1, (reads_satisfy hc).1, (reads_satisfy hd).1]
    simp

theorem echoes_wordPiece : Echoes wordPiece := (echoes_run _ _).orElse echoes_wordEscape

theorem echoes_word : Echoes word := by
  intro s rest w h
  simp only [word, reads_bind, reads_pure] at h
  obtain ⟨first, mid, hfirst, more, s', hmore, rfl, rfl⟩ := h
  obtain ⟨rfl, hne⟩ := ((echoes_run _ _).orElse echoes_wordEscape) hfirst
  refine ⟨?_, by simp [hne]⟩
  rw [echoes_wordPiece.flatten (row_of_reads_many hmore), List.append_assoc]

theorem echoes_nameIf (allowed : String → Bool) : Echoes (nameIf allowed) := by
  intro s rest w h
  simp only [nameIf, reads_bind, reads_check, reads_pure] at h
  obtain ⟨w, mid, hw, _, _, ⟨-, rfl⟩, rfl, rfl⟩ := h
  exact echoes_word hw

-- ---------------------------------------------------------------------------
-- Names
-- ---------------------------------------------------------------------------

structure IsNameIn (name : Slice) (s rest : List Char) : Prop where
  nonempty : name.text ≠ []
  ahead : name.ahead <:+ s
  stands : ∃ behind, name.ahead = name.text ++ behind ∧ rest <:+ behind

section
variable {name : Slice} {s s' rest rest' : List Char}

theorem IsNameIn.mono (h : IsNameIn name s rest) (hs : s <:+ s') (hrest : rest' <:+ rest) :
    IsNameIn name s' rest' := by
  obtain ⟨behind, hname, hbehind⟩ := h.stands
  exact ⟨h.nonempty, h.ahead.trans hs, behind, hname, hrest.trans hbehind⟩

theorem IsNameIn.infix {text : List Char} (h : IsNameIn name (text ++ rest) rest) :
    name.text <:+: text := by
  obtain ⟨before, hbefore⟩ := h.ahead
  obtain ⟨_, hname, ⟨mid, rfl⟩⟩ := h.stands
  refine ⟨before, mid, ?_⟩
  have hall : before ++ name.text ++ mid ++ rest = text ++ rest := by
    rw [← hbefore, hname]
    simp
  exact List.append_cancel_right hall

theorem Echoes.isNameIn {p : Parser (List Char)} (hp : Echoes p) (h : Reads (slice p) s rest name) :
    IsNameIn name s rest := by
  obtain ⟨rfl, htext⟩ := reads_slice.mp h
  obtain ⟨hs, hne⟩ := hp htext
  exact ⟨hne, List.suffix_rfl, rest, hs, List.suffix_rfl⟩

theorem Echoes.isNameIn_token {p : Parser (List Char)} (hp : Echoes p)
    (h : Reads (token (slice p)) s rest name) : IsNameIn name s rest := by
  obtain ⟨_, mid, hgap, hname⟩ := reads_bind.mp h
  exact (hp.isNameIn hname).mono hgap.suffix List.suffix_rfl

end

end Changeset.Script
