import Changeset.Proofs.Script.Blanks
import Changeset.Script.Semicolon

/-!
# Comments behind a statement

Where the end of a statement is implied, the comments up to it are read with the
statement (`row_of_reads_impliedEnd`). What can follow a statement decides how
many of them that are, so two readings of a statement can end at different
places, but then with nothing except comments in between (`CommentsApart`).
The statements behind it are read the same from both
(`CommentsApart.readsSame_statements`).
-/

namespace Changeset.Script

open Changeset.Script.Parser

variable {s t rest rest' : List Char}

-- ---------------------------------------------------------------------------
-- Comments as they are written
-- ---------------------------------------------------------------------------

/-- A comment up to the end of its line, or one between two marks. -/
inductive IsComment : List Char → Prop
  | line {body : List Char} :
      (∀ c ∈ body, inLineComment c = true) → IsComment ('/' :: '/' :: body)
  | block {body : List Char} :
      ¬ ['*', '/'] <:+: body → IsComment ('/' :: '*' :: (body ++ ['*', '/']))

inductive Commentary : List Char → Prop
  | nil : Commentary []
  | cons {space comment more : List Char} :
      (∀ c ∈ space, isBlank c = true) → IsComment comment → Commentary more →
        Commentary (space ++ comment ++ more)

theorem IsComment.exists_cons {cs : List Char} (h : IsComment cs) : ∃ more, cs = '/' :: more := by
  cases h with
  | line => exact ⟨_, rfl⟩
  | block => exact ⟨_, rfl⟩

/-- What is read until the mark that closes a comment does not hold this mark. -/
theorem not_infix_of_row {cs : List Char}
    (h : Row (do
      let s ← ahead
      check (!(['*', '/'].isPrefixOf s))
      satisfy fun _ => true) s rest cs) : s = cs ++ rest ∧ ¬ ['*', '/'] <:+: cs := by
  induction h with
  | nil s => exact ⟨rfl, by simp⟩
  | @cons s mid rest c cs hc _ ih =>
    obtain ⟨rfl, hbody⟩ := ih
    simp only [reads_bind, reads_check] at hc
    obtain ⟨ahead, _, ⟨_, hahead⟩, _, _, ⟨hmark, rfl⟩, hc⟩ := hc
    cases hahead
    obtain ⟨rfl, -⟩ := reads_satisfy hc
    refine ⟨rfl, fun hinfix => ?_⟩
    rcases List.infix_cons_iff.mp hinfix with hstart | hlater
    · have hstart : ['*', '/'] <+: c :: (cs ++ rest) := hstart.trans (List.prefix_append _ rest)
      simp [List.isPrefixOf_iff_prefix.mpr hstart] at hmark
    · exact hbody hlater

theorem isComment_of_reads {u : Unit} (h : Reads comment s rest u) :
    ∃ cs, IsComment cs ∧ s = cs ++ rest := by
  rcases reads_orElse h with h | h
  · simp only [lineComment, reads_bind, reads_pure] at h
    obtain ⟨_, _, hopen, body, _, hbody, -, rfl⟩ := h
    refine ⟨_, .line (mem_of_reads_takeWhile hbody), ?_⟩
    rw [reads_literal hopen, reads_takeWhile hbody]
    rfl
  · simp only [blockComment, closeComment, reads_bind] at h
    obtain ⟨_, _, hopen, _, _, hbody, hclose⟩ := h
    obtain ⟨body, hrow⟩ := row_of_reads_skipMany hbody
    obtain ⟨rfl, hmark⟩ := not_infix_of_row hrow
    refine ⟨_, .block hmark, ?_⟩
    rw [reads_literal hopen, reads_literal hclose]
    simp

theorem reads_blanks {u : Unit} : Reads blanks s rest u ↔ rest = s.dropWhile isBlank := by
  simp only [blanks, reads_bind, reads_pure, reads_takeWhile_iff]
  constructor
  · rintro ⟨_, _, ⟨-, rfl⟩, -, rfl⟩
    rfl
  · rintro rfl
    exact ⟨_, _, ⟨rfl, rfl⟩, trivial, rfl⟩

theorem commentary_of_row {us : List Unit} (h : Row spacedComment s rest us) :
    ∃ cs, Commentary cs ∧ s = cs ++ rest := by
  induction h with
  | nil s => exact ⟨[], .nil, rfl⟩
  | @cons s mid rest u us h _ ih =>
    obtain ⟨more, hmore, rfl⟩ := ih
    simp only [spacedComment, reads_bind, reads_blanks] at h
    obtain ⟨_, _, rfl, hcomment⟩ := h
    obtain ⟨cs, hcs, hdrop⟩ := isComment_of_reads hcomment
    have hspace : ∀ c ∈ s.takeWhile isBlank, isBlank c = true :=
      List.all_eq_true.mp List.all_takeWhile
    refine ⟨_, .cons hspace hcs hmore, ?_⟩
    rw [List.append_assoc, List.append_assoc, ← hdrop, List.takeWhile_append_dropWhile]

-- ---------------------------------------------------------------------------
-- Places with comments in between
-- ---------------------------------------------------------------------------

/-- One of two ends of a text is reached from the other one by reading comments. -/
def CommentsApart (s t : List Char) : Prop :=
  (∃ us, Row spacedComment s t us) ∨ ∃ us, Row spacedComment t s us

theorem CommentsApart.symm (h : CommentsApart s t) : CommentsApart t s := Or.symm h

theorem blank1_eq_none {c : Char} (h : isBlank c = false) (s : List Char) :
    blank1 (c :: s) = none := by
  refine eq_none_iff_not_reads.mpr fun rest u hread => ?_
  simp only [blank1, reads_bind] at hread
  obtain ⟨d, _, hd, -⟩ := hread
  obtain ⟨hcons, hblank⟩ := reads_satisfy hd
  cases hcons
  simp [h] at hblank

theorem readsSame_gap_comment {u : Unit} (h : Reads comment s rest u) : ReadsSame gap s rest := by
  obtain ⟨cs, hcs, rfl⟩ := isComment_of_reads h
  obtain ⟨more, rfl⟩ := hcs.exists_cons
  have hblank : blank1 ('/' :: more ++ rest) = none := blank1_eq_none (by decide) _
  intro rest' u'
  refine reads_skipMany_next (reads_orElse_right hblank (reads_orElse_left h)) ?_
  rw [List.cons_append, List.length_cons, List.length_append]
  omega

theorem readsSame_gap_row {us : List Unit} (h : Row spacedComment s t us) :
    ReadsSame gap s t := by
  induction h with
  | nil s => exact fun _ _ => Iff.rfl
  | cons h _ ih =>
    simp only [spacedComment, reads_bind, reads_blanks] at h
    obtain ⟨_, _, rfl, hcomment⟩ := h
    intro rest u
    rw [readsSame_gap, readsSame_gap_comment hcomment, ih]

theorem CommentsApart.readsSame_statements (h : CommentsApart s t) (g : Grammar) :
    ReadsSame (statements g) s t := by
  rcases h with ⟨us, h⟩ | ⟨us, h⟩
  · exact Script.readsSame_statements g (readsSame_gap_row h) h.suffix
  · exact fun rest ps => (Script.readsSame_statements g (readsSame_gap_row h) h.suffix rest ps).symm

/-- One of two texts is the other one with comments behind it. -/
def DifferInComments (text text' : List Char) : Prop :=
  ∃ cs, Commentary cs ∧ (text' = text ++ cs ∨ text = text' ++ cs)

theorem CommentsApart.differInComments {text text' : List Char} (h : CommentsApart s t)
    (htext : text ++ s = text' ++ t) : DifferInComments text text' := by
  rcases h with ⟨us, hrow⟩ | ⟨us, hrow⟩
  · obtain ⟨cs, hcs, rfl⟩ := commentary_of_row hrow
    rw [← List.append_assoc] at htext
    exact ⟨cs, hcs, .inl (List.append_cancel_right htext).symm⟩
  · obtain ⟨cs, hcs, rfl⟩ := commentary_of_row hrow
    rw [← List.append_assoc] at htext
    exact ⟨cs, hcs, .inr (List.append_cancel_right htext)⟩

-- ---------------------------------------------------------------------------
-- Implied ends
-- ---------------------------------------------------------------------------

/-- Comments are read one by one as long as no semicolon can be left out. -/
def uptoEnd (g : Grammar) (e : Ending) : Unit → Parser (Option Unit) := fun _ => do
  let s ← ahead
  if canEnd g e s then pure none
  else do
    spacedComment
    pure (some ())

variable {g : Grammar} {ending : Ending} {u v : Unit}

theorem row_of_rounds_uptoEnd (h : Rounds (uptoEnd g ending) s rest u v) :
    ∃ us, Row spacedComment s rest us := by
  induction h with
  | done s => exact ⟨[], .nil s⟩
  | stop h =>
    simp only [uptoEnd, reads_bind] at h
    obtain ⟨_, _, ⟨_, hahead⟩, h⟩ := h
    cases hahead
    split at h
    · obtain ⟨-, rfl⟩ := reads_pure.mp h
      exact ⟨[], .nil _⟩
    · simp only [reads_bind, reads_pure] at h
      obtain ⟨_, _, _, h, -⟩ := h
      cases h
  | next h _ ih =>
    simp only [uptoEnd, reads_bind] at h
    obtain ⟨_, _, ⟨_, hahead⟩, h⟩ := h
    cases hahead
    split at h
    · cases (reads_pure.mp h).1
    · simp only [reads_bind, reads_pure] at h
      obtain ⟨_, _, hcomment, -, rfl⟩ := h
      obtain ⟨us, hus⟩ := ih
      exact ⟨_, .cons hcomment hus⟩

theorem row_of_reads_impliedEnd (h : Reads (impliedEnd g ending) s rest u) :
    ∃ us, Row spacedComment s rest us := by
  rcases reads_orElse h with h | h
  · simp only [reads_bind, reads_check] at h
    obtain ⟨_, _, hloop, _, _, ⟨_, hahead⟩, -, rfl⟩ := h
    cases hahead
    exact row_of_rounds_uptoEnd (rounds_of_reads_loop hloop)
  · exact ⟨[], (reads_pure.mp h).2 ▸ .nil _⟩

theorem exists_reads_impliedEnd (g : Grammar) (ending : Ending) (s : List Char) :
    ∃ rest, Reads (impliedEnd g ending) s rest () := by
  have hchoice : ∀ p : Parser Unit, ∃ rest, Reads (p <|> pure ()) s rest () := by
    intro p
    cases h : p s with
    | none => exact ⟨s, reads_orElse_right h (reads_pure.mpr ⟨rfl, rfl⟩)⟩
    | some r => exact ⟨r.rest, reads_orElse_left (reads_of_eq_some h)⟩
  exact hchoice _

/-- Under any endings a text is read up to places with only comments in between. -/
theorem commentsApart_of_reads {ending' : Ending} {u' : Unit}
    (h : Reads (impliedEnd g ending) s rest u) (h' : Reads (impliedEnd g ending') s rest' u') :
    CommentsApart rest rest' := by
  obtain ⟨_, hrow⟩ := row_of_reads_impliedEnd h
  obtain ⟨_, hrow'⟩ := row_of_reads_impliedEnd h'
  exact hrow.comparable hrow'

end Changeset.Script
