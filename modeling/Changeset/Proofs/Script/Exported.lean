import Changeset.Proofs.Script.Ending

/-!
# Exporting the first declaration

With `export` in front of a program that begins with a declaration, the same
declaration is read behind it (`reads_topStatement_exported`): a space before a
declaration is neither the end of a statement nor the beginning of a comment.
But it is read by another rule, under which it can end elsewhere. What stands
between the two ends are comments, so the rest of the program is read the same:
`reads_program_exported`.
-/

namespace Changeset.Script

open Changeset.Script.Parser

variable {g : Grammar} {s mid rest : List Char} {p : Placed} {ps : List Placed}

-- ---------------------------------------------------------------------------
-- The first declaration
-- ---------------------------------------------------------------------------

namespace Parser

theorem reads_loop_collect {α : Type} {q : Parser α} {s rest : List Char}
    {start all : List α} (items : List α) :
    Reads (loop (collect q) (items ++ start)) s rest all ↔
      ∃ as, Reads (loop (collect q) items) s rest as ∧ all = as ++ start := by
  induction hlen : s.length using Nat.strongRecOn generalizing s items with
  | ind n ih =>
    subst hlen
    cases hq : q s with
    | none =>
      simp only [reads_loop_of_eq_none (collect_eq_none hq _)]
      constructor
      · rintro ⟨rfl, rfl⟩
        exact ⟨items, ⟨rfl, rfl⟩, rfl⟩
      · rintro ⟨_, ⟨rfl, rfl⟩, rfl⟩
        exact ⟨rfl, rfl⟩
    | some r =>
      obtain ⟨a, mid, ha⟩ : ∃ a mid, Reads q s mid a := ⟨_, _, reads_of_eq_some hq⟩
      by_cases hlt : mid.length < s.length
      · simp only [reads_loop_next (reads_collect ha _) hlt]
        exact ih mid.length hlt (a :: items) rfl
      · obtain rfl : mid = s := ha.suffix.eq_of_length_le (Nat.not_lt.mp hlt)
        simp only [reads_loop_stuck (reads_collect ha _)]
        constructor
        · rintro ⟨rfl, rfl⟩
          exact ⟨a :: items, ⟨rfl, rfl⟩, rfl⟩
        · rintro ⟨_, ⟨rfl, rfl⟩, rfl⟩
          exact ⟨rfl, rfl⟩

end Parser

theorem reads_statements_next (h : Reads (topStatement g) s mid (some p)) :
    Reads (statements g) s rest ps ↔
      ∃ ps', ps = p :: ps' ∧ Reads (statements g) mid rest ps' := by
  have hloop : ∀ {t items}, Reads (loop (collect (topStatement g)) []) s t items ↔
      ∃ as, Reads (loop (collect (topStatement g)) []) mid t as ∧ items = as ++ [some p] := by
    intro t items
    rw [reads_loop_next (reads_collect h []) (length_lt_of_reads_topStatement h)]
    exact reads_loop_collect []
  simp only [statements, reads_many_bind, hloop]
  simp only [reads_bind, reads_pure]
  constructor
  · rintro ⟨t, _, ⟨as, has, rfl⟩, _, _, hgap, _, _, hahead, _, _, hend, rfl, rfl⟩
    exact ⟨as.reverse.filterMap id, by simp,
      t, as, has, _, _, hgap, _, _, hahead, _, _, hend, rfl, rfl⟩
  · rintro ⟨ps', rfl, t, as, has, _, _, hgap, _, _, hahead, _, _, hend, rfl, rfl⟩
    exact ⟨t, _, ⟨as, has, rfl⟩, _, _, hgap, _, _, hahead, _, _, hend, by simp, rfl⟩

theorem reads_topDeclaration_of_ahead (h : Reads (topStatement g) s mid (some p))
    (hahead : p.ahead = s) :
    Reads gap s s () ∧ Reads (topDeclaration g .ofExpression) s mid (some p) := by
  obtain ⟨s₁, hgap, h | ⟨e, ending, s₂, s₃, hmark, hgap', h⟩⟩ := topStatement_cases h
  · obtain ⟨rfl, -⟩ := ends_topDeclaration h
    rw [hahead] at hgap h
    exact ⟨hgap, h⟩
  · -- Something was read before the declaration.
    obtain ⟨rfl, -⟩ := ends_topDeclaration h
    have hlt := advances_exportMark e hmark
    have hle := hgap.suffix.length_le
    have hle' := hgap'.suffix.length_le
    rw [hahead] at hle'
    omega

theorem exists_first_of_ahead (h : Reads (statements g) s rest ps) (hp : p ∈ ps)
    (hahead : p.ahead = s) :
    ∃ mid ps', ps = p :: ps' ∧ Reads gap s s () ∧
      Reads (topDeclaration g .ofExpression) s mid (some p) ∧ Reads (statements g) mid rest ps' := by
  have hfirst : ∃ mid, Reads (topStatement g) s mid (some p) := by
    simp only [statements, reads_bind, reads_pure] at h
    obtain ⟨items, _, hitems, _, _, _, _, _, _, _, _, _, rfl, _⟩ := h
    obtain ⟨o, ho, rfl⟩ := List.mem_filterMap.mp hp
    obtain ⟨t, mid, ht, hread⟩ := (row_of_reads_many hitems).of_mem ho
    have hst : s <:+ t := hahead ▸ (ends_topStatement hread).1
    exact ⟨mid, hst.eq_of_length_le ht.length_le ▸ hread⟩
  obtain ⟨mid, hread⟩ := hfirst
  obtain ⟨ps', rfl, hps'⟩ := (reads_statements_next hread).mp h
  obtain ⟨hgap, hdeclared⟩ := reads_topDeclaration_of_ahead hread hahead
  exact ⟨mid, ps', rfl, hgap, hdeclared, hps'⟩

-- ---------------------------------------------------------------------------
-- Behind a space
-- ---------------------------------------------------------------------------

def openingChars : List Char := '@' :: openingWords.filterMap (·.toList.head?)

/-- None of them is white space, ends a statement or begins a comment. -/
theorem of_mem_openingChars {c : Char} (h : c ∈ openingChars) :
    isBlank c = false ∧ isSpace c = false ∧ isLineEnd c = false ∧ c ≠ '/' ∧ c ≠ '\x7d' := by
  have hall : openingChars.all (fun c => !isBlank c && !isSpace c && !isLineEnd c && c != '/' &&
      c != '\x7d') = true := by decide +kernel
  simpa [and_assoc] using List.all_eq_true.mp hall c h

theorem Opening.exists_cons {s : List Char} (h : Opening s) :
    ∃ c more, s = c :: more ∧ c ∈ openingChars := by
  cases h with
  | ofSign rest => exact ⟨'@', rest, rfl, List.mem_cons_self⟩
  | @ofWord _ rest w hw hword =>
    obtain ⟨rfl, hne⟩ := echoes_word hword
    obtain ⟨c, cs, hcs⟩ := List.exists_cons_of_ne_nil hne
    refine ⟨c, cs ++ rest, by rw [hcs, List.cons_append], List.mem_cons_of_mem _ ?_⟩
    exact List.mem_filterMap.mpr ⟨w, hw, by rw [hcs, List.head?_cons]⟩

theorem Opening.dropWhile_space (h : Opening s) : (' ' :: s).dropWhile isBlank = s := by
  obtain ⟨c, more, rfl, hc⟩ := h.exists_cons
  obtain ⟨hblank, -⟩ := of_mem_openingChars hc
  rw [List.dropWhile_cons_of_pos (by decide), List.dropWhile_cons_of_neg (by simp [hblank])]

theorem Opening.canEnd_space (h : Opening s) (g : Grammar) (ending : Ending) :
    canEnd g ending (' ' :: s) = false := by
  obtain ⟨c, more, rfl, hc⟩ := h.exists_cons
  obtain ⟨-, hspace, hline, hslash, hbrace⟩ := of_mem_openingChars hc
  have hnewline : c ≠ '\n' := by
    rintro rfl
    cases hline
  have hbefore : isSpace ' ' = true ∧ isLineEnd ' ' = false := by decide
  cases g <;> simp [canEnd, Ecma.canEnd, Typed.canEnd, *]

theorem Opening.spacedComment_space (h : Opening s) : spacedComment (' ' :: s) = none := by
  refine eq_none_iff_not_reads.mpr fun rest u hread => ?_
  simp only [spacedComment, reads_bind, reads_blanks, h.dropWhile_space] at hread
  obtain ⟨_, _, rfl, hcomment⟩ := hread
  obtain ⟨cs, hcs, hs⟩ := isComment_of_reads hcomment
  obtain ⟨more, rfl⟩ := hcs.exists_cons
  obtain ⟨c, behind, hcons, hc⟩ := h.exists_cons
  obtain ⟨-, -, -, hslash, -⟩ := of_mem_openingChars hc
  rw [hs] at hcons
  injection hcons with hhead
  exact hslash hhead.symm

theorem Opening.reads_continued_space (h : Opening s) (g : Grammar) (ending : Ending) :
    Reads (continued g (some ending)) (' ' :: s) s () := by
  have hround : uptoEnd g ending () (' ' :: s) = none := by
    refine eq_none_iff_not_reads.mpr fun rest o hread => ?_
    simp only [uptoEnd, reads_bind] at hread
    obtain ⟨_, _, ⟨_, hahead⟩, hread⟩ := hread
    cases hahead
    rw [if_neg (by simp [h.canEnd_space])] at hread
    obtain ⟨u, mid, hcomment, -⟩ := reads_bind.mp hread
    exact eq_none_iff_not_reads.mp h.spacedComment_space mid u hcomment
  simp only [continued, reads_bind, reads_check, reads_blanks]
  exact ⟨(), _, (reads_loop_of_eq_none hround).mpr ⟨rfl, rfl⟩, _, _, ⟨List.suffix_rfl, rfl⟩, (), _,
    ⟨by simp [h.canEnd_space], rfl⟩, h.dropWhile_space.symm⟩

theorem Opening.keyword_eq_none (h : Opening s) (hgap : Reads gap s s ()) {w : String}
    (hw : w ∉ openingWords) : keyword w s = none := by
  refine eq_none_iff_not_reads.mpr fun rest u hkeyword => ?_
  obtain ⟨mid, hmid, hread⟩ := reads_keyword.mp hkeyword
  obtain ⟨rfl, -⟩ := hmid.unique hgap
  cases h with
  | ofSign more =>
    have hsign : word ('@' :: more) = none := rfl
    exact eq_none_iff_not_reads.mp hsign rest _ hread
  | ofWord hopening hword =>
    obtain ⟨-, hsame⟩ := hread.unique hword
    rw [String.toList_inj.mp hsame] at hw
    exact hw hopening

-- ---------------------------------------------------------------------------
-- Behind the word export
-- ---------------------------------------------------------------------------

def exported (s : List Char) : List Char := "export".toList ++ ' ' :: s

theorem reads_gap_exported (s : List Char) : Reads gap (exported s) (exported s) () :=
  (reads_skipMany_of_eq_none rfl).mpr rfl

theorem reads_word_exported (s : List Char) : Reads word (exported s) (' ' :: s) "export".toList :=
  reads_word_space (by decide) (by decide) s

theorem not_opening_exported (s : List Char) : ¬ Opening (exported s) := by
  intro h
  have hexport : Reads (keyword "export") (exported s) (' ' :: s) () :=
    reads_keyword.mpr ⟨_, reads_gap_exported s, reads_word_exported s⟩
  have hnone := h.keyword_eq_none (reads_gap_exported s) (by decide : "export" ∉ openingWords)
  exact eq_none_iff_not_reads.mp hnone _ _ hexport

theorem Opens.eq_none_exported {α : Type} {q : Parser α} (h : Opens q) (s : List Char) :
    q (exported s) = none := by
  refine eq_none_iff_not_reads.mpr fun rest a ha => ?_
  obtain ⟨mid, hgap, hopening, -⟩ := h ha
  obtain ⟨rfl, -⟩ := hgap.unique (reads_gap_exported s)
  exact not_opening_exported s hopening

theorem reads_exportMark (e : Env) (h : Opening s) (hgap : Reads gap s s ()) :
    Reads e.exportMark (exported s) s .plain := by
  have hexport : Reads (e.opening "export") (exported s) s () := by
    simp only [Env.opening, reads_bind, reads_keyword]
    exact ⟨(), _, ⟨_, reads_gap_exported s, reads_word_exported s⟩,
      h.reads_continued_space e.grammar .ofExpression⟩
  have hdefault : keyword "default" s = none := h.keyword_eq_none hgap (by decide)
  simp only [Env.exportMark, reads_bind, reads_found, reads_pure,
    reads_skipMany_of_eq_none ((opens_decorator e).eq_none_exported s)]
  exact ⟨(), _, rfl, (), s, hexport, false, s, .inr ⟨⟨hdefault, rfl⟩, rfl⟩, rfl, rfl⟩

theorem reads_topStatement_exported {o : Option Placed} (h : Opening s) (hgap : Reads gap s s ())
    (hdeclared : Reads (topDeclaration g .plain) s rest o) :
    Reads (topStatement g) (exported s) rest o := by
  have hnone := (opens_topDeclaration g .ofExpression).eq_none_exported s
  simp only [topStatement, reads_bind]
  refine ⟨(), _, reads_gap_exported s, reads_orElse_right hnone (reads_orElse_left ?_)⟩
  simp only [reads_bind, reads_withRules]
  exact ⟨.plain, s, reads_exportMark _ h hgap, (), s, hgap, hdeclared⟩

-- ---------------------------------------------------------------------------
-- The program behind it
-- ---------------------------------------------------------------------------

/-- One declaration, read from one place, where the comments behind it may belong to it or not. -/
structure Placed.IsSameUptoComments (p q : Placed) : Prop where
  ahead : p.ahead = q.ahead
  declaration : p.declaration = q.declaration
  text : p.text = q.text ∨
    q.declaration.kind.TakesComments ∧ DifferInComments p.text q.text

theorem Placed.IsSameUptoComments.eq_of_isVariable {q : Placed} (h : q.IsSameUptoComments p)
    (hkind : p.declaration.kind.IsVariable) : q = p := by
  have htext : q.text = p.text := by
    refine h.text.resolve_right ?_
    rintro ⟨htakes, -⟩
    rcases hkind with hkind | hkind | hkind <;>
      simp [hkind, DeclarationKind.TakesComments] at htakes
  obtain ⟨⟨_, _⟩, _⟩ := p
  obtain ⟨⟨_, _⟩, _⟩ := q
  rw [Placed.mk.injEq, Slice.mk.injEq]
  exact ⟨⟨htext, h.ahead⟩, h.declaration⟩

/-- Whatever could follow a declaration, it is read up to the same place but for comments. -/
theorem exists_reads_topDeclaration {ending : Ending} (ending' : Ending)
    (h : Reads (topDeclaration g ending) s mid (some p)) :
    ∃ mid' q, Reads (topDeclaration g ending') s mid' (some q) ∧ q.IsSameUptoComments p ∧
      (mid' = mid ∨ CommentsApart mid mid') := by
  obtain ⟨d, hd, hp⟩ := reads_placed.mp h
  obtain ⟨d, rfl, rfl⟩ := Option.map_eq_some_iff.mp hp.symm
  obtain ⟨mid', hd', hends⟩ := endsAlike_declaration _ (reads_withRules.mp hd)
  have hq : Reads (topDeclaration g ending') s mid'
      (some ⟨⟨s.take (s.length - mid'.length), s⟩, d⟩) :=
    reads_placed.mpr ⟨some d, reads_withRules.mpr hd', rfl⟩
  refine ⟨mid', _, hq, ⟨rfl, rfl, ?_⟩, hends.imp_right And.right⟩
  rcases hends with rfl | ⟨⟨_, hmem, htakes⟩, hcomments⟩
  · exact .inl rfl
  · cases hmem
    refine .inr ⟨htakes, hcomments.symm.differInComments ?_⟩
    rw [← (ends_topDeclaration hq).2.ahead, ← (ends_topDeclaration h).2.ahead]

theorem reads_program_of_statements_exported (h : Reads (statements g) (exported s) rest ps) :
    Reads (program g) (exported s) rest ps := by
  have hmark : (do gap; interpreterLine : Parser Unit) (exported s) = none := by
    refine eq_none_iff_not_reads.mpr fun t u hread => ?_
    obtain ⟨_, t', ht', hline⟩ := reads_bind.mp hread
    obtain ⟨rfl, -⟩ := ht'.unique (reads_gap_exported s)
    have hnone : interpreterLine (exported s) = none := rfl
    exact eq_none_iff_not_reads.mp hnone t u hline
  exact reads_program.mpr ⟨exported s, reads_skip.mpr (.inr ⟨hmark, rfl⟩), h⟩

/-- A program that begins with a declaration is read the same behind `export`. -/
theorem reads_program_exported (h : Reads (program g) s rest ps) (hp : p ∈ ps)
    (hahead : p.ahead = s) :
    ∃ q ps', ps = p :: ps' ∧ q.IsSameUptoComments p ∧
      Reads (program g) (exported s) rest (q :: ps') := by
  obtain ⟨start, hfirst, hstatements⟩ := reads_program.mp h
  have hstart : s <:+ start := hahead ▸ ((inOrder_statements hstatements).of_mem hp).1
  obtain rfl : s = start := hstart.eq_of_length_le hfirst.suffix.length_le
  obtain ⟨mid, ps', rfl, hgap, hdeclared, hps'⟩ := exists_first_of_ahead hstatements hp hahead
  obtain ⟨mid', q, hq, hsame, hends⟩ := exists_reads_topDeclaration .plain hdeclared
  obtain ⟨t, ht, hopening, -⟩ := opens_topDeclaration g _ hdeclared
  obtain ⟨rfl, -⟩ := ht.unique hgap
  have hrest : Reads (statements g) mid' rest ps' := by
    rcases hends with rfl | hcomments
    · exact hps'
    · exact (hcomments.readsSame_statements g rest ps').mp hps'
  refine ⟨q, ps', rfl, hsame, reads_program_of_statements_exported ?_⟩
  exact (reads_statements_next (reads_topStatement_exported hopening hgap hq)).mpr ⟨ps', rfl, hrest⟩

end Changeset.Script
