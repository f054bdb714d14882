import Changeset.Proofs.Script.Declaration
import Changeset.Script.Program

/-!
# The declarations of a program

A program is read statement by statement, so its declarations are slices of the
source that follow each other: `inOrder_program`. What a statement holds inside
itself is read with it, and no part of it is read again.
-/

namespace Changeset.Script

open Changeset.Script.Parser

structure Placed.Ends (p : Placed) (rest : List Char) : Prop where
  ahead : p.ahead = p.text ++ rest
  declared : p.declaration.IsIn p.ahead rest

theorem Placed.Ends.suffix {p : Placed} {rest : List Char} (h : p.Ends rest) : rest <:+ p.ahead :=
  ⟨p.text, h.ahead.symm⟩

/-- Declarations that are read from `s` on, each from behind the one before. -/
inductive InOrder : List Char → List Placed → Prop
  | nil (s : List Char) : InOrder s []
  | cons {s rest : List Char} {p : Placed} {ps : List Placed} :
      p.ahead <:+ s → p.Ends rest → InOrder rest ps → InOrder s (p :: ps)

theorem InOrder.mono {s s' : List Char} {ps : List Placed} (h : InOrder s ps) (hs : s <:+ s') :
    InOrder s' ps := by
  cases h with
  | nil => exact .nil s'
  | cons hp hends hps => exact .cons (hp.trans hs) hends hps

theorem InOrder.of_mem {s : List Char} {ps : List Placed} (h : InOrder s ps) {p : Placed}
    (hp : p ∈ ps) : p.ahead <:+ s ∧ ∃ rest, p.Ends rest := by
  induction h with
  | nil => cases hp
  | cons hahead hends _ ih =>
    rcases List.mem_cons.mp hp with rfl | hp
    · exact ⟨hahead, _, hends⟩
    · obtain ⟨hsuffix, hp⟩ := ih hp
      exact ⟨hsuffix.trans (hends.suffix.trans hahead), hp⟩

theorem InOrder.pairwise {s : List Char} {ps : List Placed} (h : InOrder s ps) :
    ps.Pairwise fun p q => p.ahead <:+ s ∧ ∃ rest, p.Ends rest ∧ q.ahead <:+ rest := by
  induction h with
  | nil => exact .nil
  | cons hahead hends hps ih =>
    refine .cons (fun q hq => ⟨hahead, _, hends, (hps.of_mem hq).1⟩) ?_
    refine ih.imp ?_
    rintro p q ⟨hp, hbehind⟩
    exact ⟨hp.trans (hends.suffix.trans hahead), hbehind⟩

variable {s rest : List Char} {p : Placed}

theorem reads_withRules {α : Type} {g : Grammar} {q : Env → Parser α} {a : α} :
    Reads (withRules g q) s rest a ↔ Reads (q ⟨g, rules g (depthFor s)⟩) s rest a := by
  simp only [Reads, withRules]

theorem reads_placed {q : Parser (Option Declaration)} {o : Option Placed} :
    Reads (placed q) s rest o ↔
      ∃ d, Reads q s rest d ∧ o = d.map fun d => ⟨⟨s.take (s.length - rest.length), s⟩, d⟩ := by
  constructor
  · rintro ⟨hs, h⟩
    unfold placed at h
    split at h
    · cases h
    · rename_i r hr
      cases h
      exact ⟨r.value, reads_of_eq_some hr, rfl⟩
  · rintro ⟨d, ⟨hs, h⟩, rfl⟩
    exact ⟨hs, by rw [placed, h]⟩

theorem ends_topDeclaration {g : Grammar} {ending : Ending}
    (h : Reads (topDeclaration g ending) s rest (some p)) : p.ahead = s ∧ p.Ends rest := by
  obtain ⟨d, hreads, hp⟩ := reads_placed.mp h
  obtain ⟨d, rfl, rfl⟩ := Option.map_eq_some_iff.mp hp.symm
  have hdeclared : d.IsIn s rest := isIn_declaration _ (reads_withRules.mp hreads)
  obtain ⟨text, hs⟩ := hreads.suffix
  refine ⟨rfl, ?_, hdeclared⟩
  simp [← hs]

/-- A statement that declares something is a declaration behind white space, or behind what exports
it. -/
theorem topStatement_cases {g : Grammar} (h : Reads (topStatement g) s rest (some p)) :
    ∃ mid, Reads gap s mid () ∧ (Reads (topDeclaration g .ofExpression) mid rest (some p) ∨
      ∃ e ending mid' mid'', Reads (Env.exportMark e) mid mid' ending ∧ Reads gap mid' mid'' () ∧
        Reads (topDeclaration g ending) mid'' rest (some p)) := by
  simp only [topStatement, reads_bind] at h
  obtain ⟨_, mid, hgap, h⟩ := h
  refine ⟨mid, hgap, ?_⟩
  rcases reads_orElse h with h | h
  · exact .inl h
  rcases reads_orElse h with h | h
  · simp only [reads_bind, reads_withRules] at h
    obtain ⟨ending, mid', hmark, _, mid'', hgap', h⟩ := h
    exact .inr ⟨_, ending, mid', mid'', hmark, hgap', h⟩
  · simp only [reads_bind, reads_pure] at h
    obtain ⟨_, _, _, h, _⟩ := h
    cases h

theorem exists_topDeclaration_of_topStatement {g : Grammar}
    (h : Reads (topStatement g) s rest (some p)) :
    ∃ ending s', s' <:+ s ∧ Reads (topDeclaration g ending) s' rest (some p) := by
  obtain ⟨mid, hgap, h | ⟨_, ending, mid', s', hmark, hgap', h⟩⟩ := topStatement_cases h
  · exact ⟨_, mid, hgap.suffix, h⟩
  · exact ⟨ending, s', hgap'.suffix.trans (hmark.suffix.trans hgap.suffix), h⟩

theorem ends_topStatement {g : Grammar} (h : Reads (topStatement g) s rest (some p)) :
    p.ahead <:+ s ∧ p.Ends rest := by
  obtain ⟨ending, s', hs', hdeclared⟩ := exists_topDeclaration_of_topStatement h
  obtain ⟨rfl, hends⟩ := ends_topDeclaration hdeclared
  exact ⟨hs', hends⟩

theorem inOrder_row {g : Grammar} {items : List (Option Placed)}
    (h : Row (topStatement g) s rest items) : InOrder s (items.filterMap id) := by
  induction h with
  | nil s => exact .nil s
  | @cons s mid rest item items hitem _ ih =>
    cases item with
    -- A statement that declares nothing only moves the others away from the start.
    | none => exact ih.mono hitem.suffix
    | some p =>
      obtain ⟨hahead, hends⟩ := ends_topStatement hitem
      exact .cons hahead hends ih

/-- What a program is made of, behind a line that names an interpreter. -/
def statements (g : Grammar) : Parser (List Placed) := do
  let items ← many (topStatement g)
  gap
  let s ← ahead
  check s.isEmpty
  pure (items.filterMap id)

theorem reads_program {g : Grammar} {ps : List Placed} :
    Reads (program g) s rest ps ↔
      ∃ mid, Reads (skip (do gap; interpreterLine)) s mid () ∧ Reads (statements g) mid rest ps := by
  have hprogram : program g = skip (do gap; interpreterLine) >>= fun _ => statements g := rfl
  rw [hprogram, reads_bind]
  exact ⟨fun ⟨_, h⟩ => h, fun h => ⟨(), h⟩⟩

theorem inOrder_statements {g : Grammar} {ps : List Placed} (h : Reads (statements g) s rest ps) :
    InOrder s ps := by
  simp only [statements, reads_bind, reads_pure] at h
  obtain ⟨items, s₁, hitems, _, _, _, _, _, _, _, _, _, rfl, _⟩ := h
  exact inOrder_row (row_of_reads_many hitems)

/-- The declarations of a program are slices of it that follow each other. -/
theorem inOrder_program {g : Grammar} {ps : List Placed} (h : Reads (program g) s rest ps) :
    InOrder s ps := by
  obtain ⟨mid, hfirst, hstatements⟩ := reads_program.mp h
  exact (inOrder_statements hstatements).mono hfirst.suffix

end Changeset.Script
