import Changeset.Proofs.Comparing
import Changeset.Proofs.Script.Blanks

/-!
# Moving a source down

Newlines in front of a source are read as white space, so the same declarations
are read behind them (`Script.readsSame_program_append`). Their places are
counted from the beginning and move down by as many lines; their columns, which
are counted from the last newline, stay. Thus `declarationsIn_moveDown`: a
source that is moved down has the symbols of the source, moved down. The texts
under their keys are the same, and comparing the two reports nothing in either
direction (`compare_moveDown`).
-/

namespace Changeset

open Script (Placed Slice)

-- ---------------------------------------------------------------------------
-- Positions
-- ---------------------------------------------------------------------------

namespace Position

def moveDown (p : Position) (n : Nat) : Position := ⟨p.line + n, p.column⟩

theorem next_moveDown (p : Position) (n : Nat) (c : Char) :
    (p.moveDown n).next c = (p.next c).moveDown n := by
  by_cases h : c = '\n'
  · simp [next, moveDown, h, Nat.add_right_comm]
  · simp [next, moveDown, h]

theorem advance_moveDown (p : Position) (n : Nat) (cs : List Char) :
    (p.moveDown n).advance cs = (p.advance cs).moveDown n := by
  induction cs generalizing p with
  | nil => rfl
  | cons c cs ih => rw [advance_cons, advance_cons, next_moveDown, ih]

theorem advance_newlines (line n : Nat) :
    advance ⟨line, 0⟩ (List.replicate n '\n') = moveDown ⟨line, 0⟩ n := by
  induction n generalizing line with
  | zero => rfl
  | succ n ih =>
    rw [List.replicate_succ, advance_cons, next, if_pos rfl, ih]
    simp [moveDown, Nat.add_assoc, Nat.add_comm 1 n]

end Position

-- ---------------------------------------------------------------------------
-- Symbols
-- ---------------------------------------------------------------------------

def Text.moveDown (t : Text) (n : Nat) : Text := List.replicate n (.char '\n') ++ t

theorem Text.moveDown_ofChars (cs : List Char) (n : Nat) :
    (ofChars cs).moveDown n = ofChars (List.replicate n '\n' ++ cs) := by
  simp [moveDown, ofChars]

def Symbol.moveDown (s : Symbol) (n : Nat) : Symbol :=
  { s with line := s.line + n, endLine := s.endLine + n }

namespace Source

theorem positionOf_moveDown {source ahead : List Char} (h : ahead <:+ source) (n : Nat) :
    positionOf (List.replicate n '\n' ++ source) ahead =
      (positionOf source ahead).moveDown n := by
  obtain ⟨before, rfl⟩ := h
  rw [← List.append_assoc, positionOf_append, positionOf_append, Position.advance_append,
    Position.start, Position.advance_newlines, Position.advance_moveDown]

theorem symbol_moveDown {source : List Char} {p : Placed} (h : p.ahead <:+ source) (n : Nat)
    (name : Slice) :
    symbolAt (List.replicate n '\n' ++ source) p name = (symbolAt source p name).moveDown n := by
  simp only [symbolAt, Symbol.moveDown, positionOf_moveDown h, Position.moveDown,
    Int.natCast_add, Int.add_right_comm]

theorem symbols_moveDown {source : List Char} {p : Placed} (h : p.ahead <:+ source) (n : Nat) :
    symbolsAt (List.replicate n '\n' ++ source) p = (symbolsAt source p).map (·.moveDown n) := by
  rw [symbolsAt, symbolsAt, List.map_map]
  exact List.map_congr_left fun name _ => symbol_moveDown h n name

-- ---------------------------------------------------------------------------
-- Sources
-- ---------------------------------------------------------------------------

theorem declarations_moveDown {g : Grammar} {tag : String} {file : Option String}
    {source : Text} {ss : List Symbol} (h : declarations g tag file source = .ok ss) (n : Nat) :
    declarations g tag file (source.moveDown n) = .ok (ss.map (·.moveDown n)) := by
  obtain ⟨cs, ps, rest, rfl, hreads, rfl⟩ := declarations_ok_iff.mp h
  refine declarations_ok_iff.mpr ⟨_, ps, rest, Text.moveDown_ofChars cs n, ?_, ?_⟩
  · have hblank : ∀ c ∈ List.replicate n '\n', Script.isBlank c = true := by
      intro c hc
      rw [List.eq_of_mem_replicate hc]
      decide
    exact (Script.readsSame_program_append g hblank cs rest ps).mpr hreads
  · rw [List.map_flatMap]
    refine List.flatMap_congr fun p hp => ?_
    exact (symbols_moveDown ((Script.inOrder_program hreads).of_mem hp).1 n).symm

theorem declarationsIn_moveDown {language : String} {file : Option String} {source : Text}
    {ss : List Symbol} (h : declarationsIn language file source = .ok ss) (n : Nat) :
    declarationsIn language file (source.moveDown n) = .ok (ss.map (·.moveDown n)) := by
  obtain ⟨g, hg, hdecls⟩ := declarationsIn_ok_iff.mp h
  exact declarationsIn_ok_iff.mpr ⟨g, hg, declarations_moveDown hdecls n⟩

end Source

-- ---------------------------------------------------------------------------
-- Comparing
-- ---------------------------------------------------------------------------

theorem Table.sourceText_get?_moveDown (ss : List Symbol) (n : Nat) (k : String) :
    ((ofList (ss.map (·.moveDown n))).get? k).map Symbol.sourceText =
      ((ofList ss).get? k).map Symbol.sourceText := by
  rw [get?_ofList_map (f := (·.moveDown n)) (fun _ => rfl), Option.map_map]
  rfl

namespace Engine

/-- A source that is moved down has the same symbols further down, and is not reported as changed
under any settings that read the language by its grammar. -/
theorem compare_moveDown {language : String} {file : Option String} {source : Text}
    {ss : List Symbol} (h : Source.declarationsIn language file source = .ok ss) (n : Nat) :
    Source.declarationsIn language file (source.moveDown n) = .ok (ss.map (·.moveDown n)) ∧
    ∀ (settings : Settings) (tag : String) (l : Parsable) (path : Option String),
      parsable? settings tag = some l → Language.grammar? language = some l.grammar →
      (compare settings tag path source (source.moveDown n)).value = .ok [] ∧
      (compare settings tag path (source.moveDown n) source).value = .ok [] := by
  refine ⟨Source.declarationsIn_moveDown h n, ?_⟩
  intro settings tag l path hl hgrammar
  obtain ⟨g, hg, hdecls⟩ := Source.declarationsIn_ok_iff.mp h
  obtain rfl : g = l.grammar := Option.some.inj (hg.symm.trans hgrammar)
  have hsource : Source.declarations l.grammar l.tag path source = .ok ss :=
    Source.declarations_congr hdecls
  have hmoved := Source.declarations_moveDown hsource n
  constructor
  · rw [value_compare hl hsource hmoved, Table.diff_eq_nil_iff.mpr]
    exact fun k => (Table.sourceText_get?_moveDown ss n k).symm
  · rw [value_compare hl hmoved hsource, Table.diff_eq_nil_iff.mpr]
    exact Table.sourceText_get?_moveDown ss n

/-- A comment and a template over two lines, a regular expression, a statement that ends with its
line and an element. -/
def manyLexemes : Text :=
  Text.ofString ("/* a\n b */ export const a = `x\n$\x7b1\x7d`, b = /[/]/g\n" ++
    "  function f() \x7b return <p>\x7ba\x7d</p> \x7d")

def manyLexemesSymbols : List Symbol := [
  ⟨"const:a", "a", "const", "const a = `x\n$\x7b1\x7d`, b = /[/]/g", 2, 13, 3⟩,
  ⟨"const:b", "b", "const", "const a = `x\n$\x7b1\x7d`, b = /[/]/g", 2, 13, 3⟩,
  ⟨"function:f", "f", "function", "function f() \x7b return <p>\x7ba\x7d</p> \x7d", 4, 2, 4⟩]

theorem compare_moveDown_manyLexemes :
    Source.declarationsIn "tsx" none manyLexemes = .ok manyLexemesSymbols ∧
    parsable? .default "TSX" = some ⟨"tsx", .tsx⟩ ∧
    Language.grammar? "tsx" = some .tsx ∧
    Source.declarationsIn "tsx" none (manyLexemes.moveDown 3) =
      .ok (manyLexemesSymbols.map (·.moveDown 3)) ∧
    (compare .default "TSX" none manyLexemes (manyLexemes.moveDown 3)).value = .ok [] ∧
    (compare .default "TSX" none (manyLexemes.moveDown 3) manyLexemes).value = .ok [] := by
  have h : Source.declarationsIn "tsx" none manyLexemes = .ok manyLexemesSymbols := by
    decide +kernel
  have hl : parsable? .default "TSX" = some ⟨"tsx", .tsx⟩ := by decide +kernel
  have hg : Language.grammar? "tsx" = some .tsx := by decide +kernel
  obtain ⟨hmoved, hsame⟩ := compare_moveDown h 3
  exact ⟨h, hl, hg, hmoved, hsame .default "TSX" ⟨"tsx", .tsx⟩ none hl hg⟩

end Engine

end Changeset
