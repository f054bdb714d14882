import Changeset.Proofs.Script.Exported
import Changeset.Proofs.Source.Declarations
import Mathlib.Data.List.Basic

/-!
# Exporting the first declaration of a source

With `export` in front, a source that begins with a declaration has the same
declarations, moved to the right as far as they stand in the first line
(`declarationsIn_exported`). Only the text of the first one can be another one:
what could follow a declaration decides how many of the comments behind a
function or a class belong to it, and behind `export` no operator could follow.
So a function can lose its comment (`not_declarationsIn_exported_verbatim`).
-/

namespace Changeset

open Script (Placed Slice)

-- ---------------------------------------------------------------------------
-- Positions
-- ---------------------------------------------------------------------------

namespace Position

/-- A place of the first line moves as its line is moved; the other lines stay. -/
def moveRight (p : Position) (n : Nat) : Position :=
  if p.line = 1 then ⟨p.line, p.column + n⟩ else p

theorem line_moveRight (p : Position) (n : Nat) : (p.moveRight n).line = p.line := by
  rw [moveRight]
  split <;> rfl

theorem next_moveRight {p : Position} (hp : 1 ≤ p.line) (n : Nat) (c : Char) :
    (p.moveRight n).next c = (p.next c).moveRight n := by
  by_cases hc : c = '\n'
  · have hline : ¬ p.line + 1 = 1 := by omega
    subst hc
    rw [next, next, if_pos rfl, if_pos rfl, line_moveRight, moveRight, if_neg hline]
  · by_cases hline : p.line = 1 <;> simp [next, moveRight, hc, hline, Nat.add_right_comm]

theorem advance_moveRight {p : Position} (hp : 1 ≤ p.line) (n : Nat) (cs : List Char) :
    (p.moveRight n).advance cs = (p.advance cs).moveRight n := by
  induction cs generalizing p with
  | nil => rfl
  | cons c cs ih =>
    have hnext : 1 ≤ (p.next c).line := by
      rw [next]
      split
      · exact Nat.le_add_left 1 p.line
      · exact hp
    rw [advance_cons, advance_cons, next_moveRight hp, ih hnext]

theorem eq_nil_of_advance_eq_start {cs : List Char} (h : start.advance cs = start) : cs = [] := by
  cases cs with
  | nil => rfl
  | cons c cs =>
    have hle := (start.next c).le_advance cs
    rw [← advance_cons, h, le_def, next] at hle
    split at hle <;> simp [start] at hle

end Position

-- ---------------------------------------------------------------------------
-- Symbols
-- ---------------------------------------------------------------------------

def Text.exported (t : Text) : Text := ofString "export " ++ t

theorem Text.exported_ofChars (cs : List Char) :
    (ofChars cs).exported = ofChars (Script.exported cs) := rfl

namespace Symbol

def moveRight (s : Symbol) (n : Nat) : Symbol :=
  { s with column := if s.line = 1 then s.column + n else s.column }

/-- `t` is `s` behind `export`. Comments behind a function or a class can belong to one of them and
not to the other. -/
structure IsExportOf (t s : Symbol) : Prop where
  key : t.key = s.key
  name : t.name = s.name
  kind : t.kind = s.kind
  line : t.line = s.line
  column : t.column = s.column + 7
  sourceText : t.sourceText = s.sourceText ∨ (s.kind = "function" ∨ s.kind = "class") ∧
    Script.DifferInComments t.sourceText.toList s.sourceText.toList
  endLine : t.endLine - t.sourceText.toList.count '\n' = s.endLine - s.sourceText.toList.count '\n'

end Symbol

namespace Source

theorem positionOf_exported {source ahead : List Char} (h : ahead <:+ source) :
    positionOf (Script.exported source) ahead = (positionOf source ahead).moveRight 7 := by
  obtain ⟨before, rfl⟩ := h
  have hexported : Script.exported (before ++ ahead) = "export ".toList ++ before ++ ahead := by
    rw [List.append_assoc]
    rfl
  have hstart : Position.start.advance "export ".toList = Position.start.moveRight 7 := by decide
  rw [hexported, positionOf_append, positionOf_append, Position.advance_append, hstart,
    Position.advance_moveRight (by decide)]

theorem symbol_exported {source : List Char} {p : Placed} (h : p.ahead <:+ source)
    (name : Slice) :
    symbolAt (Script.exported source) p name = (symbolAt source p name).moveRight 7 := by
  simp only [symbolAt, Symbol.moveRight, positionOf_exported h, Position.moveRight]
  split
  · rename_i hline
    simp [hline]
  · rename_i hline
    have hline' : ¬ ((positionOf source p.ahead).line : Int) = 1 := by omega
    simp [hline']

theorem symbols_exported {source : List Char} {p : Placed} (h : p.ahead <:+ source) :
    symbolsAt (Script.exported source) p = (symbolsAt source p).map (·.moveRight 7) := by
  rw [symbolsAt, symbolsAt, List.map_map]
  exact List.map_congr_left fun name _ => symbol_exported h name

theorem positionOf_self (source : List Char) : positionOf source source = Position.start :=
  positionOf_append [] source

theorem flatMap_symbols_exported {source : List Char} {ps : List Placed}
    (h : ∀ p ∈ ps, p.ahead <:+ source) :
    ps.flatMap (symbolsAt (Script.exported source)) =
      (ps.flatMap (symbolsAt source)).map (·.moveRight 7) := by
  rw [List.map_flatMap]
  exact List.flatMap_congr fun p hp => symbols_exported (h p hp)

/-- A symbol at the very beginning is one of a declaration that is read from there. -/
theorem ahead_eq_of_symbol {source : List Char} {p : Placed} {name : Slice}
    (h : p.ahead <:+ source) (hline : (symbolAt source p name).line = 1)
    (hcolumn : (symbolAt source p name).column = 0) : p.ahead = source := by
  obtain ⟨before, hsource⟩ := h
  have hplace := startsAt_symbol hsource.symm name
  have hstart : Position.start.advance before = Position.start := by
    have hline := hplace.line.symm.trans hline
    have hcolumn := hplace.column.symm.trans hcolumn
    generalize Position.start.advance before = position at hline hcolumn ⊢
    obtain ⟨line, column⟩ := position
    rw [Position.start, Position.mk.injEq]
    simp only at hline hcolumn
    omega
  rw [← hsource, Position.eq_nil_of_advance_eq_start hstart, List.nil_append]

section
variable {source : List Char} {p q : Placed}

theorem isExportOf_symbol (hsame : q.IsSameUptoComments p) (hahead : p.ahead = source)
    (name : Slice) :
    (symbolAt (Script.exported source) q name).IsExportOf (symbolAt source p name) := by
  have hp : positionOf source p.ahead = ⟨1, 0⟩ := hahead ▸ positionOf_self source
  have hq : positionOf (Script.exported source) q.ahead = ⟨1, 7⟩ := by
    rw [hsame.ahead, hahead, positionOf_exported List.suffix_rfl, positionOf_self]
    rfl
  have htext : p.declaration.kind.TakesComments →
      (symbolAt source p name).kind = "function" ∨ (symbolAt source p name).kind = "class" := by
    rintro (hkind | hkind)
    · simp [symbolAt, hkind, Script.DeclarationKind.label]
    · simp [symbolAt, hkind, Script.DeclarationKind.label]
  refine ⟨?_, rfl, ?_, ?_, ?_, hsame.text.imp (fun h => ?_) (And.imp htext fun h => ?_), ?_⟩
  · simp [symbolAt, hsame.declaration]
  · simp [symbolAt, hsame.declaration]
  · simp [symbolAt, hp, hq]
  · simp [symbolAt, hp, hq]
  · simp [symbolAt, h]
  · simpa [symbolAt] using h
  · simp [symbolAt, hp, hq]

theorem symbols_first_exported {rest : List Char} {first : Slice} {more : List Slice}
    (hsame : q.IsSameUptoComments p) (hahead : p.ahead = source) (hends : p.Ends rest)
    (hnames : p.declaration.names = first :: more) :
    symbolsAt (Script.exported source) q = symbolAt (Script.exported source) q first ::
      (more.map (symbolAt source p)).map (·.moveRight 7) := by
  rw [symbolsAt, hsame.declaration, hnames, List.map_cons, List.map_map]
  congr 1
  rcases hends.declared.single with hkind | ⟨name, hname⟩
  · have hq : q = p := hsame.eq_of_isVariable hkind
    rw [hq]
    exact List.map_congr_left fun name _ => symbol_exported (hahead ▸ List.suffix_rfl) name
  · rw [hname, List.cons.injEq] at hnames
    rw [← hnames.2]
    rfl

end

-- ---------------------------------------------------------------------------
-- Sources
-- ---------------------------------------------------------------------------

/-- A source that begins with a declaration can be exported, and has the same declarations then. -/
theorem declarationsIn_exported {language : String} {file : Option String} {source : Text}
    {s : Symbol} {ss : List Symbol} (h : declarationsIn language file source = .ok (s :: ss))
    (hline : s.line = 1) (hcolumn : s.column = 0) :
    ∃ t, declarationsIn language file source.exported = .ok (t :: ss.map (·.moveRight 7)) ∧
      t.IsExportOf s := by
  obtain ⟨g, hg, hdecls⟩ := declarationsIn_ok_iff.mp h
  obtain ⟨cs, ps, rest, rfl, hreads, hss⟩ := declarations_ok_iff.mp hdecls
  have hrow := Script.inOrder_program hreads
  -- The first declaration that has names is the first of all.
  have hs : s ∈ ps.flatMap (symbolsAt cs) := hss ▸ List.mem_cons_self
  obtain ⟨p, hp, hs⟩ := List.mem_flatMap.mp hs
  obtain ⟨name, hname, rfl⟩ := List.mem_map.mp hs
  obtain ⟨hsuffix, behind, hends⟩ := hrow.of_mem hp
  have hahead := ahead_eq_of_symbol hsuffix hline hcolumn
  obtain ⟨q, ps', rfl, hsame, hexported⟩ := Script.reads_program_exported hreads hp hahead
  obtain ⟨first, more, hnames⟩ := List.exists_cons_of_ne_nil (List.ne_nil_of_mem hname)
  rw [List.flatMap_cons, symbolsAt, hnames, List.map_cons, List.cons_append,
    List.cons.injEq] at hss
  obtain ⟨hfirst, rfl⟩ := hss
  refine ⟨symbolAt (Script.exported cs) q first, ?_, hfirst ▸ isExportOf_symbol hsame hahead first⟩
  refine declarationsIn_ok_iff.mpr ⟨g, hg, declarations_ok_iff.mpr
    ⟨_, q :: ps', rest, Text.exported_ofChars cs, hexported, ?_⟩⟩
  have hlater : ∀ p' ∈ ps', p'.ahead <:+ cs := fun p' hp' =>
    (hrow.of_mem (List.mem_cons_of_mem _ hp')).1
  rw [List.flatMap_cons, symbols_first_exported hsame hahead hends hnames,
    flatMap_symbols_exported hlater, List.map_append, List.cons_append]

/-- Two variables of one statement, a function behind them that ends in the next line, and a class. -/
def unexported : Text :=
  Text.ofString "let a = 1, b = a; async function* g() \x7b\n\x7d // c\n@d class C \x7b\x7d"

def unexportedSymbols : List Symbol := [
  ⟨"let:b", "b", "let", "let a = 1, b = a;", 1, 0, 1⟩,
  ⟨"function:g", "g", "function", "async function* g() \x7b\n\x7d // c", 1, 18, 2⟩,
  ⟨"class:C", "C", "class", "@d class C \x7b\x7d", 3, 0, 3⟩]

theorem declarationsIn_exported_severalNames :
    declarationsIn "mjs" none unexported =
      .ok (⟨"let:a", "a", "let", "let a = 1, b = a;", 1, 0, 1⟩ :: unexportedSymbols) ∧
    ∃ t, declarationsIn "mjs" none unexported.exported =
        .ok (t :: unexportedSymbols.map (·.moveRight 7)) ∧
      t.IsExportOf ⟨"let:a", "a", "let", "let a = 1, b = a;", 1, 0, 1⟩ := by
  have h : declarationsIn "mjs" none unexported =
      .ok (⟨"let:a", "a", "let", "let a = 1, b = a;", 1, 0, 1⟩ :: unexportedSymbols) := by
    decide +kernel
  exact ⟨h, declarationsIn_exported h rfl rfl⟩

/-- The comment behind a function belongs to it, and not to the export of it. -/
theorem not_declarationsIn_exported_verbatim :
    declarationsIn "js" none (Text.ofString "function f() \x7b\x7d // c\n") =
      .ok [⟨"function:f", "f", "function", "function f() \x7b\x7d // c", 1, 0, 1⟩] ∧
    declarationsIn "js" none (Text.ofString "function f() \x7b\x7d // c\n").exported =
      .ok [⟨"function:f", "f", "function", "function f() \x7b\x7d", 1, 7, 1⟩] ∧
    ¬ ∀ (language : String) (file : Option String) (source : Text) (s : Symbol) (ss : List Symbol),
      declarationsIn language file source = .ok (s :: ss) → s.line = 1 → s.column = 0 →
        declarationsIn language file source.exported = .ok ((s :: ss).map (·.moveRight 7)) := by
  have hplain : declarationsIn "js" none (Text.ofString "function f() \x7b\x7d // c\n") =
      .ok [⟨"function:f", "f", "function", "function f() \x7b\x7d // c", 1, 0, 1⟩] := by
    decide +kernel
  have hexported : declarationsIn "js" none (Text.ofString "function f() \x7b\x7d // c\n").exported =
      .ok [⟨"function:f", "f", "function", "function f() \x7b\x7d", 1, 7, 1⟩] := by
    decide +kernel
  refine ⟨hplain, hexported, fun h => ?_⟩
  have hverbatim := h "js" none _ _ _ hplain rfl rfl
  rw [hexported] at hverbatim
  simp [Symbol.moveRight] at hverbatim

end Source

end Changeset
