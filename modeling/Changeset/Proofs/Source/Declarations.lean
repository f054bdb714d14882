import Changeset.Proofs.Source.Located
import Changeset.Proofs.Text.Lines

/-!
# Symbols are slices of their source

`declarationsIn_isSliceOf`: a symbol's line and column are a place of the
source, and its text is what the source holds from there on. The symbols come
in the order of their slices, and no two slices overlap unless they are one and
the same statement that declares several variables (`declarationsIn_inOrder`).

Symbols are decoded from octets, and always can be (`declarations_ok_iff`). In
characters their positions are those of the texts that were left to read, so
both follow from the row of slices that a program is read as.
-/

namespace Changeset

open Script (Placed InOrder Slice)
open Script.Parser (Reads)

-- ---------------------------------------------------------------------------
-- Symbols and their places
-- ---------------------------------------------------------------------------

namespace Symbol

structure StartsAt (s : Symbol) (p : Position) : Prop where
  line : s.line = p.line
  column : s.column = p.column

/-- `s` is a part of the source, and its fields say which. -/
structure IsSliceOf (s : Symbol) (source : List Char) : Prop where
  position : ∃ p : Position, s.StartsAt p ∧ p.IsIn source ∧
    s.sourceText.toList <+: textFrom source p
  nonempty : s.sourceText ≠ ""
  endLine : s.endLine = s.line + s.sourceText.toList.count '\n'
  key : s.key = s.kind ++ ":" ++ s.name
  name_nonempty : s.name ≠ ""
  name : s.name.toList <:+: s.sourceText.toList

/-- Variables that one statement declares. -/
structure SharesStatement (s t : Symbol) : Prop where
  sourceText : s.sourceText = t.sourceText
  line : s.line = t.line
  column : s.column = t.column
  endLine : s.endLine = t.endLine
  kind : s.kind = t.kind
  isVariable : s.kind = "const" ∨ s.kind = "let" ∨ s.kind = "var"

/-- The text of `s`, at its place, ends where `t` starts or before. -/
def EndsBefore (s t : Symbol) : Prop :=
  ∃ p q : Position, s.StartsAt p ∧ t.StartsAt q ∧ p.advance s.sourceText.toList ≤ q

end Symbol

-- ---------------------------------------------------------------------------
-- The symbols of a declaration
-- ---------------------------------------------------------------------------

namespace Source

theorem startsAt_symbol {source before : List Char} {p : Placed} (h : source = before ++ p.ahead)
    (name : Slice) : (symbolAt source p name).StartsAt (Position.start.advance before) := by
  subst h
  constructor <;> simp [symbolAt, positionOf_append]

theorem isSliceOf_symbol {source rest : List Char} {p : Placed} (hahead : p.ahead <:+ source)
    (hends : p.Ends rest) {name : Slice} (hname : name ∈ p.declaration.names) :
    (symbolAt source p name).IsSliceOf source := by
  obtain ⟨before, rfl⟩ := hahead
  have hin := hends.declared.names name hname
  have hinfix : name.text <:+: p.text := by
    rw [hends.ahead] at hin
    exact hin.infix
  have htext : p.text ≠ [] := by
    intro hnil
    rw [hnil] at hinfix
    exact hin.nonempty (List.infix_nil.mp hinfix)
  refine ⟨⟨_, startsAt_symbol rfl name, isIn_advance before p.ahead, ?_⟩, ?_, ?_, rfl, ?_, ?_⟩
  · rw [textFrom_advance, hends.ahead]
    simp [symbolAt]
  · simpa [symbolAt] using htext
  · simp [symbolAt]
  · simpa [symbolAt] using hin.nonempty
  · simpa [symbolAt] using hinfix

theorem label_of_isVariable {kind : Script.DeclarationKind} (h : kind.IsVariable) :
    kind.label = "const" ∨ kind.label = "let" ∨ kind.label = "var" := by
  rcases h with rfl | rfl | rfl
  · exact .inl rfl
  · exact .inr (.inl rfl)
  · exact .inr (.inr rfl)

theorem sharesStatement_symbols {source rest : List Char} {p : Placed} (hends : p.Ends rest) :
    (symbolsAt source p).Pairwise Symbol.SharesStatement := by
  rcases hends.declared.single with hkind | ⟨name, hname⟩
  · refine List.pairwise_map.mpr (List.pairwise_of_forall fun _ _ => ?_)
    exact ⟨rfl, rfl, rfl, rfl, rfl, label_of_isVariable hkind⟩
  · rw [symbolsAt, hname]
    exact List.pairwise_singleton _ _

theorem endsBefore_symbol {source rest : List Char} {p q : Placed} (hahead : p.ahead <:+ source)
    (hends : p.Ends rest) (hq : q.ahead <:+ rest) (name name' : Slice) :
    (symbolAt source p name).EndsBefore (symbolAt source q name') := by
  obtain ⟨before, rfl⟩ := hahead
  obtain ⟨between, hrest⟩ := hq
  have hsource : before ++ p.ahead = before ++ p.text ++ between ++ q.ahead := by
    rw [hends.ahead, ← hrest]
    simp
  refine ⟨_, _, startsAt_symbol rfl name, startsAt_symbol hsource name', ?_⟩
  rw [Position.advance_append, Position.advance_append]
  simp only [symbolAt, String.toList_ofList]
  exact Position.le_advance _ _

-- ---------------------------------------------------------------------------
-- The symbols of a source
-- ---------------------------------------------------------------------------

section
variable {g : Grammar} {tag language : String} {file : Option String} {source : Text}
  {ss : List Symbol}

theorem read_eq_program {cs : List Char} {ps : List Placed} :
    Script.read g cs = .program ps ↔ ∃ rest, Reads (Script.program g) cs rest ps := by
  rw [Script.read]
  cases h : Script.program g cs with
  | none => exact iff_of_false nofun fun ⟨rest, _, hreads⟩ => nomatch h.symm.trans hreads
  | some r =>
    constructor
    · rintro ⟨⟩
      exact ⟨r.rest, Script.Parser.reads_of_eq_some h⟩
    · rintro ⟨rest, _, hreads⟩
      rw [h] at hreads
      cases hreads
      rfl

/-- A source has symbols exactly if its characters are read as a program. -/
theorem declarations_ok_iff :
    declarations g tag file source = .ok ss ↔
      ∃ cs ps rest, source = Text.ofChars cs ∧ Reads (Script.program g) cs rest ps ∧
        ss = ps.flatMap (symbolsAt cs) := by
  constructor
  · intro h
    unfold declarations at h
    split at h
    · cases h
    · rename_i cs hcs
      split at h
      · rename_i ps hread
        obtain ⟨rest, hreads⟩ := read_eq_program.mp hread
        rw [symbolsOf_eq (Script.inOrder_program hreads)] at h
        cases h
        exact ⟨cs, ps, rest, Text.eq_ofChars_of_chars? hcs, hreads, rfl⟩
      · split at h <;> cases h
  · rintro ⟨cs, ps, rest, rfl, hreads, rfl⟩
    rw [declarations, Text.chars?_ofChars]
    simp only [read_eq_program.mpr ⟨rest, hreads⟩, symbolsOf_eq (Script.inOrder_program hreads)]
    rfl

/-- The language's name and the file's are those of errors alone. -/
theorem declarations_congr {tag' : String} {file' : Option String}
    (h : declarations g tag file source = .ok ss) : declarations g tag' file' source = .ok ss :=
  declarations_ok_iff.mpr (declarations_ok_iff.mp h)

theorem declarationsIn_ok_iff :
    declarationsIn language file source = .ok ss ↔
      ∃ g, Language.grammar? language = some g ∧ declarations g language file source = .ok ss := by
  rw [declarationsIn]
  cases Language.grammar? language <;> simp [mapError_ok]

theorem exists_inOrder (h : declarationsIn language file source = .ok ss) :
    ∃ cs ps, source = Text.ofChars cs ∧ InOrder cs ps ∧ ss = ps.flatMap (symbolsAt cs) := by
  obtain ⟨g, -, hdecls⟩ := declarationsIn_ok_iff.mp h
  obtain ⟨cs, ps, rest, hsource, hreads, hss⟩ := declarations_ok_iff.mp hdecls
  exact ⟨cs, ps, hsource, Script.inOrder_program hreads, hss⟩

end

/-- Every symbol is the part of the source that its line, its column and its text say, and its
other fields agree with them. -/
theorem declarationsIn_isSliceOf {language : String} {file : Option String} {source : Text}
    {ss : List Symbol} (h : declarationsIn language file source = .ok ss) :
    ∃ cs, source = Text.ofChars cs ∧ ∀ s ∈ ss, s.IsSliceOf cs := by
  obtain ⟨cs, ps, hsource, hps, rfl⟩ := exists_inOrder h
  refine ⟨cs, hsource, fun s hs => ?_⟩
  obtain ⟨p, hp, hs⟩ := List.mem_flatMap.mp hs
  obtain ⟨name, hname, rfl⟩ := List.mem_map.mp hs
  obtain ⟨hahead, rest, hends⟩ := hps.of_mem hp
  exact isSliceOf_symbol hahead hends hname

/-- A mark and a decorator before an exported class with a variable inside, and a statement over two
lines with several variables, of which one has a name outside of ASCII and one is a pattern. -/
def several : Text :=
  Text.ofString ("\ufeff@d export class A \x7b f() \x7b let x \x7d \x7d\n" ++
    "let é = 1,\n b, [c] = d; type T = b")

def severalSymbols : List Symbol := [
  ⟨"class:A", "A", "class", "class A \x7b f() \x7b let x \x7d \x7d", 1, 11, 1⟩,
  ⟨"let:é", "é", "let", "let é = 1,\n b, [c] = d;", 2, 0, 3⟩,
  ⟨"let:b", "b", "let", "let é = 1,\n b, [c] = d;", 2, 0, 3⟩,
  ⟨"type:T", "T", "type", "type T = b", 3, 13, 3⟩]

theorem declarationsIn_several : declarationsIn "TS" none several = .ok severalSymbols := by
  decide +kernel

theorem declarationsIn_isSliceOf_several :
    declarationsIn "TS" none several = .ok severalSymbols ∧
    ∃ cs, several = Text.ofChars cs ∧ ∀ s ∈ severalSymbols, s.IsSliceOf cs :=
  ⟨declarationsIn_several, declarationsIn_isSliceOf declarationsIn_several⟩

/-- Of two symbols the earlier one ends before the later one starts, or both are variables of one
statement. -/
theorem declarationsIn_inOrder {language : String} {file : Option String} {source : Text}
    {ss : List Symbol} (h : declarationsIn language file source = .ok ss) :
    ss.Pairwise fun s t => s.SharesStatement t ∨ s.EndsBefore t := by
  obtain ⟨cs, ps, -, hps, rfl⟩ := exists_inOrder h
  rw [List.pairwise_flatMap]
  constructor
  · intro p hp
    obtain ⟨-, rest, hends⟩ := hps.of_mem hp
    exact (sharesStatement_symbols hends).imp .inl
  · refine hps.pairwise.imp ?_
    rintro p q ⟨hahead, rest, hends, hq⟩ s hs t ht
    obtain ⟨name, -, rfl⟩ := List.mem_map.mp hs
    obtain ⟨name', -, rfl⟩ := List.mem_map.mp ht
    exact .inr (endsBefore_symbol hahead hends hq name name')

theorem declarationsIn_inOrder_several :
    declarationsIn "TS" none several = .ok severalSymbols ∧
    severalSymbols.Pairwise fun s t => s.SharesStatement t ∨ s.EndsBefore t :=
  ⟨declarationsIn_several, declarationsIn_inOrder declarationsIn_several⟩

end Source

end Changeset
