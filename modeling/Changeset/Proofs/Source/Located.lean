import Changeset.Proofs.Outcome
import Changeset.Proofs.Script.Program
import Changeset.Proofs.Text.Place
import Changeset.Source.Declarations

/-!
# Symbols in characters

What is decoded from the octets of a declaration can be said without them: its
text is the one that was read, its position is that of the characters in front
of it, and its last line is as many lines below as the text has newlines
(`symbolAt`). No part of a program is cut inside a character, so all of its
symbols decode (`symbolsOf_eq`).
-/

namespace Changeset.Source

open Script (Placed InOrder Slice)

/-- The position where the text `ahead` begins, an end of `source`. -/
def positionOf (source ahead : List Char) : Position :=
  Position.ofOffset source (source.length - ahead.length)

def symbolAt (source : List Char) (p : Placed) (name : Slice) : Symbol :=
  let start := positionOf source p.ahead
  let kind := p.declaration.kind.label
  { key := kind ++ ":" ++ String.ofList name.text
    name := String.ofList name.text
    kind := kind
    sourceText := String.ofList p.text
    line := start.line
    column := start.column
    endLine := start.line + p.text.count '\n' }

def symbolsAt (source : List Char) (p : Placed) : List Symbol :=
  p.declaration.names.map (symbolAt source p)

theorem positionOf_append (before ahead : List Char) :
    positionOf (before ++ ahead) ahead = Position.start.advance before := by
  simp [positionOf, Position.ofOffset]

-- ---------------------------------------------------------------------------
-- Slices
-- ---------------------------------------------------------------------------

section
variable {source rest : List Char} {s : Slice}

theorem extentOf_append (before : List Char) (h : s.ahead = s.text ++ rest) :
    extentOf (before ++ s.ahead) s = ⟨.behind before, .behind (before ++ s.text)⟩ := by
  rw [extentOf, h, Extent.ofAhead_append]

theorem text_extentOf (hahead : s.ahead <:+ source) (h : s.ahead = s.text ++ rest) :
    (extentOf source s).text (Utf8.encode source) = .ok s.text := by
  obtain ⟨before, rfl⟩ := hahead
  rw [extentOf_append before h, h, Extent.text_behind]

theorem position_extentOf (hahead : s.ahead <:+ source) (h : s.ahead = s.text ++ rest) :
    (extentOf source s).start.position (Utf8.encode source) = .ok (positionOf source s.ahead) := by
  obtain ⟨before, rfl⟩ := hahead
  rw [extentOf_append before h, Mark.position_behind, positionOf_append]

theorem endLine_extentOf (hahead : s.ahead <:+ source) (h : s.ahead = s.text ++ rest) :
    (extentOf source s).endLine = (positionOf source s.ahead).line + s.text.count '\n' := by
  obtain ⟨before, rfl⟩ := hahead
  rw [extentOf_append before h, Extent.endLine_behind, positionOf_append]

end

-- ---------------------------------------------------------------------------
-- Symbols
-- ---------------------------------------------------------------------------

section
variable {source rest : List Char} {p : Placed}

theorem symbol_eq (hahead : p.ahead <:+ source) (hends : p.Ends rest) {name : Slice}
    (hname : name ∈ p.declaration.names) :
    symbol (Utf8.encode source) p.declaration.kind.label (extentOf source p.toSlice)
      (extentOf source name) = .ok (symbolAt source p name) := by
  have hin := hends.declared.names name hname
  obtain ⟨behind, hstands, -⟩ := hin.stands
  rw [symbol, text_extentOf (hin.ahead.trans hahead) hstands, position_extentOf hahead hends.ahead,
    text_extentOf hahead hends.ahead, endLine_extentOf hahead hends.ahead]
  rfl

theorem symbols_eq (hahead : p.ahead <:+ source) (hends : p.Ends rest) :
    symbols source p = .ok (symbolsAt source p) :=
  mapM_eq_ok fun _ hname => symbol_eq hahead hends hname

theorem symbolsOf_eq {ps : List Placed} (h : InOrder source ps) :
    symbolsOf source ps = .ok (ps.flatMap (symbolsAt source)) := by
  have hall : ps.mapM (symbols source) = .ok (ps.map (symbolsAt source)) := by
    refine mapM_eq_ok fun p hp => ?_
    obtain ⟨hahead, rest, hends⟩ := h.of_mem hp
    exact symbols_eq hahead hends
  rw [symbolsOf, hall, List.flatMap_def]
  rfl

end

end Changeset.Source
