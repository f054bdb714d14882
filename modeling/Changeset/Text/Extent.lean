import Changeset.Text.Place
import Changeset.Text.Position
import Changeset.Text.Utf8

/-!
# Extents

A part of a text is known by two marks in its UTF-8. Its characters are those
that the octets between the marks decode to, and its position counts those that
the octets of its line in front of it decode to.
-/

namespace Changeset

/-- Octets cut out of a text decode on their own, or not at all. -/
def Utf8.slice (bytes : List UInt8) (start stop : Nat) : Except Utf8.Fault (List Char) :=
  Utf8.decode ((bytes.take stop).drop start)

def Mark.position (m : Mark) (bytes : List UInt8) : Except Utf8.Fault Position := do
  let before ← Utf8.slice bytes (m.octets - m.column) m.octets
  pure ⟨m.row + 1, before.length⟩

structure Extent where
  start : Mark
  stop : Mark

namespace Extent

def text (x : Extent) (bytes : List UInt8) : Except Utf8.Fault (List Char) :=
  Utf8.slice bytes x.start.octets x.stop.octets

/-- Lines count from 1, and so the last line of a part is one more than its last row. -/
def endLine (x : Extent) : Nat := x.stop.row + 1

/-- The part of `source` that is `length` characters from `ahead` on, an end of `source`. -/
def ofAhead (source ahead : List Char) (length : Nat) : Extent :=
  let start := (Place.ofText source).advance (source.length - ahead.length)
  ⟨start.toMark, (start.advance length).toMark⟩

end Extent

end Changeset
