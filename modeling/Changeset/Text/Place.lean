/-!
# Places

Where a text has been read to, as its UTF-8 counts it: octets from the beginning,
and octets from the last newline. A place also holds what is left to read.
-/

namespace Changeset

structure Mark where
  octets : Nat
  /-- Newlines among them. -/
  row : Nat
  /-- Octets behind the last of the newlines. -/
  column : Nat
  deriving DecidableEq, Repr

namespace Mark

def start : Mark := ⟨0, 0, 0⟩

def next (m : Mark) (c : Char) : Mark :=
  if c = '\n' then ⟨m.octets + c.utf8Size, m.row + 1, 0⟩
  else ⟨m.octets + c.utf8Size, m.row, m.column + c.utf8Size⟩

end Mark

structure Place extends Mark where
  ahead : List Char

namespace Place

def ofText (s : List Char) : Place := ⟨.start, s⟩

def step (p : Place) : Place :=
  match p.ahead with
  | [] => p
  | c :: cs => ⟨p.next c, cs⟩

def advance (p : Place) : Nat → Place
  | 0 => p
  | n + 1 => p.step.advance n

def skip (p : Place) (f : Char → Bool) : Place := p.advance (p.ahead.takeWhile f).length

end Place

end Changeset
