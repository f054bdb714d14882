/-!
# Reading places

A cursor is a place in a text: what is still ahead, and the line, the column and
the number of characters behind it. The small readers here go forward over what
ends lines and over what is between them.
-/

namespace Changeset.Yaml

inductive Fault where
  | malformed
  /-- A part of it has a type that no value can have there. -/
  | mistyped
  /-- A scalar cannot be read as its type says. -/
  | invalid (message : String)
  /-- A scalar is not at all of the form of its type. -/
  | formless
  | unknownTruth
  /-- A scalar that has to be a number is empty. -/
  | bare
  /-- A mapping stands where only a scalar has a text. -/
  | textless
  /-- A number in base sixty has more digits than there are powers of sixty. -/
  | overflow
  deriving DecidableEq, Repr

structure Cursor where
  rest : List Char
  index : Nat
  line : Nat
  column : Nat
  deriving Repr

namespace Cursor

def start (text : List Char) : Cursor := ⟨text, 0, 0, 0⟩

/-- The character at `n` places ahead; NUL stands for the end. -/
def peek (c : Cursor) (n : Nat) : Char := c.rest.getD n '\x00'

def head (c : Cursor) : Char := c.peek 0

def atEnd (c : Cursor) : Bool := c.rest.isEmpty

/-- What follows the first character decides whether a return ends the line. -/
def next (c : Cursor) : Cursor :=
  match c.rest with
  | [] => c
  | x :: rest =>
    if x == '\n' || x == '\x85' || x == '\u2028' || x == '\u2029' ||
        (x == '\r' && rest.head? != some '\n') then
      ⟨rest, c.index + 1, c.line + 1, 0⟩
    else if x == '\ufeff' then ⟨rest, c.index + 1, c.line, c.column⟩
    else ⟨rest, c.index + 1, c.line, c.column + 1⟩

def skip : Nat → Cursor → Cursor
  | 0, c => c
  | n + 1, c => skip n c.next

end Cursor

def isBreak (c : Char) : Bool :=
  c == '\r' || c == '\n' || c == '\x85' || c == '\u2028' || c == '\u2029'

def isEndOrBreak (c : Char) : Bool := c == '\x00' || isBreak c

def isEndOrBlank (c : Char) : Bool := isEndOrBreak c || c == ' ' || c == '\t'

def isEndOrSpace (c : Char) : Bool := isEndOrBreak c || c == ' '

namespace Cursor

def span (f : Char → Bool) (c : Cursor) : List Char × Cursor :=
  let cs := c.rest.takeWhile f
  (cs, c.skip cs.length)

def skipWhile (f : Char → Bool) (c : Cursor) : Cursor := (c.span f).2

def skipSpaces (c : Cursor) : Cursor := c.skipWhile (· == ' ')

def skipComment (c : Cursor) : Cursor :=
  if c.head == '#' then c.skipWhile fun x => !isEndOrBreak x else c

/-- A line break as it counts in a scalar; nothing if there is none. -/
def lineBreak (c : Cursor) : List Char × Cursor :=
  if c.head == '\r' && c.peek 1 == '\n' then (['\n'], c.skip 2)
  else if c.head == '\r' || c.head == '\n' || c.head == '\x85' then (['\n'], c.next)
  else if c.head == '\u2028' || c.head == '\u2029' then ([c.head], c.next)
  else ([], c)

def atDivider (c : Cursor) : Bool :=
  let three := c.rest.take 3
  (three == ['-', '-', '-'] || three == ['.', '.', '.']) && isEndOrBlank (c.peek 3)

end Cursor

end Changeset.Yaml
