import Changeset.Change
import Changeset.Text.Decimal
import Changeset.Text.Quoted

/-!
# Reports

Results are reported as JSON text, indented by two spaces, in ASCII. What is not
ASCII is written by the numbers of its UTF-16 units.
-/

namespace Changeset.CommandLine

inductive Report where
  | text (s : String)
  | number (n : Int)
  | list (items : List Report)
  | record (fields : List (String × Report))
  deriving Repr

namespace Report

def unit (n : Nat) : List Char := '\\' :: 'u' :: Quoted.hex 4 n

def escape (c : Char) : List Char :=
  if c = '"' || c = '\\' then ['\\', c]
  else if c = '\n' then ['\\', 'n']
  else if c = '\r' then ['\\', 'r']
  else if c = '\t' then ['\\', 't']
  else if c = '\x08' then ['\\', 'b']
  else if c = '\x0c' then ['\\', 'f']
  else if ' ' ≤ c && c ≤ '~' then [c]
  else if c.toNat < 0x10000 then unit c.toNat
  else
    let n := c.toNat - 0x10000
    unit (0xd800 + n / 0x400) ++ unit (0xdc00 + n % 0x400)

def encode (s : String) : List Char := '"' :: s.toList.flatMap escape ++ ['"']

def newline (depth : Nat) : List Char := '\n' :: List.replicate (2 * depth) ' '

mutual

def chars (depth : Nat) : Report → List Char
  | text s => encode s
  | number n => Decimal.ofInt n
  | list [] => ['[', ']']
  | list (x :: xs) => '[' :: items (depth + 1) (x :: xs) ++ newline depth ++ [']']
  | record [] => ['\x7b', '\x7d']
  | record (f :: fs) => '\x7b' :: entries (depth + 1) (f :: fs) ++ newline depth ++ ['\x7d']

def items (depth : Nat) : List Report → List Char
  | [] => []
  | [x] => newline depth ++ chars depth x
  | x :: xs => newline depth ++ chars depth x ++ ',' :: items depth xs

def entries (depth : Nat) : List (String × Report) → List Char
  | [] => []
  | [(name, x)] => newline depth ++ encode name ++ ':' :: ' ' :: chars depth x
  | (name, x) :: fs =>
    newline depth ++ encode name ++ ':' :: ' ' :: chars depth x ++ ',' :: entries depth fs

end

def render (r : Report) : String := String.ofList (r.chars 0)

def ofChange (c : Change) : Report := record [
  ("type", text c.kind.label),
  ("symbolName", text c.name),
  ("detail", text c.detail),
  ("location", record [("line", number c.line), ("column", number c.column)])]

def ofChanges (language : String) (cs : List Change) : Report := record [
  ("language", text language), ("changes", list (cs.map ofChange))]

def ofChunks (chunks : List String) : Report := record [("chunks", list (chunks.map text))]

end Report

end Changeset.CommandLine
