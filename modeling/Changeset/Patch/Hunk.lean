import Changeset.Text.Decimal

/-!
# Hunks

A hunk is one block of a patch: where it stands in the old and in the new file,
how many lines of each it covers, and its body. The first character of a body
line is its mark. A plus adds a line, a minus removes one, a backslash only
comments, and any other line, an empty one included, stands in both files.
-/

namespace Changeset

abbrev Line := List Char

namespace Patch

structure Hunk where
  oldStart : Int
  oldCount : Int
  newStart : Int
  newCount : Int
  body : List Line
  heading : Line
  deriving DecidableEq, Repr

inductive Mark where
  | added
  | removed
  | comment
  | context
  deriving DecidableEq, Repr

def mark : Line → Mark
  | '+' :: _ => .added
  | '-' :: _ => .removed
  | '\\' :: _ => .comment
  | _ => .context

namespace Mark

def inOld : Mark → Bool
  | .removed | .context => true
  | .added | .comment => false

def inNew : Mark → Bool
  | .added | .context => true
  | .removed | .comment => false

end Mark

/-- The line numbers of the lines marked `m`, where lines that `counts` accepts are numbered. -/
def numbersFrom (m : Mark) (counts : Mark → Bool) : Int → List Line → List Int
  | _, [] => []
  | n, l :: ls =>
    let rest := numbersFrom m counts (if counts (mark l) then n + 1 else n) ls
    if mark l = m then n :: rest else rest

namespace Hunk

def added (h : Hunk) : List Int := numbersFrom .added Mark.inNew h.newStart h.body

def removed (h : Hunk) : List Int := numbersFrom .removed Mark.inOld h.oldStart h.body

def header (h : Hunk) : Line :=
  ['@', '@', ' ', '-'] ++ Decimal.ofInt h.oldStart ++ ',' :: Decimal.ofInt h.oldCount ++
    [' ', '+'] ++ Decimal.ofInt h.newStart ++ ',' :: Decimal.ofInt h.newCount ++ [' ', '@', '@']

def render (h : Hunk) : List Line := h.header :: h.body

end Hunk

structure FilePatch where
  source : String
  target : String
  hunks : List Hunk
  deriving DecidableEq, Repr

structure Document where
  files : List FilePatch
  deriving DecidableEq, Repr

namespace Document

def hunks (d : Document) : List Hunk := d.files.flatMap FilePatch.hunks

end Document

end Patch

end Changeset
