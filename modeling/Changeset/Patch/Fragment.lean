import Changeset.Patch.Reader
import Changeset.Symbol.Table

/-!
# Fragments

A fragment is a patch of its own for some hunks of one file. A patch is cut into
one fragment for each hunk, or so that hunks that change the same symbol share
one. A text that cannot be cut is its own only fragment.
-/

namespace Changeset.Patch

def unlines (ls : List Line) : List Char := ls.flatMap (· ++ ['\n'])

/-- The file lines of a fragment name no file, since whoever applies it chooses one. -/
def placeholder : List Line := [['-', '-', '-'], ['+', '+', '+']]

def fragment (hs : List Hunk) : String :=
  String.ofList (unlines (placeholder ++ hs.flatMap Hunk.render))

/-- The symbol of least span that encloses all lines; of equal spans the first. -/
def smallestEnclosing? (ss : List Symbol) (lines : List Int) : Option Symbol :=
  (ss.filter (·.encloses lines)).foldl (fun best s =>
    match best with
    | none => some s
    | some b => if s.spanSize < b.spanSize then some s else some b) none

/--
The key of the symbol that a hunk changes. Added lines decide by the new table,
and lines removed with them must lie in the old symbol of that key; a hunk that
only removes is decided by the old table.
-/
def align? (before after : Table) (h : Hunk) : Option String :=
  if h.added ≠ [] then
    match smallestEnclosing? after.symbols h.added with
    | none => none
    | some s =>
      if h.removed = [] then some s.key
      else
        match before.get? s.key with
        | some old => if old.encloses h.removed then some s.key else none
        | none => none
  else if h.removed ≠ [] then (smallestEnclosing? before.symbols h.removed).map Symbol.key
  else none

/-- Members under the key they share; a member without key shares with none. -/
structure Group (α : Type) where
  key : Option String
  members : List α
  deriving DecidableEq, Repr

/-- Adds a member to the group of its key, or behind all groups. -/
def place {α : Type} (key : Option String) (x : α) : List (Group α) → List (Group α)
  | [] => [⟨key, [x]⟩]
  | g :: gs =>
    if key.isSome && g.key == key then ⟨g.key, g.members ++ [x]⟩ :: gs else g :: place key x gs

def groups {α : Type} (key : α → Option String) (xs : List α) : List (Group α) :=
  xs.foldl (fun gs x => place (key x) x gs) []

def splitByHunk (d : Document) : List String := d.hunks.map fun h => fragment [h]

def splitBySymbol (before after : Table) (d : Document) : List String :=
  (groups (align? before after) d.hunks).map fun g => fragment g.members

end Changeset.Patch
