import Changeset.Change
import Changeset.Edit.Run
import Changeset.Text.CodePoint
import Changeset.Text.Lines

/-!
# Line differences

Two texts of any kind are compared line by line. Each run of removed or added
lines is one change, numbered in order and placed at its first line; common
lines are not reported and take no number.
-/

namespace Changeset.LineDiff

open Edit (Run Side)

def lines (t : Text) : List Text := Lines.split CodePoint.isNewline t

def runKind : Side → ChangeKind
  | .removed => .delete
  | .added => .insert

def action : Side → String
  | .removed => "removed"
  | .added => "added"

def change (r : Run) (index : Nat) : Change where
  kind := runKind r.side
  name := "chunk_" ++ toString index
  detail := toString r.count ++ " line(s) " ++ action r.side
  line := r.start + 1
  column := 0

def runs (before after : Text) : List Run := Edit.runs (lines before) (lines after)

def changes (before after : Text) : List Change :=
  (runs before after).mapIdx fun index r => change r index

end Changeset.LineDiff
