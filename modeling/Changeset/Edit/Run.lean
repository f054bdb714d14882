import Changeset.Edit.Block

/-!
# Edit runs

What the matching blocks leave out is the difference. Between two blocks lies a
gap, and a gap is a run of removed elements, a run of added ones, or one of each
with the removed run first.
-/

namespace Changeset.Edit

inductive Side where
  | removed
  | added
  deriving DecidableEq, Repr

/-- `count` elements from the index `start` on: of the left sequence if removed, else of the right. -/
structure Run where
  side : Side
  start : Nat
  count : Nat
  deriving DecidableEq, Repr

def gapRuns (left right : Nat) (b : Block) : List Run :=
  (if left < b.left then [⟨.removed, left, b.left - left⟩] else []) ++
    if right < b.right then [⟨.added, right, b.right - right⟩] else []

def runsFrom (leftEnd rightEnd : Nat) : Nat → Nat → List Block → List Run
  | left, right, [] => gapRuns left right ⟨leftEnd, rightEnd, 0⟩
  | left, right, b :: bs =>
    gapRuns left right b ++ runsFrom leftEnd rightEnd (b.left + b.size) (b.right + b.size) bs

def runs {α : Type} [DecidableEq α] (xs ys : List α) : List Run :=
  runsFrom xs.length ys.length 0 0 (blocks xs ys)

end Changeset.Edit
