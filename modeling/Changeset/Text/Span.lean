/-!
# Spans of code points

A character class is a list of disjoint spans in ascending order. Membership
reads the list, so a class is exactly its table.
-/

namespace Changeset.Span

/-- Whether a number lies in one of the spans, ends included. -/
def contains (spans : List (Nat × Nat)) (n : Nat) : Bool :=
  spans.any fun s => s.1 ≤ n && n ≤ s.2

end Changeset.Span
