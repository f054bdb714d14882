/-!
# Symbols

A symbol is a named top-level declaration of one version of a file, with the
exact text of its statement and the lines that it spans.
-/

namespace Changeset

structure Symbol where
  key : String
  name : String
  kind : String
  sourceText : String
  line : Int
  column : Int
  endLine : Int
  deriving DecidableEq, Repr, Inhabited

namespace Symbol

/-- No line at all is not enclosed by anything. -/
def encloses (s : Symbol) (lines : List Int) : Bool :=
  !lines.isEmpty && lines.all fun n => s.line ≤ n && n ≤ s.endLine

def spanSize (s : Symbol) : Int := s.endLine - s.line + 1

theorem encloses_iff {s : Symbol} {lines : List Int} :
    s.encloses lines = true ↔ lines ≠ [] ∧ ∀ n ∈ lines, s.line ≤ n ∧ n ≤ s.endLine := by
  simp [encloses]

end Symbol

end Changeset
