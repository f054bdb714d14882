import Changeset.Change
import Changeset.Symbol.Table

/-!
# Symbol differences

Two tables are compared key by key, and a symbol is modified when its text
differs in any character. Added and modified symbols come first, in the order
of the new table, then the removed ones in the order of the old table.
-/

namespace Changeset

def Symbol.change (s : Symbol) (kind : ChangeKind) (verb : String) : Change where
  kind := kind
  name := s.name
  detail := s.kind ++ " " ++ verb
  line := s.line
  column := s.column

namespace Table

def arrival? (before : Table) (s : Symbol) : Option Change :=
  match before.get? s.key with
  | none => some (s.change .insert "added")
  | some old => if old.sourceText = s.sourceText then none else some (s.change .update "modified")

def departure? (after : Table) (s : Symbol) : Option Change :=
  if after.contains s.key then none else some (s.change .delete "removed")

def diff (before after : Table) : List Change :=
  after.symbols.filterMap (arrival? before) ++ before.symbols.filterMap (departure? after)

end Table

end Changeset
