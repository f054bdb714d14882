/-!
# Changes

What a comparison of two versions reports: one record for each symbol, or run
of lines, that was added, modified or removed.
-/

namespace Changeset

inductive ChangeKind where
  | insert
  | update
  | delete
  deriving DecidableEq, Repr

structure Change where
  kind : ChangeKind
  name : String
  detail : String
  line : Int
  column : Int
  deriving DecidableEq, Repr

def ChangeKind.label : ChangeKind → String
  | .insert => "insert"
  | .update => "update"
  | .delete => "delete"

end Changeset
