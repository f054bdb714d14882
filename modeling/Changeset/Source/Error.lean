/-!
# Source errors

A source that cannot be read gives one error: what is wrong, where it is, and in
which language and file.
-/

namespace Changeset

structure SourceError where
  language : String
  line : Int
  column : Int
  file : Option String
  reason : String
  deriving DecidableEq, Repr

namespace SourceError

def place : Option String → String
  | none => ""
  | some file => if file.isEmpty then "" else " in " ++ file

def message (e : SourceError) : String :=
  "Failed to parse " ++ e.language ++ " source" ++ place e.file ++ ": " ++ e.reason ++
    " at line " ++ toString e.line ++ ", column " ++ toString e.column

def defaultReason : String := "syntax error"

end SourceError

end Changeset
