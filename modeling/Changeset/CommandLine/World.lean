/-!
# Files

What a command can read: files by their paths, and the standard input. A
directory in memory finds its files by relative paths.
-/

namespace Changeset.CommandLine

inductive Stored where
  | directory
  | file (bytes : List UInt8)
  deriving DecidableEq, Repr

structure World where
  find? : String → Option Stored
  input : List UInt8

/-- Files by their names; a name that ends in a slash is that of a directory. -/
structure Directory where
  files : List (String × List UInt8)

namespace Directory

def parts : List Char → List (List Char)
  | [] => [[]]
  | c :: cs =>
    match parts cs with
    | [] => [[c]]
    | p :: ps => if c == '/' then [] :: p :: ps else (c :: p) :: ps

def stored (d : Directory) : List (List (List Char) × Stored) :=
  d.files.map fun f =>
    let ps := parts f.1.toList
    if ps.getLast? == some [] then (ps.dropLast, .directory) else (ps, .file f.2)

/-- What is at a place: a file, or a directory that is named or holds something. -/
def at? (d : Directory) (place : List (List Char)) : Option Stored :=
  match d.stored.find? (·.1 == place) with
  | some e => some e.2
  | none =>
    if place.isEmpty || d.stored.any fun e => place.isPrefixOf e.1 then some .directory else none

/-- Walks along the parts of a path; only directories can be walked through. -/
def walk (d : Directory) (place : List (List Char)) : List (List Char) → Option Stored
  | [] => d.at? place
  | p :: ps =>
    match d.at? place with
    | some .directory =>
      if p == [] || p == ['.'] then d.walk place ps
      else if p == ['.', '.'] then if place.isEmpty then none else d.walk place.dropLast ps
      else d.walk (place ++ [p]) ps
    | _ => none

def find? (d : Directory) (path : String) : Option Stored :=
  if path.isEmpty || path.toList.head? == some '/' then none
  else d.walk [] (parts path.toList)

end Directory

end Changeset.CommandLine
