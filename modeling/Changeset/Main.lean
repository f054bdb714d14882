import Changeset.CommandLine.Run

/-!
# The program

Reads what the arguments can name, runs the command, and prints its outcome.
-/

namespace Changeset.CommandLine

def candidates (arg : String) : List String :=
  let cs := arg.toList
  [arg, String.ofList (cs.drop 2), String.ofList ((cs.dropWhile (· != '=')).drop 1)]

/-- What is at a path; whatever is there and cannot be read as a file is a directory. -/
def load (path : String) : IO (String × Option Stored) := do
  try
    let bytes ← IO.FS.readBinFile path
    return (path, some (.file bytes.toList))
  catch e =>
    match e with
    | .noFileOrDirectory _ _ _ => return (path, none)
    | _ => return (path, some .directory)

def readInput (args : List String) : IO (List UInt8) := do
  if args.contains "-" then
    return (← (← IO.getStdin).readToEnd).toUTF8.toList
  else return []

def crashText : Crash → String
  | .missingFile => "no such file"
  | .isDirectory => "is a directory"
  | .encoding f => f.message
  | .settings f => f.message?.getD "the settings file cannot be read"
  | .engine f => f.message

def print (o : Outcome) : IO UInt32 := do
  IO.print o.stdout
  IO.eprint o.stderr
  match o.crash with
  | none => pure ()
  | some c => IO.eprintln (crashText c)
  return o.exitCode.toUInt32

end Changeset.CommandLine

open Changeset.CommandLine in
def main (args : List String) : IO UInt32 := do
  let found ← (args.flatMap candidates).mapM load
  let input ← readInput args
  print (run ⟨fun path => (found.lookup path).join, input⟩ args)
