import Changeset.CommandLine.Page
import Changeset.Edit.Block
import Changeset.Text.Quoted

/-!
# Switches

An argument is a switch with its value, or stands for itself. Long switches
begin with two dashes, short ones with one, and short ones can be joined. Two
dashes alone end the switches.
-/

namespace Changeset.CommandLine

inductive Key where
  | config | verbose | debug | language | strategy | before | after | help
  deriving DecidableEq, Repr

structure Switch where
  key : Key
  /-- The name without its two dashes. -/
  long : String
  short : Option Char
  takesValue : Bool

def helpSwitch : Switch := ⟨.help, "help", none, false⟩

def Page.switches : Page → List Switch
  | .program => [
    ⟨.config, "config", some 'c', true⟩, ⟨.verbose, "verbose", some 'v', false⟩,
    ⟨.debug, "debug", none, false⟩, helpSwitch]
  | .diff => [⟨.language, "language", some 'l', true⟩, helpSwitch]
  | .split => [
    ⟨.language, "language", some 'l', true⟩, ⟨.strategy, "strategy", some 's', true⟩,
    ⟨.before, "before", none, true⟩, ⟨.after, "after", none, true⟩, helpSwitch]

def Switch.names (s : Switch) : String :=
  quoted ("--" ++ s.long) ++
    match s.short with
    | none => ""
    | some c => " / " ++ quoted (String.ofList ['-', c])

def Page.mixes : Page → Bool
  | .program => false
  | .diff | .split => true

/-! ## Similar words -/

def matchedLength (xs ys : List Char) : Nat :=
  (Edit.blocks xs ys).foldl (fun n b => n + b.size) 0

/-- Whether two words share at least six tenths of their characters in order. -/
def isSimilar (candidate word : List Char) : Bool :=
  3 * (candidate.length + word.length) ≤ 10 * matchedLength candidate word &&
    candidate.length + word.length != 0

/-- Up to three words of `candidates` that are similar to `word`, the most similar first. -/
def similar (candidates : List String) (word : String) : List String :=
  let cs := candidates.filter fun c => isSimilar c.toList word.toList
  let closer (a b : String) : Bool :=
    let x := matchedLength a.toList word.toList * (b.length + word.length)
    let y := matchedLength b.toList word.toList * (a.length + word.length)
    y < x || (x == y && b ≤ a)
  (cs.mergeSort closer).take 3

def suggestion : List String → String
  | [] => ""
  | [s] => " Did you mean " ++ quoted s ++ "?"
  | ss => " (Possible options: " ++ ", ".intercalate ((ss.mergeSort (· ≤ ·)).map quoted) ++ ")"

/-! ## Misuse -/

inductive Misuse where
  | noSwitch (name : String) (similar : List String)
  | noValue (name : String)
  | needlessValue (name : String)
  | noCommand
  | unknownCommand (name : String)
  | missing (argument : String)
  | extra (arguments : List String)
  | badValue (names problem : String)
  | halfPair
  deriving DecidableEq, Repr

namespace Misuse

def message : Misuse → String
  | noSwitch name similar => "No such option " ++ quoted name ++ "." ++ suggestion similar
  | noValue name => "Option " ++ quoted name ++ " requires an argument."
  | needlessValue name => "Option " ++ quoted name ++ " does not take a value."
  | noCommand => "Missing command."
  | unknownCommand name =>
    "No such command " ++ quoted name ++ "." ++ suggestion (similar ["diff", "split"] name)
  | missing argument => "Missing argument " ++ quoted argument ++ "."
  | extra [a] => "Got unexpected extra argument (" ++ a ++ ")"
  | extra as => "Got unexpected extra arguments (" ++ " ".intercalate as ++ ")"
  | badValue names problem => "Invalid value for " ++ names ++ ": " ++ problem
  | halfPair => "--before and --after must be given together"

def hasHint : Misuse → Bool
  | noValue _ | needlessValue _ => false
  | _ => true

end Misuse

/-! ## Reading arguments -/

structure Given where
  switches : List (Key × String)
  others : List String
  deriving DecidableEq, Repr

namespace Given

def empty : Given := ⟨[], []⟩

def addOther (g : Given) (a : String) : Given := { g with others := a :: g.others }

def value? (g : Given) (k : Key) : Option String := (g.switches.reverse.find? (·.1 = k)).map (·.2)

def has (g : Given) (k : Key) : Bool := (g.value? k).isSome

end Given

/-- What one argument gives, and the switch that takes the next argument as its value. -/
structure Piece where
  switches : List (Key × String)
  waiting : Option (Key × String)

/-- Joined short switches; the first that takes a value takes what is behind it. -/
def shortPiece (switches : List Switch) : List Char → Except Misuse Piece
  | [] => .ok ⟨[], none⟩
  | c :: cs =>
    match switches.find? (·.short = some c) with
    | none => .error (.noSwitch (String.ofList ['-', c]) [])
    | some s =>
      if s.takesValue then
        if cs.isEmpty then .ok ⟨[], some (s.key, String.ofList ['-', c])⟩
        else .ok ⟨[(s.key, String.ofList cs)], none⟩
      else (shortPiece switches cs).map fun p => { p with switches := (s.key, "") :: p.switches }

def longPiece (s : Switch) (name : String) (value : Option String) : Except Misuse Piece :=
  if s.takesValue then
    match value with
    | some v => .ok ⟨[(s.key, v)], none⟩
    | none => .ok ⟨[], some (s.key, name)⟩
  else
    match value with
    | some _ => .error (.needlessValue name)
    | none => .ok ⟨[(s.key, "")], none⟩

def piece (switches : List Switch) (arg : List Char) : Except Misuse Piece :=
  let name := arg.takeWhile (· != '=')
  let value := match arg.dropWhile (· != '=') with
    | [] => none
    | _ :: v => some (String.ofList v)
  match switches.find? fun s => name == '-' :: '-' :: s.long.toList with
  | some s => longPiece s (String.ofList name) value
  | none =>
    match arg with
    | '-' :: '-' :: _ =>
      let known := switches.map fun s => "--" ++ s.long
      .error (.noSwitch (String.ofList name) (similar known (String.ofList name)))
    | _ => shortPiece switches arg.tail

def isSwitch : List Char → Bool
  | '-' :: _ :: _ => true
  | _ => false

def given (switches : List Switch) (mixes : Bool) : List String → Except Misuse Given
  | [] => .ok .empty
  | [a] =>
    if a == "--" then .ok .empty
    else if isSwitch a.toList then do
      let p ← piece switches a.toList
      match p.waiting with
      | some (_, name) => .error (.noValue name)
      | none => .ok ⟨p.switches, []⟩
    else .ok ⟨[], [a]⟩
  | a :: b :: rest =>
    if a == "--" then .ok ⟨[], b :: rest⟩
    else if isSwitch a.toList then do
      let p ← piece switches a.toList
      match p.waiting with
      | some (k, _) => do
        let g ← given switches mixes rest
        .ok ⟨p.switches ++ (k, b) :: g.switches, g.others⟩
      | none => do
        let g ← given switches mixes (b :: rest)
        .ok ⟨p.switches ++ g.switches, g.others⟩
    else if mixes then (given switches mixes (b :: rest)).map fun g => g.addOther a
    else .ok ⟨[], a :: b :: rest⟩

end Changeset.CommandLine
