import Changeset.Patch.Entry
import Changeset.Text.Lines

/-!
# Reading patches

A patch is read line by line. Outside of hunks each line is an entry; after a
hunk header as many body lines follow as its counts ask for. Text that belongs
to no file is skipped, so a text without headers reads as an empty document.
-/

namespace Changeset.Patch

inductive Fault where
  | newFileOutsideHeader (line : List Char)
  | deletedFileOutsideHeader (line : List Char)
  | targetWithoutSource (line : List Char)
  | hunkWithoutFile (line : List Char)
  | markerWithoutFile (line : List Char)
  | markerWithoutHunk
  | binaryWithoutFile (line : List Char)
  | notABodyLine (line : List Char)
  | hunkTooLong
  | hunkTooShort
  | numberTooLong (digits : Nat)
  deriving DecidableEq, Repr

def maxDigits : Nat := 4300

namespace Fault

def reason : Fault → String
  | newFileOutsideHeader l => "Unexpected new file found: " ++ String.ofList l
  | deletedFileOutsideHeader l => "Unexpected deleted file found: " ++ String.ofList l
  | targetWithoutSource l => "Target without source: " ++ String.ofList l
  | hunkWithoutFile l => "Unexpected hunk found: " ++ String.ofList l
  | markerWithoutFile l => "Unexpected marker: " ++ String.ofList l
  | markerWithoutHunk => "Unexpected marker: No newline at end of file"
  | binaryWithoutFile l => "Unexpected binary patch marker: " ++ String.ofList l
  | notABodyLine l => "Hunk diff line expected: " ++ String.ofList l
  | hunkTooLong => "Hunk is longer than expected"
  | hunkTooShort => "Hunk is shorter than expected"
  | numberTooLong n =>
    "Exceeds the limit (" ++ toString maxDigits ++ " digits) for integer string conversion: value has "
      ++ toString n ++ " digits; use sys.set_int_max_str_digits() to increase the limit"

/-- Whether the text breaks the format; a number too long to convert does not. -/
def isFormat : Fault → Bool
  | numberTooLong _ => false
  | _ => true

def message (f : Fault) : String :=
  if f.isFormat then "Malformed unified diff: " ++ f.reason else f.reason

end Fault

inductive Place where
  | outside
  /-- Behind a git header and before the first hunk of its file. -/
  | header (file : FilePatch)
  | file (file : FilePatch)
  /-- Inside `hunk`, whose body is kept last line first, with so many lines to come. -/
  | body (file : FilePatch) (hunk : Hunk) (oldLeft newLeft : Nat)
  deriving DecidableEq, Repr

structure State where
  /-- The files that are complete, last one first. -/
  done : List FilePatch
  place : Place
  /-- The source name of the next file that has no git header. -/
  pending : Option String
  deriving DecidableEq, Repr

namespace State

def start : State := ⟨[], .outside, none⟩

def current? (s : State) : Option FilePatch :=
  match s.place with
  | .outside => none
  | .header f | .file f => some f
  | .body f _ _ _ => some f

def files (s : State) : List FilePatch := s.current?.toList ++ s.done

def close (s : State) : State := { s with done := s.files, place := .outside }

/-- What a line without meaning does: it ends the file unless it stands in a git header. -/
def skip (s : State) : State :=
  match s.place with
  | .header _ => s
  | _ => s.close

end State

def readNumber (digits : List Char) : Except Fault Nat :=
  if digits.length ≤ maxDigits then .ok (Digit.toNat digits)
  else .error (.numberTooLong digits.length)

/-- A count that is left out is 1. -/
def readCount : Option (List Char) → Except Fault Nat
  | some digits => readNumber digits
  | none => .ok 1

def openHunk (header : HunkHeader) (file : FilePatch) : Except Fault Place := do
  let oldStart ← readNumber header.oldStart
  let oldCount ← readCount header.oldCount
  let newStart ← readNumber header.newStart
  let newCount ← readCount header.newCount
  return .body file ⟨oldStart, oldCount, newStart, newCount, [], header.heading⟩ oldCount newCount

def FilePatch.extendLast (f : FilePatch) (l : Line) : Option FilePatch :=
  match f.hunks.getLast? with
  | none => none
  | some h => some { f with hunks := f.hunks.dropLast ++ [{ h with body := h.body ++ [l] }] }

def isBreak (c : Char) : Bool := c == '\r' || c == '\n'

def chomp (l : List Char) : Line := (l.reverse.dropWhile (· == '\n')).reverse

/-- The body line that a line of the text stands for; a blank one gains its mark. -/
def bodyLine? : List Char → Option Line
  | [] => none
  | c :: cs =>
    if isBreak c then some (chomp (' ' :: c :: (cs.take 1).filter isBreak))
    else if c == ' ' || c == '+' || c == '-' || c == '\\' then some (chomp (c :: cs))
    else none

def FilePatch.addHunk (f : FilePatch) (h : Hunk) : FilePatch :=
  { f with hunks := f.hunks ++ [{ h with body := h.body.reverse }] }

/-- Adds a line to an open hunk, which ends when no line is left to come. -/
def bodyStep (file : FilePatch) (hunk : Hunk) (oldLeft newLeft : Nat) (line : List Char) :
    Except Fault Place :=
  match bodyLine? line with
  | none => .error (.notABodyLine line)
  | some l =>
    let old := if (mark l).inOld then 1 else 0
    let new := if (mark l).inNew then 1 else 0
    if oldLeft < old || newLeft < new then .error .hunkTooLong
    else
      let hunk := { hunk with body := l :: hunk.body }
      if oldLeft = old && newLeft = new then .ok (.file (file.addHunk hunk))
      else .ok (.body file hunk (oldLeft - old) (newLeft - new))

def State.entryStep (s : State) (line : List Char) : Except Fault State :=
  match Entry.ofLine line with
  | .git source target =>
    .ok { done := s.files, place := .header ⟨source, target, []⟩, pending := some source }
  | .newFile =>
    match s.place with
    | .header f => .ok { s with place := .header { f with source := "/dev/null" } }
    | _ => .error (.newFileOutsideHeader line)
  | .deletedFile =>
    match s.place with
    | .header f => .ok { s with place := .header { f with target := "/dev/null" } }
    | _ => .error (.deletedFileOutsideHeader line)
  | .source name => .ok { s.skip with pending := some name }
  | .target name =>
    match s.current?, s.pending with
    | some f, _ => if f.target = name then .ok s else .error (.targetWithoutSource line)
    | none, some source => .ok { s with place := .file ⟨source, name, []⟩, pending := none }
    | none, none => .error (.targetWithoutSource line)
  | .hunk header =>
    match s.current? with
    | none => .error (.hunkWithoutFile line)
    | some f => (openHunk header f).map fun place => { s with place }
  | .noNewline =>
    match s.current? with
    | none => .error (.markerWithoutFile line)
    | some f =>
      match f.extendLast Entry.noNewlineMark with
      | none => .error .markerWithoutHunk
      | some f => .ok { s with place := .file f }
  | .blank =>
    match s.place with
    | .file f =>
      match f.extendLast [] with
      | none => .ok s.close
      | some f => .ok { s with place := .file f }
    | _ => .ok s.skip
  | .binary source target =>
    match s.place with
    | .header _ => .ok { s.close with pending := some source }
    | _ =>
      .ok ⟨⟨source, target.getD source, []⟩ :: s.files, .outside, some source⟩
  | .gitBinary =>
    match s.place with
    | .header _ => .ok s.close
    | _ => .error (.binaryWithoutFile line)
  | .text => .ok s.skip

def State.step (s : State) (line : List Char) : Except Fault State :=
  match s.place with
  | .body file hunk oldLeft newLeft =>
    (bodyStep file hunk oldLeft newLeft line).map fun place => { s with place }
  | _ => s.entryStep line

def State.finish (s : State) : Except Fault Document :=
  match s.place with
  | .body file hunk 0 0 => .ok ⟨(file.addHunk hunk :: s.done).reverse⟩
  | .body _ _ _ _ => .error .hunkTooShort
  | _ => .ok ⟨s.files.reverse⟩

namespace Document

def lines (text : List Char) : List (List Char) := Lines.split (· == '\n') text

def ofLines (ls : List (List Char)) : Except Fault Document := do
  (← ls.foldlM State.step State.start).finish

def read (patch : String) : Except Fault Document := ofLines (lines patch.toList)

end Document

end Changeset.Patch
