import Changeset.Text.Digit
import Changeset.Text.Span
import Changeset.Patch.Hunk

/-!
# The lines of a patch

Outside of hunk bodies a line is known by its beginning alone: it names a file,
changes what is known of one, opens a hunk, or means nothing. Names run to a
tab or the end of the line. Where several readings are possible, the first name
is as long as it can be, except in a notice on binary files, where it is as
short as it can be.
-/

namespace Changeset.Patch

structure HunkHeader where
  oldStart : List Char
  oldCount : Option (List Char)
  newStart : List Char
  newCount : Option (List Char)
  heading : Line
  deriving DecidableEq, Repr

inductive Entry where
  | git (source target : String)
  | newFile
  | deletedFile
  | source (name : String)
  | target (name : String)
  | hunk (header : HunkHeader)
  | noNewline
  | blank
  /-- A notice that two binary files differ, or that one has changed. -/
  | binary (source : String) (target : Option String)
  | gitBinary
  | text
  deriving DecidableEq, Repr

namespace Entry

/-- Every way to cut a list in two, the shortest beginning first. -/
def cuts {α : Type} : List α → List (List α × List α)
  | [] => [([], [])]
  | x :: xs => ([], x :: xs) :: (cuts xs).map fun c => (x :: c.1, c.2)

def after? : List Char → List Char → Option (List Char)
  | [], cs => some cs
  | o :: os, c :: cs => if o = c then after? os cs else none
  | _ :: _, [] => none

def inName (c : Char) : Bool := c != '\t' && c != '\n'

def isQuotedPath (side : Char) : List Char → Bool
  | '"' :: c :: '/' :: rest => c == side && !rest.isEmpty
  | c :: '/' :: rest => c == side && !rest.isEmpty
  | _ => false

/-- A scheme's `://` with at least one more character of a name behind it. -/
def hasAuthority : List Char → Bool
  | ':' :: '/' :: '/' :: c :: _ => inName c
  | _ => false

/-- Two names, each behind one of the sides `a/` and `b/`. -/
def sidedNames? (names : List Char) : Option (List Char × List Char) :=
  (cuts names).reverse.findSome? fun (first, rest) =>
    match rest with
    | ' ' :: second =>
      if isQuotedPath 'a' first && isQuotedPath 'b' second then some (first, second) else none
    | _ => none

def addressEnd? (cs : List Char) : Option (List Char) :=
  (cuts cs).reverse.findSome? fun (before, rest) =>
    if hasAuthority rest then some (before ++ [':', '/', '/'] ++ (rest.drop 3).takeWhile inName)
    else none

def addresses? (cs : List Char) : Option (List Char × List Char) :=
  (cuts cs).reverse.findSome? fun (before, rest) =>
    if hasAuthority rest then
      (cuts ((rest.drop 3).takeWhile inName)).reverse.findSome? fun (name, behind) =>
        match name, behind with
        | _ :: _, ' ' :: _ =>
          (addressEnd? (rest.drop (name.length + 4))).map fun second =>
            (before ++ [':', '/', '/'] ++ name, second)
        | _, _ => none
    else none

/-- Two names of any kind, divided by the last blank that can divide them. -/
def plainNames? (names : List Char) : Option (List Char × List Char) :=
  (cuts names).reverse.findSome? fun (first, rest) =>
    match first, rest with
    | _ :: _, ' ' :: c :: second => some (first, c :: second)
    | _, _ => none

def git? (cs : List Char) : Option Entry := do
  let rest ← after? ['d', 'i', 'f', 'f', ' ', '-', '-', 'g', 'i', 't', ' '] cs
  let rest := rest.takeWhile (· != '\n')
  let names := rest.takeWhile inName
  let (first, second) ← (sidedNames? names).or ((addresses? rest).or (plainNames? names))
  return .git (String.ofList first) (String.ofList second)

def isMode (cs : List Char) : Bool :=
  let rest := cs.dropWhile Digit.isDigit
  rest.length < cs.length && (rest == [] || rest == ['\n'])

def mode? (opening : List Char) (entry : Entry) (cs : List Char) : Option Entry := do
  let rest ← after? opening cs
  if isMode rest then some entry else none

def newFile? : List Char → Option Entry :=
  mode? ['n', 'e', 'w', ' ', 'f', 'i', 'l', 'e', ' ', 'm', 'o', 'd', 'e', ' '] .newFile

def deletedFile? : List Char → Option Entry :=
  mode? ['d', 'e', 'l', 'e', 't', 'e', 'd', ' ', 'f', 'i', 'l', 'e', ' ', 'm', 'o', 'd', 'e', ' ']
    .deletedFile

def name (cs : List Char) : String := String.ofList (cs.takeWhile inName)

def number? (cs : List Char) : Option (List Char × List Char) :=
  match cs.takeWhile Digit.isDigit with
  | [] => none
  | d :: ds => some (d :: ds, cs.dropWhile Digit.isDigit)

def range? (cs : List Char) : Option (List Char × Option (List Char) × List Char) := do
  let (start, rest) ← number? cs
  match rest with
  | ',' :: rest =>
    let (count, rest) ← number? rest
    return (start, some count, rest)
  | rest => return (start, none, rest)

def heading : List Char → Line
  | ' ' :: rest => rest.takeWhile (· != '\n')
  | rest => rest.takeWhile (· != '\n')

def hunk? : List Char → Option Entry
  | '@' :: '@' :: ' ' :: '-' :: rest => do
    match ← range? rest with
    | (oldStart, oldCount, ' ' :: '+' :: rest) =>
      match ← range? rest with
      | (newStart, newCount, ' ' :: '@' :: '@' :: rest) =>
        return .hunk ⟨oldStart, oldCount, newStart, newCount, heading rest⟩
      | _ => none
    | _ => none
  | _ => none

/-- The text of the comment on a last line without a newline, with its mark. -/
def noNewlineMark : Line :=
  ['\\', ' ', 'N', 'o', ' ', 'n', 'e', 'w', 'l', 'i', 'n', 'e', ' ', 'a', 't', ' ',
    'e', 'n', 'd', ' ', 'o', 'f', ' ', 'f', 'i', 'l', 'e']

def blanks : List (Nat × Nat) := [
  (0x9, 0xd), (0x1c, 0x20), (0x85, 0x85), (0xa0, 0xa0), (0x1680, 0x1680), (0x2000, 0x200a),
  (0x2028, 0x2029), (0x202f, 0x202f), (0x205f, 0x205f), (0x3000, 0x3000)]

def inTime (c : Char) : Bool :=
  ('0' ≤ c && c ≤ '9') || c == ':' || c == '+' || c == '-' || Span.contains blanks c.toNat

/-- What can follow a name in a notice: the text behind a time, or the text itself. -/
def afterTime (cs : List Char) : List (List Char) :=
  match cs with
  | '\t' :: rest =>
    let time := rest.takeWhile inTime
    ((cuts time).drop 1).reverse.map (fun c => rest.drop c.1.length) ++ [cs]
  | _ => [cs]

def isVerdict (cs : List Char) : Bool :=
  [' ', 'd', 'i', 'f', 'f', 'e', 'r'].isPrefixOf cs ||
    [' ', 'h', 'a', 's', ' ', 'c', 'h', 'a', 'n', 'g', 'e', 'd'].isPrefixOf cs

/-- The cuts behind the nonempty beginnings without a tab. -/
def nameCuts (cs : List Char) : List (List Char × List Char) :=
  ((cuts (cs.takeWhile (· != '\t'))).drop 1).map fun c => (c.1, cs.drop c.1.length)

def secondName? (cs : List Char) : Option (List Char) := do
  let rest ← after? [' ', 'a', 'n', 'd', ' '] cs
  (nameCuts rest).findSome? fun (name, behind) =>
    if (afterTime behind).any isVerdict then some name else none

def binary? (cs : List Char) : Option Entry := do
  let rest ← after? ['B', 'i', 'n', 'a', 'r', 'y', ' ', 'f', 'i', 'l', 'e'] cs
  let rest ← match rest with
    | 's' :: ' ' :: rest => some rest
    | ' ' :: rest => some rest
    | _ => none
  (nameCuts rest).findSome? fun (name, behind) =>
    (afterTime behind).findSome? fun tail =>
      match secondName? tail with
      | some second => some (.binary (String.ofList name) (some (String.ofList second)))
      | none => if isVerdict tail then some (.binary (String.ofList name) none) else none

def gitBinaryNotice : List Char :=
  ['G', 'I', 'T', ' ', 'b', 'i', 'n', 'a', 'r', 'y', ' ', 'p', 'a', 't', 'c', 'h', '\n']

/-- What a line outside of hunk bodies says; the line has its newline. -/
def ofLine (cs : List Char) : Entry :=
  match cs with
  | '-' :: '-' :: '-' :: ' ' :: rest => .source (name rest)
  | '+' :: '+' :: '+' :: ' ' :: rest => .target (name rest)
  | ['\n'] => .blank
  | '@' :: _ => (hunk? cs).getD .text
  | '\\' :: _ => if noNewlineMark.isPrefixOf cs then .noNewline else .text
  | 'd' :: _ => ((git? cs).or (deletedFile? cs)).getD .text
  | 'n' :: _ => (newFile? cs).getD .text
  | 'B' :: _ => (binary? cs).getD .text
  | 'G' :: _ => if cs = gitBinaryNotice then .gitBinary else .text
  | _ => .text

end Entry

end Changeset.Patch
