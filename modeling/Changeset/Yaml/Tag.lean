import Changeset.Value

/-!
# Tags of scalars

A plain scalar has the type that its text looks like: a truth value, a number, a
date, null, or else a text. The forms are those of YAML 1.1.
-/

namespace Changeset.Yaml

inductive Tag where
  | null | bool | int | float | binary | timestamp | orderedMap | pairs | set | text | sequence
  | mapping
  /-- The key that merges other mappings into its own. -/
  | merge
  /-- The key of a mapping's default value. -/
  | default
  | unknown
  deriving DecidableEq, Repr

namespace Tag

def standard : String := "tag:yaml.org,2002:"

def standardNames : List (String × Tag) := [
  ("null", null), ("bool", bool), ("int", int), ("float", float), ("binary", binary),
  ("timestamp", timestamp), ("omap", orderedMap), ("pairs", pairs), ("set", set), ("str", text),
  ("seq", sequence), ("map", mapping), ("merge", merge), ("value", default)]

def ofName (name : List Char) : Tag :=
  let known := standardNames.map fun e => ((standard ++ e.1).toList, e.2)
  (known.lookup name).getD unknown

end Tag

/-! ## Reading with patterns -/

/-- Reads a beginning of a text if it has the form, and gives what is behind it. -/
abbrev Form := List Char → Option (List Char)

namespace Form

def isDigit (c : Char) : Bool := '0' ≤ c && c ≤ '9'

def one (f : Char → Bool) : Form
  | c :: cs => if f c then some cs else none
  | [] => none

def many (f : Char → Bool) : Form := fun cs => some (cs.dropWhile f)

def opt (p : Form) : Form := fun cs => (p cs).getD cs

def seq (ps : List Form) : Form := fun cs => ps.foldlM (fun cs p => p cs) cs

def word (w : List Char) : Form := fun cs => if w.isPrefixOf cs then some (cs.drop w.length) else none

def either (ps : List Form) : Form := fun cs => ps.findSome? fun p => p cs

def repeated (p : Form) : Nat → Form
  | 0, cs => some cs
  | n + 1, cs =>
    match p cs with
    | none => some cs
    | some rest => repeated p n rest

def sign : Form := opt (one fun c => c == '-' || c == '+')

def orUnderscore (f : Char → Bool) (c : Char) : Bool := f c || c == '_'

/-- Two digits up to 59, the first of which can be missing, behind a colon. -/
def sixtieth : Form := seq [one (· == ':'), fun cs =>
  match cs with
  | a :: b :: rest =>
    if '0' ≤ a && a ≤ '5' && isDigit b then some rest
    else if isDigit a then some (b :: rest)
    else none
  | [a] => if isDigit a then some [] else none
  | [] => none]

def sixtieths : Form := fun cs => seq [sixtieth, repeated sixtieth cs.length] cs

def matchesAll (p : Form) (cs : List Char) : Bool := p cs == some []

/-- A form ends at the end of a text, or in front of a newline there. -/
def withoutNewline (cs : List Char) : List Char :=
  if cs.getLast? == some '\n' then cs.dropLast else cs

end Form

namespace Tag

open Form

/-! ## Numbers -/

def isNonzero (c : Char) : Bool := '1' ≤ c && c ≤ '9'

def isOctal (c : Char) : Bool := '0' ≤ c && c ≤ '7'

def isHex (c : Char) : Bool := isDigit c || ('a' ≤ c && c ≤ 'f') || ('A' ≤ c && c ≤ 'F')

def some1 (f : Char → Bool) : Form := seq [one f, many f]

def looksInt (cs : List Char) : Bool :=
  [seq [word ['0', 'b'], some1 (orUnderscore fun c => c == '0' || c == '1')],
    seq [one (· == '0'), some1 (orUnderscore isOctal)],
    one (· == '0'),
    seq [one isNonzero, many (orUnderscore isDigit)],
    seq [word ['0', 'x'], some1 (orUnderscore isHex)],
    seq [one isNonzero, many (orUnderscore isDigit), sixtieths]].any fun p =>
      matchesAll (seq [sign, p]) cs

def power : Form := opt (seq [
  one (fun c => c == 'e' || c == 'E'), one (fun c => c == '-' || c == '+'), some1 isDigit])

def looksFloat (cs : List Char) : Bool :=
  let whole := seq [one isDigit, many (orUnderscore isDigit)]
  [seq [sign, whole, one (· == '.'), many (orUnderscore isDigit), power],
    seq [one (· == '.'), whole, power],
    seq [sign, whole, sixtieths, one (· == '.'), many (orUnderscore isDigit)],
    seq [sign, either [word ".inf".toList, word ".Inf".toList, word ".INF".toList]],
    either [word ".nan".toList, word ".NaN".toList, word ".NAN".toList]].any fun p => matchesAll p cs

/-! ## Dates -/

/-- A date, and the time of day behind it as far as it is given. -/
structure Stamp where
  year : List Char
  month : List Char
  day : List Char
  time : Option (List Char × List Char × List Char)
  fraction : List Char
  /-- The sign, hours and minutes of the zone; nothing for universal time. -/
  zone : Option (Option (Char × List Char × List Char))
  deriving DecidableEq, Repr

def digitsUpTo (n : Nat) (cs : List Char) : List Char × List Char :=
  let ds := (cs.take n).takeWhile isDigit
  (ds, cs.drop ds.length)

def isBlank (c : Char) : Bool := c == ' ' || c == '\t'

def zone? (cs : List Char) : Option (Option (Option (Char × List Char × List Char))) :=
  match cs with
  | [] => some none
  | _ =>
    match cs.dropWhile isBlank with
    | ['Z'] => some (some none)
    | s :: rest =>
      if s == '-' || s == '+' then
        match digitsUpTo 2 rest with
        | ([], _) => none
        | (h, []) => some (some (some (s, h, [])))
        | (h, ':' :: rest) =>
          match digitsUpTo 2 rest with
          | ([a, b], []) => some (some (some (s, h, [a, b])))
          | _ => none
        | _ => none
      else none
    | [] => none

def clock? (cs : List Char) : Option ((List Char × List Char × List Char) × List Char) :=
  match digitsUpTo 2 cs with
  | ([], _) => none
  | (h, ':' :: rest) =>
    match digitsUpTo 2 rest with
    | ([a, b], ':' :: rest) =>
      match digitsUpTo 2 rest with
      | ([c, d], rest) => some ((h, [a, b], [c, d]), rest)
      | _ => none
    | _ => none
  | _ => none

def timeMark? (cs : List Char) : Option (List Char) :=
  match cs with
  | 'T' :: rest | 't' :: rest => some rest
  | c :: _ => if isBlank c then some (cs.dropWhile isBlank) else none
  | [] => none

def time? (year month day cs : List Char) : Option Stamp := do
  let (clock, rest) ← clock? (← timeMark? cs)
  let (fraction, rest) := match rest with
    | '.' :: rest => (rest.takeWhile isDigit, rest.dropWhile isDigit)
    | _ => ([], rest)
  let zone ← zone? rest
  return ⟨year, month, day, some clock, fraction, zone⟩

def stamp? (cs : List Char) : Option Stamp :=
  match digitsUpTo 4 cs with
  | ([a, b, c, d], '-' :: rest) =>
    match digitsUpTo 2 rest with
    | ([], _) => none
    | (month, '-' :: rest) =>
      match digitsUpTo 2 rest with
      | ([], _) => none
      | (day, []) => some ⟨[a, b, c, d], month, day, none, [], none⟩
      | (day, rest) => time? [a, b, c, d] month day rest
    | _ => none
  | _ => none

/-- A date alone has two digits for month and day. -/
def looksTimestamp (cs : List Char) : Bool :=
  match stamp? cs with
  | none => false
  | some s => s.time.isSome || (s.month.length == 2 && s.day.length == 2)

/-! ## Words -/

def truths : List (String × Bool) := [
  ("yes", true), ("no", false), ("true", true), ("false", false), ("on", true), ("off", false)]

/-- A word in small letters, in capitals, or with one capital in front. -/
def spellings (w : String) : List (List Char) :=
  let cs := w.toList
  [cs, cs.map Char.toUpper, match cs with
    | [] => []
    | c :: rest => c.toUpper :: rest]

def looksBool (cs : List Char) : Bool := truths.any fun e => (spellings e.1).contains cs

def looksNull (cs : List Char) : Bool :=
  cs.isEmpty || cs == ['~'] || (spellings "null").contains cs

/-- The type that a line looks like. Marks of tags, anchors and aliases are of none. -/
def ofLine (cs : List Char) : Tag :=
  if looksBool cs then bool
  else if looksFloat cs then float
  else if looksInt cs then int
  else if cs == ['<', '<'] then merge
  else if looksNull cs then null
  else if looksTimestamp cs then timestamp
  else if cs == ['='] then default
  else if [['!'], ['&'], ['*']].contains cs then unknown
  else text

/-- The type that the text of a plain scalar looks like; a newline alone looks like none. -/
def ofPlain (cs : List Char) : Tag := if cs == ['\n'] then text else ofLine (withoutNewline cs)

end Tag

end Changeset.Yaml
