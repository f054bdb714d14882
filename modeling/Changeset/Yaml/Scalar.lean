import Changeset.Yaml.Cursor

/-!
# Scalars as they are written

Plain, quoted and block scalars, with their line breaks folded. Each reader gives
the text of the scalar and the cursor behind it.
-/

namespace Changeset.Yaml.Scalar

abbrev Read := Except Fault (List Char × Cursor)

/-! ## Quoted scalars -/

def escapes : List (Char × Char) := [
  ('0', '\x00'), ('a', '\x07'), ('b', '\x08'), ('t', '\t'), ('\t', '\t'), ('n', '\n'),
  ('v', '\x0b'), ('f', '\x0c'), ('r', '\r'), ('e', '\x1b'), (' ', ' '), ('"', '"'),
  ('\\', '\\'), ('/', '/'), ('N', '\x85'), ('_', '\xa0'), ('L', '\u2028'), ('P', '\u2029')]

def escapeLength : Char → Option Nat
  | 'x' => some 2
  | 'u' => some 4
  | 'U' => some 8
  | _ => none

def hexValue? (c : Char) : Option Nat :=
  if '0' ≤ c && c ≤ '9' then some (c.toNat - '0'.toNat)
  else if 'a' ≤ c && c ≤ 'f' then some (c.toNat - 'a'.toNat + 10)
  else if 'A' ≤ c && c ≤ 'F' then some (c.toNat - 'A'.toNat + 10)
  else none

def hexNumber? (cs : List Char) : Option Nat :=
  cs.foldlM (fun n c => (hexValue? c).map (n * 16 + ·)) 0

/-- Breaks and the blanks around them; a divider of documents cannot be among them. -/
def foldedBreaks : Nat → Cursor → Read
  | 0, c => .ok ([], c)
  | fuel + 1, c =>
    if c.atDivider then .error .malformed
    else
      let c := c.skipWhile fun x => x == ' ' || x == '\t'
      if isBreak c.head then do
        let (b, c) := c.lineBreak
        let (bs, c) ← foldedBreaks fuel c
        .ok (b ++ bs, c)
      else .ok ([], c)

/-- One line break is a space, and more are one less. -/
def foldBreak (lineBreak breaks : List Char) : List Char :=
  if lineBreak != ['\n'] then lineBreak ++ breaks
  else if breaks.isEmpty then [' ']
  else breaks

/-- Blanks inside a quoted scalar, with the line breaks behind them. -/
def quotedBlanks (c : Cursor) : Read := do
  let (blanks, c) := c.span fun x => x == ' ' || x == '\t'
  if c.head == '\x00' then .error .malformed
  else if isBreak c.head then
    let (b, c) := c.lineBreak
    let (bs, c) ← foldedBreaks c.rest.length.succ c
    .ok (foldBreak b bs, c)
  else .ok (blanks, c)

def escaped (c : Cursor) : Read := do
  let x := c.head
  match escapes.lookup x with
  | some y => .ok ([y], c.next)
  | none =>
    match escapeLength x with
    | some n =>
      let c := c.next
      let digits := c.rest.take n
      if digits.length < n then .error .malformed
      else
        match hexNumber? digits with
        | none => .error .malformed
        | some code =>
          if 0x110000 ≤ code then .error (.invalid "chr() arg not in range(0x110000)")
          else .ok ([Char.ofNat code], c.skip n)
    | none =>
      if isBreak x then foldedBreaks c.rest.length.succ c.lineBreak.2 else .error .malformed

def quotedSpecials : List Char := ['\'', '"', '\\', '\x00', ' ', '\t']

def quotedText (double : Bool) : Nat → Cursor → Read
  | 0, c => .ok ([], c)
  | fuel + 1, c => do
    let (cs, c) := c.span fun x => !quotedSpecials.contains x && !isBreak x
    let x := c.head
    if !double && x == '\'' && c.peek 1 == '\'' then
      let (more, c) ← quotedText double fuel (c.skip 2)
      .ok (cs ++ '\'' :: more, c)
    else if (double && x == '\'') || (!double && (x == '"' || x == '\\')) then
      let (more, c) ← quotedText double fuel c.next
      .ok (cs ++ x :: more, c)
    else if double && x == '\\' then
      let (es, c) ← escaped c.next
      let (more, c) ← quotedText double fuel c
      .ok (cs ++ es ++ more, c)
    else .ok (cs, c)

def quotedParts (double : Bool) (quote : Char) : Nat → Cursor → Read
  | 0, _ => .error .malformed
  | fuel + 1, c =>
    if c.head == quote then .ok ([], c.next)
    else do
      let (blanks, c) ← quotedBlanks c
      let (cs, c) ← quotedText double c.rest.length.succ c
      let (more, c) ← quotedParts double quote fuel c
      .ok (blanks ++ cs ++ more, c)

def quoted (c : Cursor) : Read := do
  let quote := c.head
  let double := quote == '"'
  let c := c.next
  let (cs, c) ← quotedText double c.rest.length.succ c
  let (more, c) ← quotedParts double quote c.rest.length.succ c
  .ok (cs ++ more, c)

/-! ## Plain scalars -/

def endsPlain (inFlow : Bool) (x y : Char) : Bool :=
  isEndOrBlank x ||
    (x == ':' && (isEndOrBlank y || (inFlow && [',', '[', ']', '\x7b', '\x7d'].contains y))) ||
    (inFlow && [',', '?', '[', ']', '\x7b', '\x7d'].contains x)

def plainLength (inFlow : Bool) : List Char → Nat
  | [] => 0
  | x :: rest =>
    if endsPlain inFlow x (rest.headD '\x00') then 0 else plainLength inFlow rest + 1

/-- Empty lines behind the first break; `none` where a document ends. -/
def plainBreaks : Nat → Cursor → Option (List Char) × Cursor
  | 0, c => (some [], c)
  | fuel + 1, c =>
    if c.head == ' ' then plainBreaks fuel c.next
    else if isBreak c.head then
      let (b, c) := c.lineBreak
      if c.atDivider then (none, c)
      else
        let (bs, c) := plainBreaks fuel c
        (bs.map (b ++ ·), c)
    else (some [], c)

/-- What stands between two pieces of a plain scalar, and whether a line ended in it. -/
structure PlainBlanks where
  text : List Char
  broken : Bool
  cursor : Cursor

def plainBlanks (c : Cursor) : PlainBlanks :=
  let (blanks, c) := c.span (· == ' ')
  if isBreak c.head then
    let (b, c) := c.lineBreak
    if c.atDivider then ⟨[], true, c⟩
    else
      match plainBreaks c.rest.length.succ c with
      | (none, c) => ⟨[], true, c⟩
      | (some bs, c) => ⟨foldBreak b bs, true, c⟩
  else ⟨blanks, false, c⟩

/-- A plain scalar, and whether it read on over the end of a line at last. -/
structure Plain where
  text : List Char
  broken : Bool
  cursor : Cursor

/-- Pieces of a plain scalar indented by `indent` at least; `before` stands before the next one. -/
def plainParts (inFlow : Bool) (indent : Int) (before : List Char) (broken : Bool) :
    Nat → Cursor → Plain
  | 0, c => ⟨[], broken, c⟩
  | fuel + 1, c =>
    if c.head == '#' then ⟨[], broken, c⟩
    else
      let n := plainLength inFlow c.rest
      if n = 0 then ⟨[], broken, c⟩
      else
        let piece := before ++ c.rest.take n
        let b := plainBlanks (c.skip n)
        if b.text.isEmpty || b.cursor.head == '#' || (!inFlow && b.cursor.column < indent) then
          ⟨piece, b.broken, b.cursor⟩
        else
          let more := plainParts inFlow indent b.text b.broken fuel b.cursor
          ⟨piece ++ more.text, more.broken, more.cursor⟩

def plain (inFlow : Bool) (indent : Int) (c : Cursor) : Plain :=
  plainParts inFlow indent [] false c.rest.length.succ c

/-! ## Block scalars -/

/-- What the line breaks at the end of a block scalar become. -/
inductive Chomping where
  | clip
  | strip
  | keep
  deriving DecidableEq, Repr

/-- The head of a block scalar: chomping, and by how much it is indented if it says so. -/
structure Header where
  chomping : Chomping
  increment : Option Nat

def chomping? : Char → Option Chomping
  | '+' => some .keep
  | '-' => some .strip
  | _ => none

def digit? (c : Char) : Option Nat :=
  if '0' ≤ c && c ≤ '9' then some (c.toNat - '0'.toNat) else none

/-- An indentation of zero is none. -/
def increment? (c : Cursor) : Except Fault (Option Nat × Cursor) :=
  match digit? c.head with
  | some 0 => .error .malformed
  | some n => .ok (some n, c.next)
  | none => .ok (none, c)

def header (c : Cursor) : Except Fault (Header × Cursor) := do
  let (h, c) ← match chomping? c.head with
    | some k => do
      let (n, c) ← increment? c.next
      Except.ok (Header.mk k n, c)
    | none => do
      let (n, c) ← increment? c
      match n, chomping? c.head with
      | some n, some k => .ok (⟨k, some n⟩, c.next)
      | n, _ => .ok (⟨.clip, n⟩, c)
  if isEndOrSpace c.head then .ok (h, c) else .error .malformed

def restOfLine (c : Cursor) : Except Fault Cursor :=
  let c := c.skipSpaces.skipComment
  if isEndOrBreak c.head then .ok c.lineBreak.2 else .error .malformed

def skipIndent (indent : Nat) : Nat → Cursor → Cursor
  | 0, c => c
  | fuel + 1, c =>
    if c.column < indent && c.head == ' ' then skipIndent indent fuel c.next else c

def blockBreaks (indent : Nat) : Nat → Cursor → List Char × Cursor
  | 0, c => ([], c)
  | fuel + 1, c =>
    let c := skipIndent indent c.rest.length c
    if isBreak c.head then
      let (b, c) := c.lineBreak
      let (bs, c) := blockBreaks indent fuel c
      (b ++ bs, c)
    else ([], c)

/-- Empty lines at the start, and the deepest indentation among them. -/
def blockStart (deepest : Nat) : Nat → Cursor → List Char × Nat × Cursor
  | 0, c => ([], deepest, c)
  | fuel + 1, c =>
    if c.head == ' ' then
      let c := c.next
      blockStart (max deepest c.column) fuel c
    else if isBreak c.head then
      let (b, c) := c.lineBreak
      let (bs, d, c) := blockStart deepest fuel c
      (b ++ bs, d, c)
    else ([], deepest, c)

/-- The lines of a block scalar, then the last line break and the empty lines behind it. -/
structure Block where
  text : List Char
  lineBreak : List Char
  breaks : List Char
  cursor : Cursor

def blockLines (folded : Bool) (indent : Nat) (breaks : List Char) : Nat → Cursor → Block
  | 0, c => ⟨[], [], breaks, c⟩
  | fuel + 1, c =>
    if c.column = indent && !c.atEnd then
      let deeper := c.head == ' ' || c.head == '\t'
      let (l, c) := c.span fun x => !isEndOrBreak x
      let (b, c) := c.lineBreak
      let (bs, c) := blockBreaks indent c.rest.length.succ c
      if c.column = indent && !c.atEnd then
        let joint :=
          if folded && b == ['\n'] && !deeper && !(c.head == ' ' || c.head == '\t') then
            if bs.isEmpty then [' '] else []
          else b
        let more := blockLines folded indent bs fuel c
        ⟨breaks ++ l ++ joint ++ more.text, more.lineBreak, more.breaks, more.cursor⟩
      else ⟨breaks ++ l, b, bs, c⟩
    else ⟨[], [], breaks, c⟩

def block (indent : Int) (c : Cursor) : Read := do
  let folded := c.head == '>'
  let (h, c) ← header c.next
  let c ← restOfLine c
  let least := max (indent + 1).toNat 1
  let (breaks, column, c) :=
    match h.increment with
    | none =>
      let (bs, deepest, c) := blockStart 0 c.rest.length.succ c
      (bs, max least deepest, c)
    | some n =>
      let column := least + n - 1
      let (bs, c) := blockBreaks column c.rest.length.succ c
      (bs, column, c)
  let b := blockLines folded column breaks c.rest.length.succ c
  let tail := match h.chomping with
    | .strip => []
    | .clip => b.lineBreak
    | .keep => b.lineBreak ++ b.breaks
  .ok (b.text ++ tail, b.cursor)

end Changeset.Yaml.Scalar
