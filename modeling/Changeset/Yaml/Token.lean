import Changeset.Yaml.Scalar
import Changeset.Text.Utf8

/-!
# Tokens

The pieces of a text: indicators, scalars, and the blocks that its indentation
begins and ends. A scalar or collection turns out to be a key only when a colon
follows it, so the place of each possible key is remembered, and its tokens are
put there afterwards.
-/

namespace Changeset.Yaml

inductive Token where
  | version (major minor : List Char)
  | tagHandle (handle lead : List Char)
  | otherDirective
  | documentStart
  | documentEnd
  | blockSequence
  | blockMapping
  | blockEnd
  | openSequence
  | closeSequence
  | openMapping
  | closeMapping
  | entry
  | separator
  | key
  | value
  | alias (name : List Char)
  | anchor (name : List Char)
  | tag (handle : Option (List Char)) (suffix : List Char)
  | scalar (text : List Char) (plain : Bool)
  deriving DecidableEq, Repr

namespace Token

/-! ## Names, tags and directives -/

def isNameChar (c : Char) : Bool :=
  ('0' ≤ c && c ≤ '9') || ('A' ≤ c && c ≤ 'Z') || ('a' ≤ c && c ≤ 'z') || c == '-' || c == '_'

def nameEnds : List Char := ['?', ':', ',', ']', '\x7d', '%', '@', '\x60']

def name (c : Cursor) : Scalar.Read := do
  let (cs, c) := c.next.span isNameChar
  if cs.isEmpty then .error .malformed
  else if isEndOrBlank c.head || nameEnds.contains c.head then .ok (cs, c)
  else .error .malformed

def uriChars : List Char := [
  '-', ';', '/', '?', ':', '@', '&', '=', '+', '$', ',', '_', '.', '!', '~', '*', '\'', '(', ')',
  '[', ']', '%']

def isUriChar (c : Char) : Bool := isNameChar c || uriChars.contains c

def uriBytes : Nat → Cursor → Except Fault (List UInt8 × Cursor)
  | 0, c => .ok ([], c)
  | fuel + 1, c =>
    if c.head == '%' then do
      match (c.next.rest.take 2), Scalar.hexNumber? (c.next.rest.take 2) with
      | [_, _], some n => do
        let (bs, c) ← uriBytes fuel (c.skip 3)
        .ok (n.toUInt8 :: bs, c)
      | _, _ => .error .malformed
    else .ok ([], c)

def uriParts : Nat → Cursor → Scalar.Read
  | 0, c => .ok ([], c)
  | fuel + 1, c =>
    if c.head == '%' then do
      let (bs, c) ← uriBytes c.rest.length c
      match Utf8.decode bs with
      | .error _ => .error .malformed
      | .ok cs => do
        let (more, c) ← uriParts fuel c
        .ok (cs ++ more, c)
    else
      let (cs, c) := c.span fun x => isUriChar x && x != '%'
      if cs.isEmpty then .ok ([], c)
      else do
        let (more, c) ← uriParts fuel c
        .ok (cs ++ more, c)

def uri (c : Cursor) : Scalar.Read := do
  let before := c.rest.length
  let (cs, c) ← uriParts c.rest.length.succ c
  if c.rest.length = before then .error .malformed else .ok (cs, c)

/-- A handle: an exclamation mark, alone or around a name. -/
def handle (c : Cursor) : Scalar.Read := do
  if c.head != '!' then .error .malformed
  else
    let after := c.next
    if after.head == ' ' then .ok (['!'], after)
    else
      let (cs, after) := after.span isNameChar
      if after.head == '!' then .ok ('!' :: cs ++ ['!'], after.next) else .error .malformed

/-- Whether another exclamation mark stands in the word behind the first. -/
def hasHandle (c : Cursor) : Bool :=
  (c.next.rest.takeWhile fun x => !isEndOrSpace x).contains '!'

def tagAt (c : Cursor) : Except Fault (Token × Cursor) := do
  let x := c.peek 1
  let (t, c) ←
    if x == '<' then do
      let (suffix, c) ← uri (c.skip 2)
      if c.head == '>' then Except.ok (tag none suffix, c.next) else .error .malformed
    else if isEndOrBlank x then .ok (tag none ['!'], c.next)
    else do
      let (h, c) ← if hasHandle c then handle c else .ok (['!'], c.next)
      let (suffix, c) ← uri c
      .ok (tag (some h) suffix, c)
  if isEndOrSpace c.head then .ok (t, c) else .error .malformed

def digits (c : Cursor) : Scalar.Read :=
  let (cs, c) := c.span fun x => '0' ≤ x && x ≤ '9'
  if cs.isEmpty then .error .malformed else .ok (cs, c)

def versionAt (c : Cursor) : Except Fault (Token × Cursor) := do
  let (major, c) ← digits c.skipSpaces
  if c.head != '.' then .error .malformed
  else do
    let (minor, c) ← digits c.next
    if isEndOrSpace c.head then .ok (version major minor, c) else .error .malformed

def tagHandleAt (c : Cursor) : Except Fault (Token × Cursor) := do
  let (h, c) ← handle c.skipSpaces
  if c.head != ' ' then .error .malformed
  else do
    let (lead, c) ← uri c.skipSpaces
    if isEndOrSpace c.head then .ok (tagHandle h lead, c) else .error .malformed

def directive (c : Cursor) : Except Fault (Token × Cursor) := do
  let (cs, c) := c.next.span isNameChar
  if cs.isEmpty || !isEndOrSpace c.head then .error .malformed
  else do
    let (t, c) ←
      if cs == ['Y', 'A', 'M', 'L'] then versionAt c
      else if cs == ['T', 'A', 'G'] then tagHandleAt c
      else .ok (otherDirective, c.skipWhile fun x => !isEndOrBreak x)
    let c ← Scalar.restOfLine c
    .ok (t, c)

end Token

/-! ## Layout -/

/-- A place where a key can have begun: the number of tokens before it. -/
structure Possible where
  place : Nat
  required : Bool
  index : Nat
  line : Nat
  column : Nat

structure Layout where
  cursor : Cursor
  /-- The tokens so far, the last one first. -/
  tokens : List Token
  /-- The column of the innermost block; -1 outside of all. -/
  indent : Int
  outer : List Int
  flow : Nat
  keyAllowed : Bool
  /-- The possible key on each level of brackets. -/
  possible : List (Nat × Possible)

namespace Layout

def start (text : List Char) : Layout := ⟨Cursor.start text, [], -1, [], 0, true, []⟩

abbrev Step := Except Fault Layout

def push (l : Layout) (t : Token) : Layout := { l with tokens := t :: l.tokens }

def insertAt (l : Layout) (place : Nat) (t : Token) : Layout :=
  let n := l.tokens.length - place
  { l with tokens := l.tokens.take n ++ t :: l.tokens.drop n }

def unwindFrom (column : Int) : List Int → Layout → Layout
  | [], l => l
  | o :: os, l =>
    if column < l.indent then
      unwindFrom column os { l.push .blockEnd with indent := o, outer := os }
    else l

def unwind (l : Layout) (column : Int) : Layout :=
  if l.flow = 0 then unwindFrom column l.outer l else l

def deepen (l : Layout) (column : Nat) : Option Layout :=
  if l.indent < column then some { l with indent := column, outer := l.indent :: l.outer }
  else none

/-- Forgets the possible key of this level; one that must be a key is an error. -/
def dropPossible (l : Layout) : Step :=
  match l.possible.lookup l.flow with
  | none => .ok l
  | some k =>
    if k.required then .error .malformed
    else .ok { l with possible := l.possible.filter (·.1 != l.flow) }

/-- A key lies in one line and is not too long. -/
def isStale (c : Cursor) (k : Possible) : Bool := k.line != c.line || 1024 < c.index - k.index

def dropStale (l : Layout) : Step :=
  if l.possible.any fun e => isStale l.cursor e.2 && e.2.required then .error .malformed
  else .ok { l with possible := l.possible.filter fun e => !isStale l.cursor e.2 }

def savePossible (l : Layout) : Step :=
  if l.keyAllowed then do
    let required := l.flow = 0 && l.indent = l.cursor.column
    let l ← l.dropPossible
    let c := l.cursor
    .ok { l with
      possible := (l.flow, ⟨l.tokens.length, required, c.index, c.line, c.column⟩) :: l.possible }
  else .ok l

/-- Goes on to the next token; in blocks a new line allows keys again. -/
def toToken : Nat → Layout → Layout
  | 0, l => l
  | fuel + 1, l =>
    let c := l.cursor.skipSpaces.skipComment
    let (b, c) := c.lineBreak
    if b.isEmpty then { l with cursor := c }
    else toToken fuel { l with cursor := c, keyAllowed := l.keyAllowed || l.flow = 0 }

def skipMark (l : Layout) : Layout :=
  if l.cursor.index = 0 && l.cursor.head == '\ufeff' then { l with cursor := l.cursor.next } else l

/-! ### Steps -/

def finishBlocks (l : Layout) : Step := do
  let l ← (l.unwind (-1)).dropPossible
  .ok { l with keyAllowed := false }

def directiveStep (l : Layout) : Step := do
  let l ← l.finishBlocks
  let (t, c) ← Token.directive l.cursor
  .ok { l.push t with cursor := c }

def dividerStep (l : Layout) (t : Token) : Step := do
  let l ← l.finishBlocks
  .ok { l.push t with cursor := l.cursor.skip 3 }

def single (l : Layout) (t : Token) : Layout := { l.push t with cursor := l.cursor.next }

def openStep (l : Layout) (t : Token) : Step := do
  let l ← l.savePossible
  .ok { l.single t with flow := l.flow + 1, keyAllowed := true }

/-- A bracket that closes none is an error. -/
def closeStep (l : Layout) (t : Token) : Step := do
  let l ← l.dropPossible
  if l.flow = 0 then .error .malformed
  else .ok { l.single t with flow := l.flow - 1, keyAllowed := false }

def separatorStep (l : Layout) : Step := do
  let l ← { l with keyAllowed := true }.dropPossible
  .ok (l.single .separator)

/-- Begins a block of the kind `t` here if one is needed and allowed. -/
def beginBlock (l : Layout) (t : Token) : Step :=
  if l.flow = 0 then
    if l.keyAllowed then
      match l.deepen l.cursor.column with
      | some l => .ok (l.push t)
      | none => .ok l
    else .error .malformed
  else .ok l

def entryStep (l : Layout) : Step := do
  let l ← l.beginBlock .blockSequence
  let l ← { l with keyAllowed := true }.dropPossible
  .ok (l.single .entry)

def keyStep (l : Layout) : Step := do
  let l ← l.beginBlock .blockMapping
  let l ← { l with keyAllowed := l.flow = 0 }.dropPossible
  .ok (l.single .key)

def makeKey (l : Layout) (k : Possible) : Layout :=
  let l := { l.insertAt k.place .key with possible := l.possible.filter (·.1 != l.flow) }
  let l := if l.flow = 0 then
      match l.deepen k.column with
      | some l => l.insertAt k.place .blockMapping
      | none => l
    else l
  { l with keyAllowed := false }

def valueStep (l : Layout) : Step := do
  match l.possible.lookup l.flow with
  | some k => .ok ((l.makeKey k).single .value)
  | none => do
    let l ← l.beginBlock .blockMapping
    let l ← { l with keyAllowed := l.flow = 0 }.dropPossible
    .ok (l.single .value)

def keyableStep (l : Layout) (read : Cursor → Except Fault (Token × Cursor)) : Step := do
  let l ← l.savePossible
  let (t, c) ← read l.cursor
  .ok { l.push t with cursor := c, keyAllowed := false }

def named (make : List Char → Token) (c : Cursor) : Except Fault (Token × Cursor) := do
  let (cs, c) ← Token.name c
  .ok (make cs, c)

def quotedToken (c : Cursor) : Except Fault (Token × Cursor) := do
  let (cs, c) ← Scalar.quoted c
  .ok (.scalar cs false, c)

def blockStep (l : Layout) : Step := do
  let l ← { l with keyAllowed := true }.dropPossible
  let (cs, c) ← Scalar.block l.indent l.cursor
  .ok { l.push (.scalar cs false) with cursor := c }

def plainStep (l : Layout) : Step := do
  let l ← l.savePossible
  let p := Scalar.plain (l.flow != 0) (l.indent + 1) l.cursor
  .ok { l.push (.scalar p.text true) with cursor := p.cursor, keyAllowed := p.broken }

/-- Characters that begin no plain scalar by themselves. -/
def indicators : List Char := [
  '-', '?', ':', ',', '[', ']', '\x7b', '\x7d', '#', '&', '*', '!', '|', '>', '\'', '"', '%', '@',
  '\x60']

def beginsPlain (l : Layout) : Bool :=
  let x := l.cursor.head
  (!isEndOrBlank x && !indicators.contains x) ||
    (!isEndOrBlank (l.cursor.peek 1) && (x == '-' || (l.flow = 0 && (x == '?' || x == ':'))))

def tokenStep (l : Layout) : Step :=
  let x := l.cursor.head
  let spaced := isEndOrBlank (l.cursor.peek 1)
  let divided := l.cursor.column = 0 && l.cursor.atDivider
  if x == '%' && l.cursor.column = 0 then l.directiveStep
  else if x == '-' && divided then l.dividerStep .documentStart
  else if x == '.' && divided then l.dividerStep .documentEnd
  else if x == '[' then l.openStep .openSequence
  else if x == '\x7b' then l.openStep .openMapping
  else if x == ']' then l.closeStep .closeSequence
  else if x == '\x7d' then l.closeStep .closeMapping
  else if x == ',' then l.separatorStep
  else if x == '-' && spaced then l.entryStep
  else if x == '?' && (l.flow != 0 || spaced) then l.keyStep
  else if x == ':' && (l.flow != 0 || spaced) then l.valueStep
  else if x == '*' then l.keyableStep (named .alias)
  else if x == '&' then l.keyableStep (named .anchor)
  else if x == '!' then l.keyableStep Token.tagAt
  else if (x == '|' || x == '>') && l.flow = 0 then l.blockStep
  else if x == '\'' || x == '"' then l.keyableStep quotedToken
  else if l.beginsPlain then l.plainStep
  else .error .malformed

/-- All tokens; each step reads a character at least. -/
def run : Nat → Layout → Except Fault (List Token)
  | 0, _ => .error .malformed
  | fuel + 1, l => do
    let l ← (toToken l.cursor.rest.length.succ l.skipMark).dropStale
    let l := l.unwind l.cursor.column
    if l.cursor.atEnd then do
      let l ← l.finishBlocks
      .ok l.tokens.reverse
    else do
      let l ← l.tokenStep
      run fuel l

end Layout

def Token.ofText (text : List Char) : Except Fault (List Token) :=
  (Layout.start text).run (text.length + 1)

end Changeset.Yaml
