import Changeset.Repair.Machine
import Changeset.Script.Markup
import Changeset.Script.Semicolon
import Changeset.Text.Place

/-!
# Tokens

The next token depends on what the state can use: of the tokens that are asked
for the longest is taken, and if there is none, the longest of all. Some tokens
are decided on by the place. Characters that no token begins with are left over.
-/

namespace Changeset.Repair

open Script

def extent {α : Type} (p : Parser α) (s : List Char) : Option Nat :=
  (p s).map fun r => s.length - r.rest.length

namespace Terminal

def textExtent (quote : Char) (s : List Char) : Option Nat :=
  match (s.takeWhile fun c => c != quote && c != '\\' && c != '\n' && c != '\r').length with
  | 0 => none
  | n => some n

def dashedWord : Parser Unit := do
  let isPart (c : Char) : Bool := isLetter c || isDigit c || c == '_' || c == '$'
  let _ ← Parser.satisfy fun c => isPart c && !isDigit c
  let _ ← Parser.takeWhile isPart
  let _ ← Parser.char '-'
  let _ ← Parser.takeWhile fun c => isPart c || c == '-'
  pure ()

def tagTextExtent (quote : Char) (s : List Char) : Option Nat :=
  extent (Parser.many1 ((do
    let _ ← Parser.satisfy fun c => c != quote && c != '&'
    pure ()) <|> looseAmpersand)) s

def extent (t : Terminal) (s : List Char) : Option Nat :=
  match t with
  | finish => if s.isEmpty then some 0 else none
  | literal text => if text.toList.isPrefixOf s then some text.length else none
  | word => Repair.extent Script.word s
  | privateWord => Repair.extent Script.privateName s
  | number => Repair.extent Script.number s
  | interpreterLine =>
    if ['#', '!'].isPrefixOf s then some (s.takeWhile fun c => c != '\n').length else none
  | comment => Repair.extent Script.comment s
  | doubleText => textExtent '"' s
  | singleText => textExtent '\'' s
  | escapeText => Repair.extent Script.escape s
  | pattern => Repair.extent (Parser.many1 patternPiece) s
  | patternEnd => if ['/'].isPrefixOf s then some 1 else none
  | patternFlags =>
    match (s.takeWhile fun c => 'a' ≤ c && c ≤ 'z').length with
    | 0 => none
    | n => some n
  | optionalSign => if ['?', '.'].isPrefixOf s then some 2 else none
  | tagWord => Repair.extent dashedWord s
  | entity => Repair.extent Script.entity s
  | doubleTagText => tagTextExtent '"' s
  | singleTagText => tagTextExtent '\'' s
  | _ => none

end Terminal

structure Token where
  /-- The number of its terminal; `none` for characters that are left over. -/
  symbol : Option Nat
  /-- Where the white space before it begins. -/
  opening : Place
  start : Place
  stop : Place
  keyword : Bool

/-- The longest of the candidates, the first of several. -/
def longest (best : Option (Nat × Nat)) : List (Nat × Nat) → Option (Nat × Nat)
  | [] => best
  | c :: cs =>
    match best with
    | none => longest (some c) cs
    | some b => longest (if b.2 < c.2 then some c else some b) cs

namespace Machine

variable (m : Machine)

structure Wanted where
  terminals : Nat
  /-- All that can be looked for anywhere. -/
  any : Bool

def Wanted.wants (w : Wanted) (i : Nat) (t : Terminal) : Bool :=
  if w.any then t.isLoose else w.terminals.testBit i

def candidatesAmong (w : Wanted) (attached : Bool) (s : List Char) : List (Nat × Nat) :=
  let wordWanted := w.any || (m.net.terminals.toList.zipIdx.any fun (t, i) =>
    t.isKeyword && w.terminals.testBit i)
  m.net.terminals.toList.zipIdx.filterMap fun (t, i) =>
    if t.isAttached != attached || t.isKeyword then none
    else if w.wants i t || t == .comment || (t == .word && wordWanted) then
      (t.extent s).map fun n => (i, n)
    else none

/-- The token at a place, with the white space before it skipped if need be. -/
def match? (w : Wanted) (p : Place) : Option (Place × Nat × Nat) :=
  let attached := m.candidatesAmong w true p.ahead
  let strong := attached.filter fun (i, _) => m.net.terminalAt i != .pattern
  match longest none strong with
  | some (i, n) => some (p, i, n)
  | none =>
    let q := p.skip isBlank
    match longest none (m.candidatesAmong w false q.ahead) with
    | some (i, n) => some (q, i, n)
    | none => attached.head?.map fun (i, n) => (p, i, n)

/-- A keyword where the state can use it or reserves it; a word otherwise. -/
def ofWord (s : State) (broken : Bool) (text : List Char) : Nat × Bool :=
  let k := m.net.numberOf (.literal (String.ofList text))
  if k < m.net.terminals.size then
    if broken || s.valid.testBit k ||
        (s.reserving && m.description.reserved.contains (String.ofList text)) then (k, true)
    else (1, true)
  else (1, false)

/-! ## Tokens that the place decides on -/

/-- The inside of a template up to something special; a text without an end has none. -/
def templateExtent : List Char → Option Nat
  | [] => none
  | '$' :: '\x7b' :: _ => some 0
  | c :: cs =>
    if c == '\x60' || c == '\\' then some 0
    else if c == '\x00' then none
    else (templateExtent cs).map (· + 1)

/-- Text between tags; line breaks and the white space behind them alone are none. -/
def isMarkupText (s : List Char) : Bool :=
  (s.foldl (fun (found, newline) c =>
    if c == '\n' then (found, true)
    else
      let newline := newline && isSpace c
      (found || !newline, newline)) (false, false)).1

def markupExtent (s : List Char) : Option Nat :=
  let text := s.takeWhile fun c => !(['<', '>', '\x7b', '\x7d', '&'].contains c)
  if isMarkupText text then some text.length else none

def choiceAt (g : Grammar) (s : List Char) : Bool :=
  match s with
  | '?' :: rest =>
    match rest with
    | '?' :: _ => false
    | '.' :: d :: _ => isDigit d
    | '.' :: _ => false
    | _ =>
      let t := rest.dropWhile isSpace
      g == .javascript || !(t.head? == some ':' || t.head? == some ')' || t.head? == some ',')
  | _ => false

def wantsTerminal (s : State) (t : Terminal) : Bool := s.valid.testBit (m.net.numberOf t)

/-- The kind, the start and the length of a token that the place decides on. -/
def contextual (g : Grammar) (s : State) (p : Place) : Option (Terminal × Place × Nat) :=
  let wants := m.wantsTerminal s
  let ending := wants .statementEnd
  let choice : Option (Terminal × Place × Nat) :=
    let q := p.skip isSpace
    if choiceAt g q.ahead then some (.choiceSign, q, 1) else none
  let text : Option (Terminal × Place × Nat) :=
    if wants .markupText then (markupExtent p.ahead).map fun n => (.markupText, p, n) else none
  let mark : Option (Terminal × Place × Nat) :=
    if wants (.literal "||") || wants .escapeText || wants .pattern then none
    else
      let q := p.skip isSpace
      (extent Script.markupComment q.ahead).map fun n => (.markupComment, q, n)
  if wants .templateText then
    if ending then none
    else match templateExtent p.ahead with
      | some (n + 1) => some (.templateText, p, n + 1)
      | _ => none
  else
    match g with
    | .javascript =>
      match text with
      | some t => some t
      | none =>
        if ending then
          if canEnd g ⟨wants (.literal "||"), false⟩ p.ahead then some (.statementEnd, p, 0)
          else if wants .choiceSign then choice else none
        else if wants .choiceSign then choice
        else mark
    | _ =>
      if ending || wants .signatureEnd then
        if canEnd g ⟨wants (.literal "||"), wants .signatureEnd⟩ p.ahead then
          some (.statementEnd, p, 0)
        else if wants .choiceSign then choice else none
      else if wants .choiceSign then choice
      else match mark with
        | some t => some t
        | none => text

/-! ## The next token -/

def leftOver : Nat → Place → Place
  | 0, p => p
  | fuel + 1, p =>
    match m.match? ⟨0, true⟩ p with
    | some _ => p
    | none => leftOver fuel p.step

def token (p q : Place) (s : State) (broken : Bool) (i n : Nat) : Token :=
  let stop := q.advance n
  if i == 1 then
    let (k, keyword) := m.ofWord s broken (q.ahead.take n)
    ⟨some k, p, q, stop, keyword⟩
  else ⟨some i, p, q, stop, false⟩

/--
The token that the state `i` reads at `p`. An omitted semicolon counts only if
something has been read since the last repair.
-/
def next (g : Grammar) (i : Nat) (p : Place) (moved : Bool) : Token :=
  let s := m.stateAt i
  let broken := i == brokenState
  let decided := if broken then none else
    match m.contextual g s p with
    | some (t, q, n) => if n == 0 && !moved then none else some (t, q, n)
    | none => none
  match decided with
  | some (t, q, n) => ⟨some (m.net.numberOf t), p, q, q.advance n, false⟩
  | none =>
    let usual := if broken then none else m.match? ⟨s.valid, false⟩ p
    match usual with
    | some (q, j, n) => m.token p q s broken j n
    | none =>
      match m.match? ⟨0, true⟩ p with
      | some (q, j, n) => m.token p q s broken j n
      | none =>
        let q := p.skip isBlank
        ⟨none, p, q, m.leftOver q.ahead.length q.step, false⟩

end Machine

end Changeset.Repair
