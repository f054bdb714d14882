import Changeset.Script.Lexeme

/-!
# Where statements end

A statement ends at a semicolon, or where one can be left out: at the end of
the text, before a closing brace, and at a line break unless the next line must
go on with the statement. Whether it must depends on its first character, on
whether an operator could stand here, and on the language.

Comments between the statement and the break belong to the statement, except
where the break is recognised across them.
-/

namespace Changeset.Script

open Changeset.Script.Parser

/-- What can stand where a statement may end. -/
structure Ending where
  /-- An operator such as `||`, because an expression is complete. -/
  operator : Bool
  /-- The body of a function whose head is complete. -/
  body : Bool
  deriving DecidableEq, Repr

namespace Ending

def ofExpression : Ending := ⟨true, false⟩

def plain : Ending := ⟨false, false⟩

def ofSignature : Ending := ⟨false, true⟩

end Ending

def isWordLetter (c : Char) : Bool := isLetter c || 0x80 ≤ c.toNat

/-- Whether a word begins a line that does not go on with an operator spelled as a word. -/
def startsStatement (s : List Char) : Bool :=
  match s with
  | 'i' :: 'n' :: c :: rest =>
    if !isWordLetter c then false
    else
      let tail := ['s', 't', 'a', 'n', 'c', 'e', 'o', 'f']
      if tail.isPrefixOf (c :: rest) then
        match rest.drop 7 with
        | [] => false
        | d :: _ => isWordLetter d
      else true
  | ['i', 'n'] => false
  | _ => true

def afterLine (isEnd : Char → Bool) (s : List Char) : List Char := s.dropWhile fun c => !isEnd c

def afterBlock : List Char → List Char × Bool
  | [] => ([], false)
  | '*' :: '/' :: rest => (rest, false)
  | c :: rest =>
    let (s, broken) := afterBlock rest
    (s, broken || isLineEnd c)

theorem length_afterBlock (s : List Char) : (afterBlock s).1.length ≤ s.length := by
  fun_induction afterBlock s <;> simp_all <;> omega

theorem length_dropWhile_le (f : Char → Bool) (s : List Char) :
    (s.dropWhile f).length ≤ s.length :=
  (dropWhile_suffix f s).length_le

theorem length_afterLine (isEnd : Char → Bool) (s : List Char) :
    (afterLine isEnd s).length ≤ s.length :=
  length_dropWhile_le _ s

theorem length_lt_of_dropWhile {f : Char → Bool} {s t : List Char} {a b : Char}
    (h : s.dropWhile f = a :: b :: t) : t.length + 1 < s.length := by
  have := length_dropWhile_le f s
  simp only [h, List.length_cons] at this
  omega

/-- The first character that is neither white space nor comment; `none` before a lone slash. -/
def skipToToken (isEnd : Char → Bool) (s : List Char) : Option (List Char) :=
  match _h : s.dropWhile isSpace with
  | '/' :: '/' :: rest => skipToToken isEnd (afterLine isEnd rest)
  | '/' :: '*' :: rest => skipToToken isEnd (afterBlock rest).1
  | '/' :: _ => none
  | t => some t
termination_by s.length
decreasing_by
  · have := length_lt_of_dropWhile _h
    have := length_afterLine isEnd rest
    omega
  · have := length_lt_of_dropWhile _h
    have := length_afterBlock rest
    omega

namespace Ecma

inductive CommentEnd where
  | none
  | sameLine (rest : List Char)
  | token (rest : List Char)

def skipComment (s : List Char) : CommentEnd :=
  match s with
  | '/' :: '*' :: rest =>
    match afterBlock rest with
    | ('/' :: more, _) =>
      match skipToToken isLineEnd ('/' :: more) with
      | some t => .token t
      | Option.none => .none
    | (more, broken) => if broken then .token more else .sameLine more
  | _ =>
    match skipToToken isLineEnd s with
    | some t => .token t
    | Option.none => .none

def breaksBefore (s : List Char) : Bool :=
  match s with
  | [] => true
  | c :: rest =>
    if ['\x60', ',', ':', ';', '*', '%', '>', '<', '=', '[', '(', '?', '^', '|', '&', '/'].contains c
    then false
    else if c == '.' then (rest.head?.map isDigit).getD false
    else if c == '+' || c == '-' then rest.head? == some c
    else if c == '!' then rest.head? != some '='
    else startsStatement s

def afterBreak (s : List Char) : Bool :=
  match skipToToken isLineEnd s with
  | some t => breaksBefore t
  | none => false

/-- Whether a semicolon can be left out here; `fuel` bounds the characters looked at. -/
def canEnd (e : Ending) : Nat → List Char → Bool
  | 0, _ => false
  | _ + 1, [] => true
  | fuel + 1, c :: rest =>
    if c == '/' then
      match skipComment (c :: rest) with
      | .none => false
      | .token t =>
        if !e.operator && t.head? != some ',' && t.head? != some '=' then true
        else match t with
          | [] => false
          | d :: more =>
            if d == '\x7d' then true
            else if isLineEnd d then afterBreak more
            else if isSpace d then canEnd e fuel more
            else false
      | .sameLine t =>
        match t with
        | [] => false
        | d :: more =>
          if d == '\x7d' then true
          else if isLineEnd d then afterBreak more
          else if isSpace d then canEnd e fuel more
          else false
    else if c == '\x7d' then true
    else if isLineEnd c then afterBreak rest
    else if isSpace c then canEnd e fuel rest
    else false

end Ecma

namespace Typed

def breaksBefore (e : Ending) (s : List Char) : Bool :=
  match s with
  | [] => true
  | c :: rest =>
    if ['\x60', ',', '.', ';', '*', '%', '>', '<', '=', '?', '^', '|', '&', '/', ':'].contains c
    then false
    else if c == '\x7b' then !e.body
    else if c == '(' || c == '[' then !e.operator
    else if c == '+' || c == '-' then rest.head? == some c
    else if c == '!' then rest.head? != some '='
    else startsStatement s

def canEnd (e : Ending) : List Char → Bool
  | [] => true
  | c :: rest =>
    if c == '\x7d' then
      if (rest.dropWhile isSpace).head? == some ':' then e.operator else true
    else if c == '\n' then
      match skipToToken (· == '\n') rest with
      | some t => breaksBefore e t
      | none => false
    else if isSpace c then canEnd e rest
    else false

end Typed

def canEnd (g : Grammar) (e : Ending) (s : List Char) : Bool :=
  match g with
  | .javascript => Ecma.canEnd e (s.length + 1) s
  | .typescript | .tsx => Typed.canEnd e s

def spacedComment : Parser Unit := do
  blanks
  comment

def semicolon (g : Grammar) (e : Ending) : Parser Unit := do
  let ended ← loop (fun (ended : Bool) => do
    let s ← ahead
    if ended || canEnd g e s then pure none
    else (do
      blanks
      let _ ← char ';'
      pure (some true)) <|> (do
      spacedComment
      pure (some false))) false
  let s ← ahead
  check (ended || canEnd g e s)

/-- The end of a statement that needs none: reads up to a place where one can be left out. -/
def impliedEnd (g : Grammar) (e : Ending) : Parser Unit :=
  (do
    let _ ← loop (fun (_ : Unit) => do
      let s ← ahead
      if canEnd g e s then pure none
      else do
        spacedComment
        pure (some ())) ()
    let s ← ahead
    check (canEnd g e s)) <|> pure ()

/--
Goes on to the next token unless the statement ends before it. Where it cannot
end, nothing is asked.
-/
def continued (g : Grammar) (ending : Option Ending) : Parser Unit :=
  match ending with
  | none => trivia
  | some e => do
    let _ ← loop (fun (_ : Unit) => do
      let s ← ahead
      if canEnd g e s then pure none
      else do
        spacedComment
        pure (some ())) ()
    let s ← ahead
    check (!canEnd g e s)
    blanks

end Changeset.Script
