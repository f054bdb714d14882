import Changeset.Language
import Changeset.Script.Parser
import Changeset.Text.Span

/-!
# Lexemes

The smallest pieces of a source: white space and comments, words, numbers, and
the parts of texts and regular expressions. A piece is as long as it can be.
-/

namespace Changeset.Script

open Changeset.Script.Parser

/-- White space between tokens, in any script, with marks that have no width. -/
def blankSpans : List (Nat × Nat) := [
  (0x9, 0xd), (0x20, 0x20), (0x85, 0x85), (0xa0, 0xa0), (0x1680, 0x1680), (0x2000, 0x200b),
  (0x2028, 0x2029), (0x202f, 0x202f), (0x205f, 0x2060), (0x3000, 0x3000), (0xfeff, 0xfeff)]

def isBlank (c : Char) : Bool :=
  if c.toNat < 0x80 then c == ' ' || (9 ≤ c.toNat && c.toNat ≤ 13)
  else Span.contains blankSpans c.toNat

/-- White space where a statement may end; blanks that do not break a line are not among it. -/
def spaceSpans : List (Nat × Nat) := [
  (0x9, 0xd), (0x20, 0x20), (0x1680, 0x1680), (0x2000, 0x2006), (0x2008, 0x200a),
  (0x2028, 0x2029), (0x205f, 0x205f), (0x3000, 0x3000)]

def isSpace (c : Char) : Bool :=
  if c.toNat < 0x80 then c == ' ' || (9 ≤ c.toNat && c.toNat ≤ 13)
  else Span.contains spaceSpans c.toNat

def isLineEnd (c : Char) : Bool := c == '\n' || c == '\u2028' || c == '\u2029'

def isPunctuation (c : Char) : Bool :=
  [':', ';', '\x60', '"', '\'', '@', '#', '.', ',', '|', '^', '&', '<', '=', '>', '+', '-', '*',
    '/', '\\', '%', '?', '!', '~', '(', ')', '[', ']', '\x7b', '\x7d'].contains c

def isDigit (c : Char) : Bool := '0' ≤ c && c ≤ '9'

def isHexDigit (c : Char) : Bool :=
  isDigit c || ('a' ≤ c && c ≤ 'f') || ('A' ≤ c && c ≤ 'F')

/-- A character inside a word: anything but controls, white space and punctuation. -/
def isWordPart (c : Char) : Bool := 0x20 ≤ c.toNat && !isBlank c && !isPunctuation c

def isWordStart (c : Char) : Bool := isWordPart c && !isDigit c

def isLetter (c : Char) : Bool := ('a' ≤ c && c ≤ 'z') || ('A' ≤ c && c ≤ 'Z')

/-! ## Trivia -/

def blanks : Parser Unit := do
  let _ ← takeWhile isBlank
  pure ()

def inLineComment (c : Char) : Bool := c != '\r' && !isLineEnd c

def lineComment : Parser Unit := do
  literal ['/', '/']
  let _ ← takeWhile inLineComment
  pure ()

/-- The text up to the end of a block comment; one without an end is none. -/
def closeComment : Parser Unit := do
  skipMany (do
    let s ← ahead
    check (!(['*', '/'].isPrefixOf s))
    satisfy fun _ => true)
  literal ['*', '/']

def blockComment : Parser Unit := do
  literal ['/', '*']
  closeComment

def comment : Parser Unit := lineComment <|> blockComment

def markupComment : Parser Unit := do
  literal ['<', '!', '-', '-'] <|> literal ['-', '-', '>']
  let _ ← takeWhile fun c => !isLineEnd c
  pure ()

def blank1 : Parser Unit := do
  let _ ← satisfy isBlank
  blanks

/-- White space and comments behind a complete expression. -/
def trivia : Parser Unit := skipMany (blank1 <|> comment)

/-- White space and comments where a token must follow; here markup can be commented out. -/
def gap : Parser Unit := skipMany (blank1 <|> comment <|> markupComment)

/-! ## Words -/

def hexDigit : Parser Char := satisfy isHexDigit

def wordEscape : Parser (List Char) := do
  literal ['\\', 'u']
  (do
    let _ ← char '\x7b'
    let ds ← many1 hexDigit
    let _ ← char '\x7d'
    pure (['\\', 'u', '\x7b'] ++ ds ++ ['\x7d'])) <|> (do
    let a ← hexDigit
    let b ← hexDigit
    let c ← hexDigit
    let d ← hexDigit
    pure ['\\', 'u', a, b, c, d])

def wordPiece : Parser (List Char) := (do
  let c ← satisfy isWordPart
  let cs ← takeWhile isWordPart
  pure (c :: cs)) <|> wordEscape

def word : Parser (List Char) := do
  let first ← (do
    let c ← satisfy isWordStart
    let cs ← takeWhile isWordPart
    pure (c :: cs)) <|> wordEscape
  let more ← many wordPiece
  pure (first ++ more.flatten)

def wordOf (w : String) : Parser Unit := do
  let cs ← word
  check (cs == w.toList)

def privateName : Parser Unit := do
  let _ ← char '#'
  let _ ← word
  pure ()

/-! ## Tokens behind trivia -/

def token {α : Type} (p : Parser α) : Parser α := do
  gap
  p

def punct (c : Char) : Parser Unit := token (do
  let _ ← char c
  pure ())

def symbol (cs : List Char) : Parser Unit := token (literal cs)

def keyword (w : String) : Parser Unit := token (wordOf w)

/-! ## Numbers -/

def digits (f : Char → Bool) : Parser Unit := do
  let _ ← satisfy f
  skipMany (do
    skip (char '_')
    satisfy f)

def exponent : Parser Unit := do
  let _ ← char 'e' <|> char 'E'
  skip (char '-' <|> char '+')
  digits isDigit

def baseNumber (lower upper : Char) (f : Char → Bool) : Parser Unit := do
  let _ ← char '0'
  let _ ← char lower <|> char upper
  digits f
  skip (char 'n')

def integerPart : Parser Unit := do
  let s ← ahead
  match s with
  | '0' :: c :: _ => if isDigit c && c != '0' then digits isDigit else (do let _ ← char '0')
  | '0' :: _ => (do let _ ← char '0')
  | _ => digits isDigit

def fraction : Parser Unit := do
  integerPart
  let _ ← char '.'
  skip (digits isDigit)
  skip exponent

def pointed : Parser Unit := do
  let _ ← char '.'
  digits isDigit
  skip exponent

def scaled : Parser Unit := do
  integerPart
  exponent

def plainNumber : Parser Unit := do
  digits isDigit
  skip (char 'n')

def number : Parser Unit :=
  baseNumber 'x' 'X' isHexDigit <|> baseNumber 'b' 'B' (fun c => c == '0' || c == '1') <|>
    baseNumber 'o' 'O' (fun c => '0' ≤ c && c ≤ '7') <|> fraction <|> pointed <|> scaled <|>
    plainNumber

/-! ## Texts -/

def escape : Parser Unit := do
  let _ ← char '\\'
  let c ← satisfy fun _ => true
  if c == 'x' then do
    let _ ← hexDigit
    let _ ← hexDigit
    pure ()
  else if c == 'u' then
    (do
      let _ ← char '\x7b'
      let _ ← many1 hexDigit
      let _ ← char '\x7d'
      pure ()) <|> (do
      let _ ← hexDigit
      let _ ← hexDigit
      let _ ← hexDigit
      let _ ← hexDigit
      pure ())
  else if c == '\r' then skip (char '\n')
  else pure ()

/-- The inside of a text in quotes; behind a line break only trivia and the quote can follow. -/
def textPiece (quote : Char) : Parser Unit := (do
  let _ ← satisfy fun c => c != quote && c != '\\' && c != '\n' && c != '\r'
  let _ ← takeWhile fun c => c != quote && c != '\\' && c != '\n' && c != '\r'
  pure ()) <|> escape

def text : Parser Unit := do
  let quote ← char '"' <|> char '\''
  skipMany (textPiece quote)
  trivia
  let _ ← char quote
  pure ()

/-! ## Regular expressions -/

def inBrackets : Parser Unit := (do
  let _ ← char '\\'
  let _ ← satisfy (· != '\n')
  pure ()) <|> (do
  let _ ← satisfy fun c => c != ']' && c != '\n' && c != '\\'
  pure ())

def patternPiece : Parser Unit := (do
  let _ ← char '['
  skipMany inBrackets
  let _ ← char ']'
  pure ()) <|> (do
  let _ ← char '\\'
  let _ ← satisfy (· != '\n')
  pure ()) <|> (do
  let _ ← satisfy fun c => c != '/' && c != '\\' && c != '[' && c != '\n'
  pure ())

def regularExpression : Parser Unit := do
  let _ ← char '/'
  let _ ← many1 patternPiece
  let _ ← char '/'
  let _ ← takeWhile fun c => 'a' ≤ c && c ≤ 'z'
  pure ()

/-! ## Operators -/

/-- What can stand between two operands, the longer ones before their beginnings. -/
def binaryOperators : List (List Char) := [
  ['>', '>', '>'], ['=', '=', '='], ['!', '=', '='], ['*', '*'], ['&', '&'], ['|', '|'],
  ['?', '?'], ['<', '<'], ['>', '>'], ['<', '='], ['>', '='], ['=', '='], ['!', '='],
  ['&'], ['^'], ['|'], ['+'], ['-'], ['*'], ['/'], ['%'], ['<'], ['>']]

def updateOperators : List (List Char) := [
  ['>', '>', '>', '='], ['<', '<', '='], ['>', '>', '='], ['*', '*', '='], ['&', '&', '='],
  ['|', '|', '='], ['?', '?', '='], ['+', '='], ['-', '='], ['*', '='], ['/', '='], ['%', '='],
  ['&', '='], ['|', '='], ['^', '=']]

def oneOf : List (List Char) → Parser Unit
  | [] => fail
  | o :: os => literal o <|> oneOf os

end Changeset.Script
