import Changeset.Script.Function

/-!
# Markup

Elements inside scripts. The names of the two tags of an element need not agree.
-/

namespace Changeset.Script

open Changeset.Script.Parser

def entity : Parser Unit := do
  let _ ← char '&'
  (do
    let _ ← char '#'
    (do
      let _ ← char 'x' <|> char 'X'
      let ds ← many1 hexDigit
      check (ds.length ≤ 6)) <|> (do
      let ds ← many1 (satisfy isDigit)
      check (ds.length ≤ 5))) <|> (do
    let w ← many1 (satisfy isLetter)
    check (w.length ≤ 30))
  let _ ← char ';'
  pure ()

def looseAmpersand : Parser Unit := do
  let _ ← char '&'
  let s ← ahead
  match s with
  | [] => fail
  | c :: _ => check (c != '#' && !isLetter c)

def attributeText : Parser Unit := do
  gap
  let quote ← char '"' <|> char '\''
  skipMany ((do
    let _ ← satisfy fun c => c != quote && c != '&'
    pure ()) <|> entity <|> looseAmpersand)
  let _ ← char quote
  pure ()

namespace Env

variable (e : Env)

/-- A name, or any word with dashes in it; says whether there are any. -/
def tagWord : Parser Bool := token (do
  let w ← word
  let dashes ← many (do
    let _ ← char '-'
    takeWhile fun c => isWordPart c || c == '-')
  check (!dashes.isEmpty || e.isBindable (String.ofList w))
  pure !dashes.isEmpty)

def spaceMember : Parser Unit := do
  punct ':'
  let _ ← e.tagWord
  pure ()

/-- The name of an element: a word, a path of words, which can have types, or two words with a
colon. -/
def tagName (types : Parser Unit) : Parser Unit := do
  let dashed ← e.tagWord
  e.spaceMember <|> (do
    check !dashed
    skipMany (do
      punct '.'
      let _ ← e.binding
      pure ())
    skip types) <|> pure ()

def attributeName : Parser Unit := do
  let _ ← e.tagWord
  skip e.spaceMember

def closingTag : Parser Unit := do
  literal ['<', '/']
  skip (e.tagName fail)
  punct '>'

def embedded : Parser Unit := do
  punct '\x7b'
  skip ((do
    symbol ['.', '.', '.']
    e.expression .inside) <|> e.expressions .inside)
  punct '\x7d'

def tagAttribute : Parser Unit := e.embedded <|> (do
  e.attributeName
  skip (do
    punct '='
    attributeText <|> e.embedded <|> e.element))

def child : Parser Unit := (do
    let _ ← many1 (satisfy fun c => !(['<', '>', '\x7b', '\x7d', '&'].contains c))
    pure ()) <|> entity <|> (do
    let s ← ahead
    check (s.head? == some '\x7b')
    e.embedded) <|> (do
    let s ← ahead
    check (s.head? == some '<' && s.tail.head? != some '/')
    e.element)

def markup : Parser Unit := do
  punct '<'
  (do
    e.tagName (e.typed e.typeArguments)
    skipMany e.tagAttribute
    symbol ['/', '>'] <|> (do
      punct '>'
      skipMany e.child
      e.closingTag)) <|> (do
    punct '>'
    skipMany e.child
    e.closingTag) <|> e.typed (symbol ['/', '>'])

end Env

end Changeset.Script
