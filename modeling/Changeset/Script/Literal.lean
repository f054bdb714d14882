import Changeset.Script.Type

/-!
# Literals with parts

Arrays, objects and templates. Arrays and objects are read once, and say whether
they could have been patterns.
-/

namespace Changeset.Script

open Changeset.Script.Parser

/-- What a list of elements can be, given what each can be and whether it is no expression. -/
def Cover.ofElements (elements : List Cover) : Cover :=
  if elements.all Cover.isBinding then
    if elements.all Cover.isExpression then .shape else .pattern
  else .other

namespace Env

variable (e : Env)

/-! ## Arrays -/

def spread : Parser Cover := do
  symbol ['.', '.', '.']
  let c ← e.parse (.expression .inside)
  pure (if c.isPattern then c else .other)

/-- Elements that no single reading fits are refused. -/
def coherent (elements : List Cover) : Parser Cover := do
  let c := Cover.ofElements elements
  check (c != .other || elements.all Cover.isExpression)
  pure c

def array : Parser Cover := do
  punct '['
  let elements ← listedWithGaps (e.spread <|> e.parse (.expression .inside)) ']'
  coherent elements

/-! ## Templates -/

def templatePiece : Parser Unit := (do
    literal ['$', '\x7b']
    e.expressions .inside
    punct '\x7d') <|> escape <|> (do
    let s ← ahead
    check (!(['$', '\x7b'].isPrefixOf s))
    let _ ← satisfy fun c => c != '\x60' && c != '\\'
    pure ())

def template : Parser Unit := do
  let _ ← char '\x60'
  skipMany e.templatePiece
  let _ ← char '\x60'
  pure ()

/-! ## Objects -/

def method (ending : Option Ending) : Parser Unit := do
  skipMany e.decorator
  e.typed (e.access ending) <|> pure ()
  e.modifiers ending
    (if e.isTyped then ["static", "override", "readonly", "async"] else ["static", "async"])
  e.methodKind ending
  e.memberName
  skip (e.typed (punct '?'))
  e.signature none
  e.block

def shorthand : Parser Cover := do
  let _ ← token word
  (do
    e.initializer .inside
    pure .pattern) <|> (do
    gap
    let s ← ahead
    check (s.head? == some ',' || s.head? == some '\x7d')
    pure .target)

def rest : Parser Cover := do
  let c ← e.spread
  check c.isPattern
  pure .pattern

def pair : Parser Cover := do
  e.memberName
  punct ':'
  e.rest <|> e.parse (.expression .inside)

def presetShape : Parser Cover := do
  e.shapePattern
  e.initializer .inside
  pure .pattern

def objectMember : Parser Cover :=
  e.spread <|> e.pair <|> e.presetShape <|> e.shorthand <|> (do
    e.method none
    pure .other)

def object : Parser Cover := do
  punct '\x7b'
  let members ← listedWithGaps e.objectMember '\x7d'
  coherent members

end Env

end Changeset.Script
