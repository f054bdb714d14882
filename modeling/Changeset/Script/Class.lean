import Changeset.Script.Literal

/-!
# Classes

Members of classes and what stands between a class's name and its body. A member
without a body ends like a statement, or at a comma in the typed grammars.
-/

namespace Changeset.Script

open Changeset.Script.Parser

namespace Env

variable (e : Env)

def staticBlock : Parser Unit := do
  keyword "static"
  e.go (some .plain)
  e.block

/-! ## Untyped members -/

def fieldEnd : Parser Unit := (do
    e.goPunct (some .plain) '='
    e.expression .atEnd
    semicolon e.grammar .ofExpression) <|> semicolon e.grammar .plain

def field : Parser Unit := do
  skipMany e.decorator
  skip (e.modifier (some .plain) "static")
  e.memberName
  e.fieldEnd

def plainMember : Parser Unit :=
  punct ';' <|> e.staticBlock <|> (do
    e.method (some .plain)
    skip (punct ';')) <|> e.field

/-! ## Typed members -/

def memberClose (ending : Ending) : Parser Unit := punct ',' <|> semicolon e.grammar ending

def fieldModifiers : List String := [
  "declare", "static", "override", "abstract", "readonly", "abstract", "accessor"]

def typedField : Parser Unit := do
  skip (e.modifier (some .plain) "declare")
  e.access (some .plain)
  e.modifiers (some .plain) fieldModifiers
  e.memberName
  skip (e.goPunct (some .plain) '?' <|> (do
    e.goPunct (some .plain) '!'))
  skip (e.annotation (some .plain))
  (do
    e.goPunct (some .plain) '='
    e.expression .atEnd
    e.memberClose .ofExpression) <|> e.memberClose .plain

def typedMethod : Parser Unit := do
  e.access (some .plain)
  e.modifiers (some .plain) ["abstract", "static", "override", "readonly", "async"]
  e.methodKind (some .plain)
  e.memberName
  skip (e.goPunct (some .plain) '?')
  e.go (some .plain)
  e.signature (some .ofSignature)
  (do
    e.go (some .ofSignature)
    e.block
    skip (semicolon e.grammar .plain)) <|> e.memberClose .ofSignature

def typedMember : Parser Unit :=
  punct ';' <|> e.staticBlock <|> (do
    skipMany e.decorator
    e.typedMethod <|> (do
      e.indexSignature (some .plain)
      e.memberClose .plain) <|> (do
      keyword "static"
      e.indexSignature (some .plain)
      e.memberClose .plain) <|> e.typedField)

/-! ## Classes -/

/-- Type arguments behind an operand. A comparison with what is imported stops them. -/
def operandTypes : Parser Unit := do
  let compared ← can (do
    punct '<'
    skipMany (punct '(' <|> punct '[' <|> punct '?' <|> keyword "typeof")
    keyword "import")
  check !compared
  e.typeArguments

def classMember : Parser Unit := if e.isTyped then e.typedMember else e.plainMember

def classBody : Parser Unit := do
  punct '\x7b'
  skipMany e.classMember
  punct '\x7d'

def extension : Parser Unit := do
  e.expression .inside
  skip (e.typed e.operandTypes)

def heritage : Parser Unit :=
  if e.isTyped then do
    skip (do
      keyword "extends"
      e.extension
      skipMany (do
        punct ','
        e.extension))
    skip (do
      keyword "implements"
      e.type none
      skipMany (do
        punct ','
        e.type none))
  else skip (do
    keyword "extends"
    e.expression .inside)

def isClassName (w : String) : Bool :=
  if e.isTyped then w != "extends" && w != "implements" else !reservedWords.contains w

def className : Parser Slice := token (slice (nameIf e.isClassName))

def classTail : Parser Unit := do
  skip (e.typed e.typeParameters)
  e.heritage
  e.classBody

def classExpression : Parser Unit := do
  skipMany e.decorator
  keyword "class"
  skip (do
    let _ ← e.className
    pure ())
  e.classTail

end Env

end Changeset.Script
