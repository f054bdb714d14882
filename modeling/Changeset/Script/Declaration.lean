import Changeset.Script.Expression

/-!
# Declarations

Statements that introduce names. Those that only announce something defined
elsewhere, and those whose names are not reported, are read and give nothing.
-/

namespace Changeset.Script

open Changeset.Script.Parser

inductive DeclarationKind where
  | function | «class» | interface | type | const | let | var
  deriving DecidableEq, Repr

def DeclarationKind.label : DeclarationKind → String
  | function => "function"
  | «class» => "class"
  | interface => "interface"
  | type => "type"
  | const => "const"
  | «let» => "let"
  | var => "var"

/-- Names that one statement introduces, as they are written. -/
structure Declaration where
  kind : DeclarationKind
  names : List Slice
  deriving DecidableEq, Repr

namespace Env

variable (e : Env)

/-- A word that begins a declaration unless the statement ends behind it. -/
def opening (w : String) : Parser Unit := do
  keyword w
  e.go (some .ofExpression)

/-! ## Variables -/

/-- The type of a variable; one that is assigned later says so with a sign. -/
def variableType : Parser Unit := do
  skip (e.goPunct (some .plain) '!')
  e.annotation (some .plain)

def variableTail : Parser Ending := do
  skip (e.typed e.variableType)
  (do
    e.goPunct (some .plain) '='
    e.expression .atEnd
    pure .ofExpression) <|> pure .plain

/-- A variable: its name, or nothing for a pattern. -/
def declarator : Parser (Option Slice × Ending) := do
  let name ← (do
    e.shapePattern
    pure none) <|> (do
    let name ← e.binding
    pure (some name))
  let ending ← e.variableTail
  pure (name, ending)

def variableNames : Parser (List Slice) := do
  let first ← e.declarator
  let all ← loop (fun (found : List (Option Slice) × Ending) => do
    e.goPunct (some found.2) ','
    let next ← e.declarator
    pure (some (next.1 :: found.1, next.2))) ([first.1], first.2)
  semicolon e.grammar all.2
  pure (all.1.reverse.filterMap id)

def variableKind : Parser DeclarationKind := (do
    keyword "var"
    pure .var) <|> (do
    keyword "const"
    gap
    let grouped ← can (wordOf "enum")
    check (!(e.isTyped && grouped))
    pure .const) <|> (do
    e.opening "let"
    pure .let)

def variableStatement : Parser Declaration := do
  let kind ← e.variableKind
  let names ← e.variableNames
  pure ⟨kind, names⟩

def usingStatement : Parser Unit := do
  check (!e.isTyped)
  skip (keyword "await")
  keyword "using"
  let _ ← e.variableNames
  pure ()

/-! ## Functions and classes -/

/-- Fails before an operator with which no statement begins: what was read is its operand. -/
def standsAlone : Parser Unit := do
  let goesOn ← can ((do
    gap
    let c ← satisfy [',', '.', '?', '*', '%', '&', '|', '^', '=', '>'].contains
    let s ← ahead
    check !(c == '.' && (s.head?.map isDigit).getD false)) <|> keyword "in" <|>
      keyword "instanceof" <|> e.typed (e.goKeyword (some .ofExpression) "as" <|>
        e.goKeyword (some .ofExpression) "satisfies"))
  check !goesOn

def functionDeclaration (ending : Ending) : Parser (Option Declaration) := do
  skip (e.asyncMark .atEnd)
  keyword "function"
  let generator ← found (punct '*')
  let name ← e.binding
  e.signature (some .ofSignature)
  (do
    e.block
    e.standsAlone
    impliedEnd e.grammar ending
    pure (some ⟨.function, [name]⟩)) <|> (do
    check (e.isTyped && !generator)
    semicolon e.grammar .ofSignature
    pure none)

def classDeclaration (ending : Ending) : Parser Declaration := do
  skipMany e.decorator
  let abstracted ← found (e.typed (keyword "abstract"))
  keyword "class"
  let name ← e.className
  e.classTail
  if abstracted then pure ()
  else do
    e.standsAlone
    impliedEnd e.grammar ending
  pure ⟨.class, [name]⟩

/-! ## Typed declarations -/

def typePath : Parser Unit := do
  let _ ← token word
  skipMany (e.pathStep none)
  skip e.typeArguments

def interfaceDeclaration : Parser Declaration := do
  keyword "interface"
  let name ← token (slice word)
  skip e.typeParameters
  skip (do
    keyword "extends"
    e.typePath
    skipMany (do
      punct ','
      e.typePath))
  e.objectType
  pure ⟨.interface, [name]⟩

def typeDeclaration : Parser Declaration := do
  e.opening "type"
  let name ← slice word
  skip e.typeParameters
  punct '='
  e.type (some .plain)
  semicolon e.grammar .plain
  pure ⟨.type, [name]⟩

def enumMember : Parser Unit := do
  e.memberName
  skip (e.initializer .inside)

def enumDeclaration : Parser Unit := do
  skip (keyword "const")
  keyword "enum"
  let _ ← token word
  punct '\x7b'
  skip (listed e.enumMember)
  punct '\x7d'

def spaceBody : Parser Unit := do
  token text <|> (do
    let _ ← token word
    skipMany (do
      punct '.'
      let _ ← token word
      pure ()))
  skip e.block

def spaceDeclaration : Parser Unit := (do
    e.opening "namespace"
    e.spaceBody
    e.standsAlone) <|> (do
    e.opening "module"
    e.spaceBody)

def importAlias : Parser Unit := do
  keyword "import"
  let _ ← token (nameIf fun w => w != "type" && w != "typeof")
  punct '='
  let _ ← token (nameIf (· != "require"))
  skipMany (do
    e.goPunct (some .plain) '.'
    let _ ← token word
    pure ())
  semicolon e.grammar .plain

/-! ## Any declaration -/

def unreported (p : Parser Unit) : Parser (Option Declaration) := do
  p
  pure none

def reported (p : Parser Declaration) : Parser (Option Declaration) := do
  let d ← p
  pure (some d)

def typedDeclaration : Parser (Option Declaration) :=
  reported e.interfaceDeclaration <|> reported e.typeDeclaration <|>
    unreported e.enumDeclaration <|> unreported e.spaceDeclaration <|> unreported e.importAlias

/-- A declaration of any form but an ambient one; functions and classes end as `ending` says. -/
def plainDeclaration (ending : Ending) : Parser (Option Declaration) :=
  e.functionDeclaration ending <|> reported (e.classDeclaration ending) <|> reported e.variableStatement <|>
    unreported e.usingStatement <|> (do
    check e.isTyped
    e.typedDeclaration)

def ambientDeclaration : Parser Unit := do
  check e.isTyped
  e.opening "declare"
  (do
    let _ ← e.plainDeclaration .plain
    pure ()) <|> (do
    keyword "global"
    e.block) <|> (do
    keyword "module"
    punct '.'
    let _ ← token word
    punct ':'
    e.type (some .plain)
    semicolon e.grammar .plain)

def declaration (ending : Ending) : Parser (Option Declaration) :=
  e.plainDeclaration ending <|> unreported e.ambientDeclaration

end Env

end Changeset.Script
