import Changeset.Script.Declaration

/-!
# Statements

Statements that declare nothing, and exports and imports.
-/

namespace Changeset.Script

open Changeset.Script.Parser

namespace Env

variable (e : Env)

def condition : Parser Unit := inParens (do
  e.expressions .inside
  skip (e.typed (e.annotation none)))

/-! ## Loops and choices -/

def ifStatement : Parser Unit := do
  keyword "if"
  e.condition
  e.statement
  skip (do
    keyword "else"
    e.statement)

def whileStatement : Parser Unit := do
  keyword "while"
  e.condition
  e.statement

def doStatement : Parser Unit := do
  keyword "do"
  e.statement
  keyword "while"
  e.condition
  skip (semicolon e.grammar .plain)

def loopVariable (isName : String → Bool) : Parser Unit :=
  e.shapePattern <|> (do
    let _ ← token (nameIf fun w => e.isBindable w && isName w)
    pure ())

/-- Operators that hold as strongly as the word before what a loop goes over. -/
def tightOperators : List (List Char) := [
  ['>', '>', '>'], ['*', '*'], ['<', '<'], ['>', '>'], ['<', '='], ['>', '='], ['+'], ['-'], ['*'],
  ['/'], ['%'], ['<'], ['>']]

/-- A first value, which a loop can have that goes over the names of members. -/
def namesFrom : Parser Unit := do
  punct '='
  e.operand .inside
  skipMany (do
    gap
    (do
      oneOf tightOperators <|> wordOf "instanceof"
      e.operand .inside) <|> (do
      let _ ← e.ascription .inside
      pure ()))
  keyword "in"

def loopDeclaration : Parser Unit := (do
    keyword "var"
    e.loopVariable fun w => e.isTyped || w != "of"
    e.goKeyword (some .plain) "of" <|> keyword "in" <|> e.namesFrom <|> (do
      e.initializer .inside
      e.goKeyword (some .ofExpression) "of")) <|> (do
    (do
      keyword "let"
      e.loopVariable (· != "of")) <|> (do
      keyword "const"
      e.loopVariable fun w => e.isTyped || w != "of")
    keyword "in" <|> keyword "of") <|> (do
    check (!e.isTyped)
    skip (keyword "await")
    keyword "using"
    e.loopVariable fun _ => true
    keyword "in" <|> keyword "of")

/-- What else takes the values; a word for variables is none. -/
def loopTarget : Parser Unit := do
  gap
  let declaring ← can (nameIf fun w => w == "var" || w == "const" || (!e.isTyped && w == "using"))
  check !declaring
  let c ← e.parse (.operand .inside)
  check c.isAssignable

def loopOver : Parser Unit := do
  skip (keyword "await")
  punct '('
  e.loopDeclaration <|> (do
    e.loopTarget
    keyword "in" <|> keyword "of")
  e.expressions .inside
  punct ')'

def loopStart : Parser Unit := (do
    let _ ← e.variableStatement
    pure ()) <|> e.usingStatement <|> (do
    e.expressions .inside
    punct ';') <|> punct ';'

def loopCount : Parser Unit := do
  punct '('
  e.loopStart
  punct ';' <|> (do
    e.expressions .inside
    punct ';')
  skip (e.expressions .inside)
  punct ')'

def forStatement : Parser Unit := do
  keyword "for"
  e.loopOver <|> e.loopCount
  e.statement

def switchCase : Parser Unit := do
  (do
    keyword "case"
    e.expressions .inside) <|> keyword "default"
  punct ':'
  skipMany e.statement

def switchStatement : Parser Unit := do
  keyword "switch"
  e.condition
  punct '\x7b'
  skipMany e.switchCase
  punct '\x7d'

def tryStatement : Parser Unit := do
  keyword "try"
  e.block
  skip (do
    keyword "catch"
    skip (inParens (do
      e.shapePattern <|> (do
        let _ ← e.binding
        pure ())
      skip (e.typed (e.annotation none))))
    e.block)
  skip (do
    keyword "finally"
    e.block)

def withStatement : Parser Unit := do
  keyword "with"
  e.condition
  e.statement

/-! ## Jumps -/

def jump (w : String) : Parser Unit := do
  keyword w
  skip (do
    e.go (some .plain)
    let _ ← nameIf e.isBindable
    pure ())
  semicolon e.grammar .plain

def returnStatement : Parser Unit := do
  keyword "return"
  (do
    e.go (some .plain)
    e.expressions .atEnd
    semicolon e.grammar .ofExpression) <|> semicolon e.grammar .plain

def throwStatement : Parser Unit := do
  keyword "throw"
  e.expressions .atEnd
  semicolon e.grammar .ofExpression

def debuggerStatement : Parser Unit := do
  keyword "debugger"
  semicolon e.grammar .plain

/-! ## Imports and exports -/

def moduleName : Parser Unit :=
  token text <|> token (do
    let _ ← nameIf fun w => e.isBindable w || w == "default"
    pure ())

def renamed : Parser Unit := do
  skip (e.typed (do
    keyword "type" <|> keyword "typeof"
    let more ← can e.moduleName
    check more))
  e.moduleName
  skip (do
    keyword "as"
    e.moduleName)

def renamedFirst : Parser Unit := do
  skip (e.typed (keyword "type" <|> keyword "typeof"))
  e.moduleName
  keyword "as"
  e.moduleName

def renamedNames : Parser Unit := do
  punct '\x7b'
  listed (e.renamedFirst <|> e.renamed) <|> skip (punct ',')
  punct '\x7d'

def source : Parser Unit := do
  keyword "from"
  token text

def importNames : Parser Unit := (do
    punct '*'
    keyword "as"
    let _ ← e.binding
    pure ()) <|> e.renamedNames

def importClause : Parser Unit := e.importNames <|> (do
  let _ ← token (nameIf fun w => e.isBindable w && w != "typeof")
  skip (do
    punct ','
    e.importNames))

def importAttributes : Parser Unit := do
  e.go (some .plain)
  wordOf "with" <|> e.typed (wordOf "assert")
  gap
  let s ← ahead
  check (s.head? == some '\x7b')
  let _ ← e.parse .shape
  pure ()

def importForm : Parser Unit := (do
    e.importClause
    source) <|> e.typed (do
    let _ ← token (nameIf fun w => w != "type" && w != "typeof")
    punct '='
    keyword "require"
    inParens (token text)) <|> token text

def importStatement : Parser Unit := do
  keyword "import"
  (do
    e.typed (keyword "type" <|> keyword "typeof")
    e.importForm) <|> e.importForm
  skip e.importAttributes
  semicolon e.grammar .plain

def exportNames : Parser Unit := do
  (do
    punct '*'
    skip (do
      keyword "as"
      e.moduleName)
    source) <|> (do
    skip (e.typed (keyword "type"))
    e.renamedNames
    skip (do
      e.goKeyword (some .plain) "from"
      token text))
  semicolon e.grammar .plain

def exportSpecial : Parser Unit := e.typed ((do
    punct '='
    e.expression .atEnd
    semicolon e.grammar .ofExpression) <|> (do
    keyword "as"
    keyword "namespace"
    let _ ← token word
    semicolon e.grammar .plain))

def exportValue : Parser Unit := do
  keyword "default"
  e.expression .atEnd
  semicolon e.grammar .ofExpression

/--
The beginning of an exported declaration, and what could follow the declaration:
an operator as well, where a value could stand in its place.
-/
def exportMark : Parser Ending := do
  skipMany e.decorator
  e.opening "export"
  let default ← found (keyword "default")
  pure (if default then .ofExpression else .plain)

/-- An export that declares nothing here. -/
def exportOther : Parser Unit := do
  skipMany e.decorator
  e.opening "export"
  e.exportValue <|> e.exportNames <|> e.exportSpecial

def exportStatement : Parser Unit := (do
    let ending ← e.exportMark
    let _ ← e.declaration ending
    pure ()) <|> e.exportOther

/-! ## Simple statements -/

def isLabel (w : String) : Bool := e.isOperand w && !e.isStatementWord w && w != "undefined"

def labeled : Parser Unit := do
  let _ ← token (nameIf e.isLabel)
  punct ':'
  e.statement

/-- The beginning of an export that no expression can share. -/
def exportOnly : Parser Unit := do
  e.opening "export"
  punct '*' <|> e.typed (punct '=' <|> keyword "as")

def expressionStatement : Parser Unit := do
  gap
  let taken ← can ((do
    let _ ← nameIf e.isStatementWord
    pure ()) <|> e.exportOnly <|> (do
    check (!e.isTyped)
    wordOf "await"
    keyword "using"))
  check (!taken)
  e.expressions .atEnd
  semicolon e.grammar .ofExpression

/-- A block; an empty one could be an object and an operand. -/
def bareBlock : Parser Unit := do
  let empty ← can (do
    punct '\x7b'
    punct '\x7d')
  e.block
  if empty then e.standsAlone else pure ()

def plainStatement : Parser Unit :=
  punct ';' <|> e.bareBlock <|> e.ifStatement <|> e.forStatement <|> e.whileStatement <|>
    e.doStatement <|> e.switchStatement <|> e.tryStatement <|> e.withStatement <|>
    e.jump "break" <|> e.jump "continue" <|> e.returnStatement <|> e.throwStatement <|>
    e.debuggerStatement <|> e.importStatement <|> e.labeled <|> e.expressionStatement

def statementRule : Parser Unit := (do
    let _ ← e.declaration .plain
    pure ()) <|> e.exportStatement <|> e.plainStatement

end Env

end Changeset.Script
