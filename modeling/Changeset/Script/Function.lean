import Changeset.Script.Rule

/-!
# Functions

Parameters, what a function gives back, bodies, and functions as expressions.
-/

namespace Changeset.Script

open Changeset.Script.Parser

def parameterModifier (w : String) : Parser Unit := do
  keyword w
  let more ← can (token (do
    let _ ← word
    pure ()) <|> punct '[' <|> punct '\x7b' <|> symbol ['.', '.', '.'])
  check more

/-- What follows the question mark of a parameter; before anything else it begins a choice. -/
def followsOption (s : List Char) : Bool :=
  match s.dropWhile isSpace with
  | ':' :: _ | ')' :: _ | ',' :: _ => true
  | _ => false

def optionMark : Parser Unit := do
  punct '?'
  let s ← ahead
  check (followsOption s)

namespace Env

variable (e : Env)

/-! ## Blocks and decorators -/

def block : Parser Unit := do
  punct '\x7b'
  skipMany e.statement
  punct '\x7d'

def arguments : Parser Unit := do
  punct '('
  let _ ← listedWithGaps (do
    skip (literal ['.', '.', '.'])
    e.expression .inside) ')'
  pure ()

def typeArguments : Parser Unit := do
  punct '<'
  listed (e.type none)
  punct '>'

def decoratorPath : Parser Unit := do
  let _ ← e.binding
  skipMany (do
    punct '.'
    let _ ← e.binding
    pure ())
  skip (do
    skip (e.typed e.typeArguments)
    e.arguments)

/-- A decorator: a path, or in parentheses an expression, which in the typed grammars is a path. -/
def decorator : Parser Unit := do
  punct '@'
  inParens (if e.isTyped then e.decoratorPath else e.expressions .inside) <|> e.decoratorPath

/-! ## Parameters -/

/-- What an argument is assigned to: a name, a member or a pattern, or `this` where it has a type. -/
def parameterTarget : Parser Unit := (do
    gap
    let s ← ahead
    check (s.head? != some '(')
    let c ← e.parse (.operand .inside)
    check c.isPattern) <|> e.typed (keyword "this")

def annotation (ending : Option Ending) : Parser Unit := do
  e.goPunct ending ':'
  e.type ending

def initializer (context : Context) : Parser Unit := do
  e.goPunct context.ending '='
  e.expression context

def parameter : Parser Unit := do
  e.typed (do
    skipMany e.decorator
    skip (parameterModifier "public" <|> parameterModifier "private" <|>
      parameterModifier "protected")
    skip (parameterModifier "override")
    skip (parameterModifier "readonly")) <|> pure ()
  let collecting ← found (symbol ['.', '.', '.'])
  e.parameterTarget
  skip (e.typed optionMark)
  let annotated ← found (e.typed (e.annotation none))
  skip (do
    check (annotated || !collecting)
    e.initializer .inside)

def parameters : Parser Unit := do
  punct '('
  skip (listed e.parameter)
  punct ')'

/-! ## Types of functions -/

def typeParameter : Parser Unit := do
  skip (do
    keyword "const"
    let more ← can (token word)
    check more)
  let _ ← token word
  skip (do
    keyword "extends" <|> punct ':'
    e.type none)
  skip (do
    punct '='
    e.type none)

def typeParameters : Parser Unit := do
  punct '<'
  listed e.typeParameter
  punct '>'

def predicate (ending : Option Ending) : Parser Unit := do
  (do
    keyword "unique"
    keyword "symbol") <|> (do
    let _ ← token word
    pure ())
  e.goKeyword ending "is"
  e.type ending

def assertion (ending : Option Ending) : Parser Unit := do
  keyword "asserts"
  gap
  e.predicate ending <|> (do
    let _ ← word
    pure ())

def result (ending : Option Ending) : Parser Unit :=
  e.predicate ending <|> e.assertion ending <|> e.type ending

def resultAnnotation (ending : Option Ending) : Parser Unit := do
  e.goPunct ending ':'
  e.result ending

def signature (ending : Option Ending) : Parser Unit := do
  skip (e.typed e.typeParameters)
  e.parameters
  skip (e.typed (e.resultAnnotation ending))

/-! ## Functions as expressions -/

def asyncMark (context : Context) : Parser Unit := do
  keyword "async"
  e.go context.ending

def functionExpression (context : Context) : Parser Unit := do
  skip (e.asyncMark context)
  keyword "function"
  skip (punct '*')
  skip (do
    let _ ← e.binding
    pure ())
  e.signature none
  e.block

/-- What an arrow points at; a brace opens a block, or an object if that cannot be. -/
def arrowBody (context : Context) : Parser Unit :=
  e.block <|> e.expression context

def arrow (context : Context) : Parser Unit := do
  symbol ['=', '>']
  e.arrowBody context

def arrowSignature (context : Context) : Parser Unit := do
  skip (e.typed e.typeParameters)
  e.parameters
  if context.colonTaken then pure ()
  else skip (e.typed (e.resultAnnotation none))

def arrowOperand (isName : String → Bool) : Parser Unit := do
  let _ ← token (nameIf fun w => e.isOperand w && isName w)
  pure ()

def arrowFunction (context : Context) : Parser Unit :=
  (do
    e.asyncMark context
    e.arrowOperand (fun _ => true) <|> e.arrowSignature context
    e.arrow context) <|> (do
    e.arrowOperand (· != "undefined") <|> e.arrowSignature context
    e.arrow context)

end Env

end Changeset.Script
