import Changeset.Script.Class
import Changeset.Script.Markup

/-!
# Expressions

An expression is a row of operands with operators between them. How strongly the
operators bind does not matter for where it ends, so the row is read flat; only
assignment looks at what kind of operand stands before it.
-/

namespace Changeset.Script

open Changeset.Script.Parser

namespace Env

variable (e : Env)

/-! ## Operands that begin with a word -/

def infixed : Parser Unit := do
  let _ ← token (nameIf infixWords.contains)
  pure ()

/-- Fails before a word between two operands, which the typed grammars read as such. -/
def notInfixed : Parser Unit := do
  let operator ← can (e.typed infixed)
  check !operator

def property : Parser Unit := token (do
  let _ ← word
  pure ()) <|> token privateName

/-- An import is called, asked for its meta data, or taken a member of where there is one. -/
def importOperand : Parser Cover := do
  keyword "import"
  let used ← can (punct '(' <|> e.typed (do
    e.typeArguments
    punct '(') <|> (do
    punct '.'
    keyword "meta") <|> (do
    symbol ['?', '.']
    property))
  check used
  pure .other

def constantWords : List String := ["this", "super", "null", "true", "false"]

def constant : Parser Cover := do
  let _ ← token (nameIf constantWords.contains)
  pure .other

/-- A name; the word `new` is one only where nothing that it could construct can follow. -/
def nameOperand : Parser Cover := do
  let w ← token (nameIf e.isOperand)
  let opened ← can (do
    gap
    satisfy ['(', '[', '\x7b', '<', '.', '!', '+', '-', '~', '\x60', '"', '\'', '/', '@'].contains)
  check (!(String.ofList w == "new" && opened))
  pure .target

/-- A private name, which only asks whether an object has it. -/
def privateOperand : Parser Cover := do
  token privateName
  let asked ← can (keyword "in")
  check asked
  pure .other

/-- A namespace; an operator in the place of its name is that of an operand called so. -/
def spaceExpression (context : Context) : Parser Cover := do
  keyword "namespace"
  e.go context.ending
  text <|> (do
    let _ ← nameIf fun w => !infixWords.contains w && w != "of"
    skipMany (do
      punct '.'
      let _ ← token word
      pure ()))
  skip e.block
  pure .other

def parenthesized : Parser Cover := do
  punct '('
  e.expressions .inside
  skip (e.typed (e.annotation none))
  punct ')'
  pure .group

def whole (p : Parser Unit) : Parser Cover := do
  p
  pure .other

/-- Which operands can be made of what begins with `s`; an arrow function only where `arrows` says
so. -/
def primary (context : Context) (arrows : Bool) : Parser Cover := do
  gap
  let s ← ahead
  let arrowFunction : Parser Cover := do
    check arrows
    whole (e.arrowFunction context)
  match s with
  | [] => fail
  | c :: _ =>
    if c == '(' then arrowFunction <|> e.parenthesized
    else if c == '[' then e.array
    else if c == '\x7b' then e.object
    else if c == '\x60' then whole e.template
    else if c == '"' || c == '\'' then whole text
    else if c == '/' then whole regularExpression
    else if c == '#' then privateOperand
    else if c == '@' then whole e.classExpression
    else if c == '<' then
      match e.grammar with
      | .javascript => whole e.element
      | .typescript => arrowFunction
      | .tsx => arrowFunction <|> whole e.element
    else if isDigit c || c == '.' then whole number
    else
      arrowFunction <|> whole (e.functionExpression context) <|>
        whole e.classExpression <|> e.importOperand <|> constant <|>
        (do
          check e.isTyped
          e.spaceExpression context) <|> e.nameOperand

/-! ## Members and calls -/

/-- Whether an operand could begin here, so that a bracket before it was an operator. -/
def opensOperand (s : List Char) : Bool :=
  match s with
  | [] => false
  | '!' :: d :: _ => !(['=', '.', ';', ')', ']', '\x7d', ','].contains d)
  | c :: _ => isWordPart c || c == '"' || c == '\'' || c == '\\' || c == '~'

def instantiation (context : Context) : Parser Unit := do
  e.operandTypes
  let s ← ahead
  if (context.ending.map fun ending => canEnd e.grammar ending s).getD false then pure ()
  else do
    let t ← look (do
      trivia
      ahead)
    let infixed ← can (infixed <|> keyword "of" <|> keyword "implements" <|> keyword "extends")
    check (infixed || !opensOperand t)

def nonNull : Parser Unit := do
  literal ['!']
  let s ← ahead
  check (s.head? != some '=')

def postfixStep (context : Context) (called : Bool) (c : Cover) : Parser Cover := do
  e.go context.ending
  (do
    literal ['?', '.']
    let s ← ahead
    check (!(s.head?.map isDigit).getD false)
    (do
      property
      pure .target) <|> (do
      punct '['
      e.expressions .inside
      punct ']'
      pure .target) <|> (do
      check (called && c != .computed)
      skip (e.typed e.typeArguments)
      e.arguments
      pure .other)) <|> (do
    let _ ← char '.'
    property
    pure .target) <|> (do
    let _ ← char '['
    e.expressions .inside
    punct ']'
    pure .target) <|> (do
    check called
    e.arguments
    pure .other) <|> (do
    check (c != .computed)
    e.template
    pure .other) <|> (do
    check called
    literal ['+', '+'] <|> literal ['-', '-']
    pure .computed) <|> (do
    check e.isTyped
    nonNull
    pure .target) <|> (do
    check (e.isTyped && called)
    (do
      e.operandTypes
      e.arguments) <|> e.instantiation context
    pure .other)

def postfixed (context : Context) (called : Bool) (p : Parser Cover) : Parser Cover := do
  let c ← p
  loop (fun c => do
    let d ← e.postfixStep context called c
    pure (some d)) c

/-! ## Signs before operands -/

/-- Type arguments of what is constructed; no comparison can stand in their place. -/
def constructedTypes (context : Context) : Parser Unit := (do
    e.go context.ending
    e.typed e.typeArguments) <|> (do
    let compared ← can (e.typed (do
      e.go context.ending
      let _ ← char '<'
      let s ← ahead
      check (s.head? != some '<' && s.head? != some '=')))
    check !compared)

def construction (context : Context) : Parser Cover := do
  keyword "new"
  e.notInfixed
  (do
    punct '.'
    keyword "target") <|> (do
    let _ ← e.parse (.callee context)
    e.constructedTypes context
    skip (do
      e.go context.ending
      e.arguments))
  pure .other

def callee (context : Context) : Parser Cover :=
  e.postfixed context false (e.construction context <|> e.primary context false)

def sign : Parser Unit := do
  gap
  oneOf [['+', '+'], ['-', '-'], ['!'], ['~'], ['+'], ['-']] <|> wordOf "typeof" <|>
    wordOf "void" <|> wordOf "delete"

def waiting (context : Context) : Parser Unit := do
  keyword "await"
  if e.isTyped then pure () else e.go context.ending

def yielding (context : Context) : Parser Unit := do
  keyword "yield"
  skip (do
    e.go context.ending
    e.notInfixed
    (do
      let _ ← char '*'
      e.expression context) <|> e.expression context)

/-- Something yielded; a member of nothing yielded is a member of the word. -/
def yielded (context : Context) : Parser Cover := do
  e.yielding context
  let chained ← can (do
    e.go context.ending
    skip (char '?')
    char '.')
  check (!chained || e.isTyped)
  if chained then e.postfixed context true (pure .computed) else pure .other

def assertedType : Parser Unit := do
  check (e.grammar == .typescript)
  e.typeArguments

def assignmentSign : Parser Unit := do
  literal ['=']
  let s ← ahead
  check (s.head? != some '=' && s.head? != some '>')

def assigned (context : Context) (c : Cover) : Parser Unit := do
  e.go context.ending
  (do
    assignmentSign
    check c.isAssignable) <|> (do
    oneOf updateOperators
    check c.isUpdatable)
  e.expression context

/-- A sign before an operand, or before an assignment, which is then all behind it. -/
def signed (context : Context) (p : Parser Unit) : Parser Cover := do
  p
  let c ← e.parse (.operand context)
  e.assigned context c <|> check c.isExpression
  pure .other

def usingAssignment (context : Context) : Parser Cover := do
  check e.isTyped
  keyword "using"
  let c ← e.parse (.operand context)
  check c.isAssignable
  e.go context.ending
  assignmentSign
  e.expression context
  pure .other

def operandBody (context : Context) : Parser Cover :=
  e.signed context sign <|> e.yielded context <|> e.usingAssignment context <|>
    e.postfixed context true (e.construction context <|> e.primary context true) <|>
    e.signed context e.assertedType

/-- An operand; `await` is a name where nothing can be waited for. -/
def operandRule (context : Context) : Parser Cover :=
  e.signed context (e.waiting context) <|> e.operandBody context

/-! ## Rows of operands -/

structure Row where
  last : Cover
  single : Bool

/-- The question mark of a choice; one before a colon belongs to a type. -/
def choiceSign : Parser Unit := do
  literal ['?']
  let s ← ahead
  match s with
  | '?' :: _ => fail
  | '.' :: d :: _ => check (isDigit d)
  | _ => check (!e.isTyped || !followsOption s)

def choice (context : Context) : Parser Cover := do
  e.choiceSign
  (do
    e.expression .inside
    punct ':') <|> e.typed (do
    e.expression .inChoice
    punct ':')
  e.parse (.operand context)

def binary (context : Context) : Parser Cover := do
  oneOf binaryOperators <|> wordOf "instanceof" <|> wordOf "in"
  e.parse (.operand context)

def ascription (context : Context) : Parser Cover := do
  check e.isTyped
  wordOf "as" <|> wordOf "satisfies"
  e.postfixed context true (do
    e.type context.ending
    pure .computed)

def operation (context : Context) (row : Row) : Parser Row := do
  e.go context.ending
  (do
    assignmentSign
    check row.last.isAssignable
    e.expression context
    pure ⟨if row.single && row.last.isPattern then .preset else .other, false⟩) <|> (do
    check row.last.isExpression
    (do
      oneOf updateOperators
      check row.last.isUpdatable
      e.expression context
      pure ⟨.other, false⟩) <|> (do
      let c ← e.choice context <|> e.binary context <|> e.ascription context
      pure ⟨c, false⟩))

def expressionRule (context : Context) : Parser Cover := do
  let c ← e.parse (.operand context)
  let row ← loop (fun row => do
    let next ← e.operation context row
    pure (some next)) ⟨c, true⟩
  if row.single || row.last == .preset then pure row.last
  else do
    check row.last.isExpression
    pure .other

end Env

end Changeset.Script
