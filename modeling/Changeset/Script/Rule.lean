import Changeset.Script.Semicolon

/-!
# Rules

The grammar is recursive: statements hold expressions, expressions hold types
and functions, functions hold statements. Each module below describes its part
over an environment that knows how to read the others, and the knot is tied once,
over a depth.
-/

namespace Changeset.Script

open Changeset.Script.Parser

/-- What an expression could also be read as. -/
inductive Cover where
  /-- A name, a member or an element: it can be assigned to, computed on or not. -/
  | target
  | group
  /-- An array or object that is a pattern as well. -/
  | shape
  | pattern
  | preset
  /-- Something counted up or down, or read as another type: no template can follow it. -/
  | computed
  | other
  deriving DecidableEq, Repr

namespace Cover

def isExpression : Cover → Bool
  | pattern => false
  | _ => true

def isPattern : Cover → Bool
  | target | shape | pattern => true
  | _ => false

def isBinding (c : Cover) : Bool := c.isPattern || c == preset

def isAssignable (c : Cover) : Bool := c.isPattern || c == group

def isUpdatable (c : Cover) : Bool := c == target || c == group

end Cover

structure Context where
  /-- What may follow if the statement can end behind it. -/
  ending : Option Ending
  /-- A colon behind parameters is not theirs, because a choice waits for it. -/
  colonTaken : Bool
  deriving DecidableEq, Repr

namespace Context

def inside : Context := ⟨none, false⟩

def inChoice : Context := ⟨none, true⟩

def atEnd : Context := ⟨some .ofExpression, false⟩

end Context

inductive Rule where
  | statement
  | expression (context : Context)
  /-- An operand with its signs before it and its members and calls behind it. -/
  | operand (context : Context)
  /-- What can be constructed: an operand that is not called. -/
  | callee (context : Context)
  | shape
  | type (ending : Option Ending)
  | element
  deriving DecidableEq, Repr

structure Env where
  grammar : Grammar
  parse : Rule → Parser Cover

namespace Env

variable (e : Env)

def isTyped : Bool := e.grammar != .javascript

def statement : Parser Unit := do
  let _ ← e.parse .statement
  pure ()

def expression (context : Context) : Parser Unit := do
  let c ← e.parse (.expression context)
  check c.isExpression

def operand (context : Context) : Parser Unit := do
  let c ← e.parse (.operand context)
  check c.isExpression

def type (ending : Option Ending) : Parser Unit := do
  let _ ← e.parse (.type ending)
  pure ()

def element : Parser Unit := do
  let _ ← e.parse .element
  pure ()

/-- Goes on to the next token unless the statement ends before it. -/
def go (ending : Option Ending) : Parser Unit := continued e.grammar ending

def goPunct (ending : Option Ending) (c : Char) : Parser Unit := do
  e.go ending
  let _ ← char c
  pure ()

def goKeyword (ending : Option Ending) (w : String) : Parser Unit := do
  e.go ending
  wordOf w

def expressions (context : Context) : Parser Unit := do
  e.expression context
  skipMany (do
    e.goPunct context.ending ','
    e.expression context)

def typed (p : Parser Unit) : Parser Unit := do
  check e.isTyped
  p

end Env

/-- Items with commas between them, and possibly one behind the last. -/
def listed (item : Parser Unit) : Parser Unit := do
  item
  skipMany (do
    punct ','
    item)
  skip (punct ',')

/-- Items with commas between them, any of which can be left out. -/
def listedWithGaps {α : Type} (item : Parser α) (close : Char) : Parser (List α) := do
  let items ← loop (fun (items : List α) => do
    gap
    let s ← ahead
    match s with
    | ',' :: _ => do
      let _ ← char ','
      pure (some items)
    | c :: _ =>
      if c == close then pure none
      else do
        let a ← item
        gap
        let t ← ahead
        match t with
        | ',' :: _ => do
          let _ ← char ','
          pure (some (a :: items))
        | d :: _ => do
          check (d == close)
          pure (some (a :: items))
        | [] => fail
    | [] => fail) []
  punct close
  pure items.reverse

def inParens (p : Parser Unit) : Parser Unit := do
  punct '('
  p
  punct ')'

/-! ## Words as names -/

def reservedWords : List String := [
  "break", "case", "catch", "class", "const", "continue", "debugger", "default", "delete", "do",
  "else", "extends", "false", "finally", "for", "function", "if", "import", "in",
  "instanceof", "new", "null", "return", "super", "switch", "this", "throw", "true", "try",
  "typeof", "var", "void", "while", "with", "yield"]

def expressionWords : List String := [
  "await", "class", "delete", "false", "function", "import", "null", "super", "this", "true", "typeof",
  "using", "void", "yield"]

/-- Words that begin or continue a statement, and so cannot be a name at its beginning. -/
def statementWords : List String := [
  "break", "case", "catch", "const", "continue", "debugger", "default", "do", "else",
  "finally", "for", "if", "return", "switch", "throw", "try", "var", "while", "with"]

def typedStatementWords : List String := ["abstract", "enum", "interface"]

def infixWords : List String := ["in", "instanceof", "as", "satisfies"]

def nameIf (allowed : String → Bool) : Parser (List Char) := do
  let w ← word
  check (allowed (String.ofList w))
  pure w

namespace Env

variable (e : Env)

def isBindable (w : String) : Bool := e.isTyped || !reservedWords.contains w

def isOperand (w : String) : Bool :=
  if e.isTyped then !expressionWords.contains w else !reservedWords.contains w

def isStatementWord (w : String) : Bool :=
  statementWords.contains w || (if e.isTyped then typedStatementWords.contains w else w == "using")

def binding : Parser Slice := token (slice (nameIf e.isBindable))

def shapePattern : Parser Unit := do
  let c ← e.parse .shape
  check c.isPattern

end Env

end Changeset.Script
