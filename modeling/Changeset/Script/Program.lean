import Changeset.Script.Statement

/-!
# Programs

A program is a row of statements. The rules are tied together here, over a depth
that the length of the text bounds, so that what a statement is depends on the
text from its beginning on and on nothing else.
-/

namespace Changeset.Script

open Changeset.Script.Parser

def Env.rule (e : Env) : Rule → Parser Cover
  | .statement => Env.whole e.statementRule
  | .expression context => e.expressionRule context
  | .operand context => e.operandRule context
  | .callee context => e.callee context
  | .shape => e.array <|> e.object
  | .type ending => Env.whole (e.typeExpression ending)
  | .element => Env.whole e.markup

/-- The rules of a grammar, nested at most `depth` times. -/
def rules (g : Grammar) : Nat → Rule → Parser Cover
  | 0, _ => fail
  | depth + 1, r => Env.rule ⟨g, rules g depth⟩ r

/-- How often rules can be nested in a text: every other nesting reads something. -/
def depthFor (s : List Char) : Nat := 4 * s.length + 8

/-- Reads with rules that are deep enough for what is ahead. -/
def withRules {α : Type} (g : Grammar) (p : Env → Parser α) : Parser α := fun s =>
  p ⟨g, rules g (depthFor s)⟩ s

structure Placed extends Slice where
  declaration : Declaration

def placed (p : Parser (Option Declaration)) : Parser (Option Placed) := fun s =>
  match p s with
  | none => none
  | some r =>
    some ⟨r.value.map fun d => ⟨⟨s.take (s.length - r.rest.length), s⟩, d⟩, r.rest, r.suffix⟩

def topDeclaration (g : Grammar) (ending : Ending) : Parser (Option Placed) :=
  placed (withRules g fun e => e.declaration ending)

/-- A statement of a program. An exported declaration begins behind what exports it. -/
def topStatement (g : Grammar) : Parser (Option Placed) := do
  gap
  topDeclaration g .ofExpression <|> (do
    let ending ← withRules g Env.exportMark
    gap
    topDeclaration g ending) <|> (do
    withRules g fun e => e.exportOther <|> e.plainStatement
    pure none)

def interpreterLine : Parser Unit := do
  literal ['#', '!']
  let _ ← takeWhile fun c => c != '\n' && c != '\r' && c != '\u2028' && c != '\u2029'
  pure ()

def program (g : Grammar) : Parser (List Placed) := do
  skip (do
    gap
    interpreterLine)
  let items ← many (topStatement g)
  gap
  let s ← ahead
  check s.isEmpty
  pure (items.filterMap id)

end Changeset.Script
