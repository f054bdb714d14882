import Changeset.Repair.Phrase
import Changeset.Repair.Terminal

/-!
# Grammar terms

What a phrase can look like: a term over terminals and phrases, with marks that
say which of two readings is meant where both are possible.
-/

namespace Changeset.Repair

inductive Term where
  | token (t : Terminal)
  | phrase (p : Phrase)
  | empty
  | seq (left right : Term)
  | alt (left right : Term)
  | many1 (body : Term)
  | called (name : String) (body : Term)
  /-- Here no word is reserved. -/
  | free (body : Term)
  deriving DecidableEq

namespace Term

instance : Coe String Term where
  coe text := .token (.literal text)

instance : Coe Terminal Term where
  coe := .token

instance : Coe Phrase Term where
  coe := .phrase

def row : List Term → Term
  | [] => .empty
  | [t] => t
  | t :: ts => .seq t (row ts)

def oneOf : List Term → Term
  | [] => .empty
  | [t] => t
  | t :: ts => .alt t (oneOf ts)

def opt (t : Term) : Term := .alt t .empty

def many (t : Term) : Term := opt (.many1 t)

def listed1 (t : Term) : Term := row [t, many (row [",", t])]

def listed (t : Term) : Term := opt (listed1 t)

end Term

/-- How strongly a form holds together. -/
inductive Rank where
  | none
  | level (n : Int)
  | named (name : String)
  deriving DecidableEq, Repr

/-- Which operand of a row is a row itself. -/
inductive Side where
  | none | left | right
  deriving DecidableEq, Repr

structure Form where
  body : Term
  rank : Rank := .none
  side : Side := .none
  /-- What choosing this form is worth where several readings remain. -/
  weight : Int := 0

inductive Meaning where
  | leaf (t : Terminal)
  /-- Written out wherever it stands. -/
  | inline (t : Term)
  | forms (fs : List Form)
  | absent

/-- Names of ranks and phrases, the stronger ones first. -/
inductive Strength where
  | rank (name : String)
  | phrase (p : Phrase)
  deriving DecidableEq

structure Description where
  meaning : Phrase → Meaning
  strengths : List (List Strength)
  /-- Words that are no names where none is free. -/
  reserved : List String
  contextual : List Terminal

end Changeset.Repair
