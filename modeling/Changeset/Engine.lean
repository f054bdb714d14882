import Changeset.LineDiff
import Changeset.Patch.Split
import Changeset.Settings.Basic
import Changeset.Source.Declarations
import Changeset.Symbol.Diff

/-!
# Comparing and splitting

The operations of the library under one set of settings. Languages with a
grammar are compared symbol by symbol and all others line by line.
-/

namespace Changeset.Engine

structure Parsable where
  tag : String
  grammar : Grammar
  deriving DecidableEq, Repr

inductive Fault where
  | source (error : SourceError)
  | undecodable (fault : Utf8.Fault)
  | unknownStrategy (name : String)
  | patch (fault : Patch.Fault)

namespace Fault

def message : Fault → String
  | source e => e.message
  | undecodable f => f.message
  | unknownStrategy s =>
    "Unknown split strategy " ++ quoted s ++ ", expected one of " ++ Strategy.choices
  | patch f => f.message

def ofFailure : Source.Failure → Fault
  | .unreadable e => source e
  | .undecodable f => undecodable f

end Fault

def resolve (settings : Settings) (language : String) : String :=
  let tag := Letter.lower language
  (settings.aliases.lookup tag).getD tag

def parsable? (settings : Settings) (language : String) : Option Parsable :=
  let tag := resolve settings language
  (Language.grammarOf tag).map fun g => ⟨tag, g⟩

/-! ## Comparing -/

/-- The tables of two versions; the first one that cannot be read is the error. -/
def tables (l : Parsable) (file : Option String) (before after : Text) :
    Noted (Except Fault (Table × Table)) := do
  match ← Source.table l.grammar l.tag file before with
  | .error f => pure (.error (.ofFailure f))
  | .ok b =>
    match ← Source.table l.grammar l.tag file after with
    | .error f => pure (.error (.ofFailure f))
    | .ok a => pure (.ok (b, a))

def compare (settings : Settings) (language : String) (file : Option String)
    (before after : Text) : Noted (Except Fault (List Change)) :=
  match parsable? settings language with
  | none => do
    Noted.note (.lineDiffWithoutParser language)
    pure (.ok (LineDiff.changes before after))
  | some l => (tables l file before after).map fun r => r.map fun t => t.1.diff t.2

/-! ## Splitting -/

def splitByHunk (patch : String) : Noted (Except Fault (List String)) :=
  (Patch.byHunk patch).map fun r => r.mapError .patch

def strategyName (settings : Settings) (strategy : Option String) : String :=
  Letter.lower (match strategy with
    | none => settings.strategy.name
    | some s => if s.isEmpty then settings.strategy.name else s)

/-- Splits by hunk whatever the strategy, since there are no versions to align hunks with. -/
def split (settings : Settings) (patch language : String) (strategy : Option String) :
    Noted (Except Fault (List String)) :=
  let name := strategyName settings strategy
  match Strategy.ofName? name with
  | none => pure (.error (.unknownStrategy name))
  | some .hunk => splitByHunk patch
  | some .symbol => do
    Noted.note (.hunksDespiteStrategy name language)
    splitByHunk patch

def splitBySymbol (settings : Settings) (patch language : String) (file : Option String)
    (before after : Text) : Noted (Except Fault (List String)) :=
  match parsable? settings language with
  | none => do
    Noted.note (.hunksWithoutParser language)
    splitByHunk patch
  | some l => do
    match ← tables l file before after with
    | .error f => pure (.error f)
    | .ok (b, a) => (Patch.bySymbol b a patch).map fun r => r.mapError .patch

end Changeset.Engine
