import Changeset.Script.Diagnosis
import Changeset.Script.Reading
import Changeset.Source.Error
import Changeset.Symbol.Table
import Changeset.Text.CodePoint
import Changeset.Text.Extent
import Changeset.Text.Quoted
import Changeset.Note

/-!
# Declarations of a source

A source becomes a list of symbols, one for each name that its top-level
statements declare, in source order. A source that is no program gives the place
of its first problem instead. The table of a source keeps the last symbol of
each key.

The source is read in characters and cut in octets: what a symbol says of its
text, its name and its position is decoded from the UTF-8 of the source.
-/

namespace Changeset.Source

open Script (Placed Problem Diagnosis)

/-- The symbol of the part `node` of a text, named by its part `name`. -/
def symbol (bytes : List UInt8) (kind : String) (node name : Extent) :
    Except Utf8.Fault Symbol := do
  let name ← name.text bytes
  let position ← node.start.position bytes
  let text ← node.text bytes
  pure {
    key := kind ++ ":" ++ String.ofList name
    name := String.ofList name
    kind := kind
    sourceText := String.ofList text
    line := position.line
    column := position.column
    endLine := node.endLine }

def extentOf (source : List Char) (s : Script.Slice) : Extent :=
  .ofAhead source s.ahead s.text.length

def symbols (source : List Char) (p : Placed) : Except Utf8.Fault (List Symbol) :=
  p.declaration.names.mapM fun name =>
    symbol (Utf8.encode source) p.declaration.kind.label (extentOf source p.toSlice)
      (extentOf source name)

def symbolsOf (source : List Char) (ps : List Placed) : Except Utf8.Fault (List Symbol) :=
  (ps.mapM (symbols source)).map List.flatten

/-! ## Errors -/

def reason : Problem → String
  | .unexpected => "unexpected syntax"
  | .missing token => "missing " ++ quoted token
  | .unlocated => SourceError.defaultReason

def surrogateReason : String := "text is not valid Unicode"

def surrogatePosition (source : Text) : Position :=
  Position.start.advance ((source.takeWhile fun p => !p.isSurrogate).filterMap CodePoint.toChar?)

def errorAt (tag : String) (file : Option String) (p : Position) (reason : String) : SourceError where
  language := tag
  line := p.line
  column := p.column
  file := file
  reason := reason

def errorOf (tag : String) (file : Option String) (bytes : List UInt8) (d : Diagnosis) :
    Except Utf8.Fault SourceError := do
  let position ← d.place.position bytes
  pure (errorAt tag file position (reason d.problem))

/-! ## Declarations -/

inductive Failure where
  | unreadable (error : SourceError)
  | undecodable (fault : Utf8.Fault)
  deriving DecidableEq, Repr

def declarations (g : Grammar) (tag : String) (file : Option String) (source : Text) :
    Except Failure (List Symbol) :=
  match source.chars? with
  | none => .error (.unreadable (errorAt tag file (surrogatePosition source) surrogateReason))
  | some cs =>
    match Script.read g cs with
    | .program ps => (symbolsOf cs ps).mapError .undecodable
    | .faulty tree =>
      match errorOf tag file (Utf8.encode cs) (Script.diagnose tree) with
      | .ok e => .error (.unreadable e)
      | .error f => .error (.undecodable f)

/-! ## Tables -/

def insertNoted (t : Noted Table) (s : Symbol) : Noted Table := do
  let table ← t
  if table.contains s.key then Noted.note (.redeclared s.key s.line)
  pure (table.insert s)

def tableOf (ss : List Symbol) : Noted Table := ss.foldl insertNoted (pure Table.empty)

def table (g : Grammar) (tag : String) (file : Option String) (source : Text) :
    Noted (Except Failure Table) :=
  match declarations g tag file source with
  | .ok ss => (tableOf ss).map .ok
  | .error e => pure (.error e)

/-! ## Languages by name -/

inductive Fault where
  | unsupported (language : String)
  | unreadable (error : SourceError)
  | undecodable (fault : Utf8.Fault)
  deriving DecidableEq, Repr

namespace Fault

def message : Fault → String
  | unsupported language => "Language " ++ quoted language ++ " has no parser support"
  | unreadable e => e.message
  | undecodable f => f.message

def ofFailure : Failure → Fault
  | .unreadable e => unreadable e
  | .undecodable f => undecodable f

end Fault

/-- The symbols of a source in the language called `language`, in any case. -/
def declarationsIn (language : String) (file : Option String) (source : Text) :
    Except Fault (List Symbol) :=
  match Language.grammar? language with
  | none => .error (.unsupported language)
  | some g => (declarations g language file source).mapError .ofFailure

def tableIn (language : String) (file : Option String) (source : Text) :
    Except Fault Table :=
  (declarationsIn language file source).map fun ss => (tableOf ss).value

end Changeset.Source
