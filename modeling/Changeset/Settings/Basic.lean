import Changeset.Language
import Changeset.Value

/-!
# Settings

The settings name the strategy for splitting patches, further tags for the
languages with a grammar, and the least level of log records. They are made
from values of any type; what is accepted is kept in one normal form, with tags
in lower case and the level in upper case.
-/

namespace Changeset

inductive Strategy where
  | hunk
  | symbol
  deriving DecidableEq, Repr

namespace Strategy

def name : Strategy → String
  | hunk => "hunk"
  | symbol => "symbol"

def all : List Strategy := [hunk, symbol]

def ofName? (s : String) : Option Strategy := all.find? (·.name = s)

def choices : String := "('hunk', 'symbol')"

end Strategy

inductive Level where
  | critical
  | fatal
  | error
  | warn
  | warning
  | info
  | debug
  | notSet
  deriving DecidableEq, Repr

namespace Level

def name : Level → String
  | critical => "CRITICAL"
  | fatal => "FATAL"
  | error => "ERROR"
  | warn => "WARN"
  | warning => "WARNING"
  | info => "INFO"
  | debug => "DEBUG"
  | notSet => "NOTSET"

def all : List Level := [critical, fatal, error, warn, warning, info, debug, notSet]

def ofName? (s : String) : Option Level := all.find? (·.name = s)

def showsDebug : Level → Bool
  | debug | notSet => true
  | _ => false

end Level

namespace Settings

inductive Fault where
  | unknownStrategy (given : Value)
  | unsupportedAlias (alias_ target : Value)
  | unknownLevel (given : Value)
  | aliasesNotMapping
  | levelNotText
  deriving Repr

namespace Fault

def message : Fault → String
  | unknownStrategy v =>
    "Unknown default_strategy " ++ v.literal ++ ", expected one of " ++ Strategy.choices
  | unsupportedAlias a t =>
    "Alias " ++ a.literal ++ " points to unsupported language " ++ t.literal
  | unknownLevel v => "Unknown log_level " ++ v.literal
  | aliasesNotMapping => "extra_language_aliases is not a mapping"
  | levelNotText => "log_level is not a text"

/-- Whether the settings were of the right type, so that only their content is wrong. -/
def isValueFault : Fault → Bool
  | aliasesNotMapping | levelNotText => false
  | _ => true

end Fault

end Settings

/-- Aliases are kept in the order in which they were first given, each once. -/
structure Settings where
  strategy : Strategy
  aliases : List (String × String)
  level : Level
  deriving DecidableEq, Repr

namespace Settings

def default : Settings := ⟨.hunk, [], .warning⟩

/-- What settings are made from; aliases that are no mapping are `none`. -/
structure Request where
  strategy : Value
  aliases : Option (List (Value × Value))
  level : Value
  deriving Repr

def Request.default : Request := ⟨.text "hunk", some [], .text "WARNING"⟩

/-- Puts a value under a key: in the place of the old one, or last. -/
def put (key value : String) : List (String × String) → List (String × String)
  | [] => [(key, value)]
  | e :: es => if e.1 = key then (key, value) :: es else e :: put key value es

/-- The aliases in lower case, each with a target that has a grammar. -/
def readAliases (entries : List (Value × Value)) : Except Fault (List (String × String)) :=
  entries.foldlM (fun known (alias_, target) =>
    let tag := Letter.lower target.asText
    if (Language.grammarOf tag).isSome then .ok (put (Letter.lower alias_.asText) tag known)
    else .error (.unsupportedAlias alias_ target)) []

def readStrategy : Value → Except Fault Strategy
  | .text s =>
    match Strategy.ofName? s with
    | some strategy => .ok strategy
    | none => .error (.unknownStrategy (.text s))
  | v => .error (.unknownStrategy v)

def readLevel : Value → Except Fault Level
  | .text s =>
    match Level.ofName? (Letter.upper s) with
    | some level => .ok level
    | none => .error (.unknownLevel (.text s))
  | _ => .error .levelNotText

/-- The settings that a request asks for; of several faults the first in this order counts. -/
def ofRequest (r : Request) : Except Fault Settings := do
  let strategy ← readStrategy r.strategy
  let entries ← match r.aliases with
    | some entries => Except.ok entries
    | none => .error .aliasesNotMapping
  let aliases ← readAliases entries
  let level ← readLevel r.level
  return ⟨strategy, aliases, level⟩

def toRequest (s : Settings) : Request where
  strategy := .text s.strategy.name
  aliases := some (s.aliases.map fun e => (.text e.1, .text e.2))
  level := .text s.level.name

end Settings

end Changeset
