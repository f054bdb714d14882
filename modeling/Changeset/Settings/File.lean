import Changeset.Settings.Basic
import Changeset.Text.Utf8
import Changeset.Yaml.Content

/-!
# Settings files

A settings file is a mapping from the names of settings to values, as UTF-8 text.
An empty file asks for nothing; settings of other names are passed over. Scalars
and collections stand for their text, except that null is kept.
-/

namespace Changeset.Settings

inductive FileFault where
  | encoding (fault : Utf8.Fault)
  | text (fault : Yaml.Fault)
  | notMapping (name : String)
  | settings (fault : Fault)

namespace FileFault

/-- What is wrong with the values of a file; `none` if its form is wrong already. -/
def message? : FileFault → Option String
  | encoding f => some f.message
  | text (.invalid m) => some m
  | text _ => none
  | notMapping name => some ("Config file " ++ name ++ " must contain a mapping")
  | settings f => if f.isValueFault then some f.message else none

end FileFault

def normalizeLines : List Char → List Char
  | '\r' :: '\n' :: cs => '\n' :: normalizeLines cs
  | '\r' :: cs => '\n' :: normalizeLines cs
  | c :: cs => c :: normalizeLines cs
  | [] => []

/-- A character that the end of the file breaks off is reported without what is before it. -/
def relocate (f : Utf8.Fault) : Utf8.Fault :=
  match f.cause with
  | .brokenOff => { f with position := 0 }
  | _ => f

def decodeFile (bytes : List UInt8) : Except FileFault (List Char) :=
  match Utf8.decode bytes with
  | .ok cs => .ok (normalizeLines cs)
  | .error f => .error (.encoding (relocate f))

def field? (name : String) (entries : List (Value × Value)) : Option Value :=
  (entries.find? fun e =>
    match e.1 with
    | .text s => s == name
    | _ => false).map (·.2)

def asText : Value → Value
  | .null => .null
  | v => .text v.asText

/-- Aliases by the texts of their keys; a repeated one keeps its place. -/
def aliasTexts (entries : List (Value × Value)) : List (Value × Value) :=
  entries.foldl (fun es e =>
    Yaml.Content.put (.text e.1.asText) (.text e.2.asText) es) []

/-- The aliases of a file; null is no mapping, but that is not said before they are read. -/
def aliases? : Option Value → Except Fault (Option (List (Value × Value)))
  | none => .ok Request.default.aliases
  | some .null => .ok none
  | some (.map es) => .ok (some (aliasTexts es))
  | some _ => .error .aliasesNotMapping

def requestOf (entries : List (Value × Value)) : Except Fault Request := do
  let base := Request.default
  let aliases ← aliases? (field? "extra_language_aliases" entries)
  return {
    strategy := ((field? "default_strategy" entries).map asText).getD base.strategy
    aliases := aliases
    level := ((field? "log_level" entries).map asText).getD base.level }

def ofFile (name : String) (bytes : List UInt8) : Except FileFault Settings := do
  let cs ← decodeFile bytes
  let v ← (Yaml.read cs).mapError .text
  if v.isEmpty then return default
  else
    match v with
    | .map entries => ((requestOf entries).bind ofRequest).mapError .settings
    | _ => .error (.notMapping name)

end Changeset.Settings
