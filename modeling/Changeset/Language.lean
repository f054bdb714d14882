import Changeset.Text.Letter

/-!
# Languages

A language is named by a tag, compared without regard to case. Some tags have a
grammar; all others are known by name alone. A file name tells its language by
its extension.
-/

namespace Changeset

inductive Grammar where
  | javascript
  | typescript
  | tsx
  deriving DecidableEq, Repr

namespace Language

def grammars : List (String × Grammar) := [
  ("ts", .typescript), ("mts", .typescript), ("cts", .typescript), ("typescript", .typescript),
  ("tsx", .tsx), ("js", .javascript), ("jsx", .javascript), ("mjs", .javascript),
  ("cjs", .javascript), ("javascript", .javascript)]

def grammarOf (tag : String) : Option Grammar := grammars.lookup tag

def grammar? (language : String) : Option Grammar := grammarOf (Letter.lower language)

def extensions : List (String × String) := [
  (".ts", "ts"), (".mts", "mts"), (".cts", "cts"), (".tsx", "tsx"), (".js", "js"),
  (".mjs", "mjs"), (".cjs", "cjs"), (".jsx", "jsx"), (".py", "py"), (".java", "java"),
  (".go", "go"), (".rs", "rs"), (".c", "c"), (".h", "c"), (".cpp", "cpp"), (".cc", "cpp"),
  (".hpp", "cpp")]

/-- The extension of a path with its dot; dots in front of a name begin none. -/
def extension (path : List Char) : List Char :=
  let name := path.reverse.takeWhile (· != '/')
  let suffix := name.takeWhile (· != '.')
  match name.dropWhile (· != '.') with
  | '.' :: stem => if stem.any (· != '.') then '.' :: suffix.reverse else []
  | _ => []

def ofPath (path : String) : String :=
  (extensions.lookup (Letter.lower (String.ofList (extension path.toList)))).getD "unknown"

end Language

end Changeset
