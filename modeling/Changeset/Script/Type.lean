import Changeset.Script.Function

/-!
# Types

Types are read flat: units with suffixes, joined by `|`, `&` and the parts of
choices, because only their extent matters.
-/

namespace Changeset.Script

open Changeset.Script.Parser

/-! ## Names of members -/

namespace Env

variable (e : Env)

def computedName : Parser Unit := do
  punct '['
  e.expression .inside
  punct ']'

def memberName : Parser Unit :=
  token (do
    let _ ← word
    pure ()) <|> token text <|> token number <|> token privateName <|> e.computedName

def modifier (ending : Option Ending) (w : String) : Parser Unit := do
  keyword w
  let s ← ahead
  check (!(ending.map fun ending => canEnd e.grammar ending s).getD false)
  let more ← can (e.memberName <|> punct '*')
  check more

def modifiers (ending : Option Ending) : List String → Parser Unit
  | [] => pure ()
  | w :: ws => do
    skip (e.modifier ending w)
    modifiers ending ws

def access (ending : Option Ending) : Parser Unit :=
  skip (e.modifier ending "public" <|> e.modifier ending "private" <|>
    e.modifier ending "protected")

def methodKind (ending : Option Ending) : Parser Unit :=
  skip (e.modifier ending "get" <|> e.modifier ending "set" <|> punct '*')

/-! ## Members of object types -/

def indexSignature (ending : Option Ending) : Parser Unit := do
  skip (do
    skip (punct '-' <|> punct '+')
    keyword "readonly"
    let more ← can (punct '[')
    check more)
  punct '['
  let _ ← token word
  (do
    punct ':'
    e.type none) <|> (do
    keyword "in"
    e.type none
    skip (do
      keyword "as"
      e.type none))
  punct ']'
  e.go ending
  literal ['-', '?', ':'] <|> literal ['+', '?', ':'] <|> literal ['?', ':'] <|> literal [':']
  e.type ending

def constructSignature (ending : Option Ending) : Parser Unit := do
  skip (keyword "abstract")
  keyword "new"
  skip e.typeParameters
  e.parameters
  skip (e.annotation ending)

def memberSignature (ending : Option Ending) : Parser Unit := do
  e.access ending
  e.modifiers ending ["static", "override", "readonly", "async"]
  e.methodKind ending
  e.memberName
  skip (e.goPunct ending '?')
  (do
    let call ← can (do
      e.go ending
      char '(' <|> char '<')
    check call
    e.signature ending) <|> skip (e.annotation ending)

def objectTypeMember : Parser Unit :=
  e.constructSignature (some .plain) <|> e.indexSignature (some .plain) <|>
    e.memberSignature (some .plain) <|> e.signature (some .plain)

/-- What divides the members of an object type: a comma, a semicolon, or the end of a line. -/
def memberEnd : Parser Unit := punct ',' <|> semicolon e.grammar .plain

def objectType : Parser Unit := do
  symbol ['\x7b', '|'] <|> punct '\x7b'
  skip (punct ',' <|> punct ';')
  skip (do
    e.objectTypeMember
    skipMany (do
      e.memberEnd
      e.objectTypeMember)
    skip e.memberEnd)
  symbol ['|', '\x7d'] <|> punct '\x7d'

/-! ## Units -/

def tupleMember : Parser Unit :=
  (do
    skip (symbol ['.', '.', '.'])
    let _ ← token word
    skip (punct '?')
    e.annotation none) <|> (do
    skip (symbol ['.', '.', '.'])
    e.type none
    skip (punct '?'))

def tupleType : Parser Unit := do
  punct '['
  skip (listed e.tupleMember)
  punct ']'

def templateType : Parser Unit := do
  gap
  let _ ← char '\x60'
  skipMany ((do
    literal ['$', '\x7b']
    e.type none
    punct '\x7d') <|> escape <|> (do
    let s ← ahead
    check (!(['$', '\x7b'].isPrefixOf s))
    let _ ← satisfy fun c => c != '\x60' && c != '\\'
    pure ()))
  let _ ← char '\x60'
  pure ()

def functionType (ending : Option Ending) : Parser Unit := do
  skip (do
    skip (keyword "abstract")
    keyword "new")
  skip e.typeParameters
  e.parameters
  e.go ending
  literal ['=', '>']
  e.result ending

def pathStep (ending : Option Ending) : Parser Unit := do
  e.go ending
  literal ['?', '.'] <|> literal ['.']
  gap
  privateName <|> (do
    let _ ← word
    pure ())

def genericArguments (ending : Option Ending) : Parser Unit := do
  e.go ending
  e.typeArguments

/-- A step behind the word `import`: a name, or a call unless one is directly before it. -/
def importStep (ending : Option Ending) (called : Bool) : Parser Bool := (do
    e.pathStep ending
    pure false) <|> (do
    check !called
    e.go ending
    e.arguments
    pure true)

def importPath (ending : Option Ending) : Parser Unit := do
  keyword "import"
  let first ← e.importStep ending false
  let _ ← loop (fun called => do
    let next ← e.importStep ending called
    pure (some next)) first
  pure ()

def typeQuery (ending : Option Ending) : Parser Unit := do
  keyword "typeof"
  e.importPath ending <|> (do
    let _ ← token word
    skipMany (e.pathStep ending))
  skip (e.genericArguments ending)

def signedNumber : Parser Unit := do
  punct '-' <|> punct '+'
  token number

def typeOperators : List String := [
  "keyof", "readonly", "infer", "typeof", "unique", "abstract", "import", "new"]

def typeUnit (ending : Option Ending) : Parser Unit :=
  e.functionType ending <|> (do
    punct '('
    e.type none
    punct ')') <|> e.objectType <|> e.tupleType <|> e.templateType <|> token text <|>
  token number <|> signedNumber <|> (do
    punct '*') <|> (do
    punct '?'
    e.type ending) <|> (do
    keyword "keyof"
    let imported ← can (keyword "import")
    check !imported
    e.type ending) <|> (do
    keyword "readonly"
    e.type ending) <|> (do
    keyword "unique"
    keyword "symbol") <|> (do
    keyword "infer"
    let _ ← token word
    skip (do
      e.goKeyword ending "extends"
      e.type ending)) <|> e.typeQuery ending <|> (do
    let w ← token word
    check (!typeOperators.contains (String.ofList w))
    skipMany (do
      e.goPunct ending '.'
      token word)
    skip (e.genericArguments ending))

/-- Brackets behind a type: of an array, or of one of its members. -/
def typeSuffix (ending : Option Ending) : Parser Unit := do
  e.goPunct ending '['
  skip (e.type none)
  punct ']'

def typeOperand (ending : Option Ending) : Parser Unit := e.importPath ending <|> (do
  e.typeUnit ending
  skipMany (e.typeSuffix ending))

/-- A sign between types, or the condition and the first result of a choice. -/
def typeJoint (ending : Option Ending) : Parser Unit :=
  e.goPunct ending '|' <|> e.goPunct ending '&' <|> (do
    e.goKeyword ending "extends"
    e.type none
    punct '?'
    e.type none
    punct ':')

def typeExpression (ending : Option Ending) : Parser Unit := do
  skip (punct '|' <|> punct '&')
  e.typeOperand ending
  skipMany (do
    e.typeJoint ending
    skip (punct '|' <|> punct '&')
    e.typeOperand ending)

end Env

end Changeset.Script
