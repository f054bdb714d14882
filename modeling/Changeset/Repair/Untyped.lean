import Changeset.Repair.Term

/-!
# The untyped grammar

The phrases of scripts without types, in the order in which missing tokens are
tried.
-/

namespace Changeset.Repair.Untyped

open Term Phrase

def inline (t : Term) : Meaning := .inline t

def leaf (t : Terminal) : Meaning := .leaf t

def form (body : Term) : Meaning := .forms [⟨body, .none, .none, 0⟩]

def forms (bodies : List Term) : Meaning := .forms (bodies.map fun body => ⟨body, .none, .none, 0⟩)

def ranked (rank : String) (body : Term) : Form := ⟨body, .named rank, .none, 0⟩

def leftRanked (rank : String) (body : Term) : Form := ⟨body, .named rank, .left, 0⟩

def rightRanked (rank : String) (body : Term) : Form := ⟨body, .named rank, .right, 0⟩

def left (body : Term) : Meaning := .forms [⟨body, .none, .left, 0⟩]

def right (body : Term) : Meaning := .forms [⟨body, .none, .right, 0⟩]

def weighted (weight : Int) (body : Term) : Meaning := .forms [⟨body, .none, .none, weight⟩]

def wordAs (label : String) : Term := called label word

def property : Term := oneOf [privateWord, free (wordAs "property_identifier")]

def ownName (label : String) : Term := called label (oneOf [word, reservedName])

/-- The signs between two operands, how strongly each holds, and on which side rows grow. -/
def operators : List (String × String × Side) := [
  ("&&", "logical and", .left), ("||", "logical or", .left), (">>", "shift", .left),
  (">>>", "shift", .left), ("<<", "shift", .left), ("&", "and", .left), ("^", "xor", .left),
  ("|", "or", .left), ("+", "plus", .left), ("-", "plus", .left), ("*", "times", .left),
  ("/", "times", .left), ("%", "times", .left), ("**", "power", .right), ("<", "relation", .left),
  ("<=", "relation", .left), ("==", "equality", .left), ("===", "equality", .left),
  ("!=", "equality", .left), ("!==", "equality", .left), (">=", "relation", .left),
  (">", "relation", .left), ("??", "ternary", .left), ("instanceof", "relation", .left)]

def binaryForms : List Form :=
  operators.map (fun (sign, rank, side) =>
    (⟨row [expression, sign, expression], .named rank, side, 0⟩ : Form)) ++
  [leftRanked "relation" (row [oneOf [expression, privateWord], "in", expression])]

def updateSigns : Term := oneOf [
  "+=", "-=", "*=", "/=", "%=", "^=", "&=", "|=", ">>=", ">>>=", "<<=", "**=", "&&=", "||=", "??="]

def meaning : Phrase → Meaning
  | program => form (row [opt interpreterLine, many statement])
  | interpreterLine => leaf .interpreterLine
  | exportStatement => forms [
      row ["export", oneOf [row ["*", fromClause], row [spaceExport, fromClause],
        row [exportClause, fromClause], exportClause], semicolon],
      row [many decorator, "export", oneOf [declaration,
        row ["default", oneOf [declaration, row [expression, semicolon]]]]]]
  | spaceExport => form (row ["*", "as", moduleName])
  | exportClause => form (row ["\x7b", listed exportSpecifier, opt ",", "\x7d"])
  | exportSpecifier => form (row [moduleName, opt (row ["as", moduleName])])
  | moduleName => forms [word, string, "default"]
  | declaration => forms [functionDeclaration, generatorDeclaration, classDeclaration,
      lexicalDeclaration, variableDeclaration, usingDeclaration]
  | importWord => form "import"
  | importStatement => form (row ["import",
      oneOf [row [importClause, fromClause], string], opt importAttribute, semicolon])
  | importClause => forms [spaceImport, namedImports,
      row [word, opt (row [",", oneOf [spaceImport, namedImports]])]]
  | fromClause => form (row ["from", string])
  | spaceImport => form (row ["*", "as", word])
  | namedImports => form (row ["\x7b", listed importSpecifier, opt ",", "\x7d"])
  | importSpecifier => forms [word, row [moduleName, "as", word]]
  | importAttribute => form (row ["with", object])
  | statement => forms [exportStatement, importStatement, debuggerStatement, expressionStatement,
      declaration, block, ifStatement, switchStatement, forStatement, forInStatement,
      whileStatement, doStatement, tryStatement, withStatement, breakStatement,
      continueStatement, returnStatement, throwStatement, emptyStatement, labeledStatement]
  | expressionStatement => form (row [expressions, semicolon])
  | variableDeclaration => form (row ["var", listed1 variableDeclarator, semicolon])
  | lexicalDeclaration => form (row [oneOf ["let", "const"], listed1 variableDeclarator, semicolon])
  | usingDeclaration => form (row [oneOf ["using", row ["await", "using"]],
      listed1 variableDeclarator, semicolon])
  | variableDeclarator => form (row [oneOf [word, called "identifier" "of", destructuring],
      opt initializer])
  | block => right (row ["\x7b", many statement, "\x7d", opt Terminal.statementEnd])
  | elseClause => form (row ["else", statement])
  | ifStatement => right (row ["if", parenthesized, statement, opt elseClause])
  | switchStatement => form (row ["switch", parenthesized, switchBody])
  | forStatement => form (row ["for", "(",
      oneOf [oneOf [lexicalDeclaration, variableDeclaration], row [expressions, ";"], emptyStatement],
      oneOf [row [expressions, ";"], emptyStatement], opt expressions, ")", statement])
  | forInStatement => form (row ["for", opt "await", forHead, statement])
  | forHead => form (row ["(", oneOf [target, parenthesized,
      row ["var", oneOf [word, destructuring], opt initializer],
      row [oneOf ["let", "const"], oneOf [word, destructuring], opt Terminal.statementEnd],
      row [oneOf ["using", row ["await", "using"]], oneOf [word, destructuring]]],
      oneOf ["in", "of"], expressions, ")"])
  | whileStatement => form (row ["while", parenthesized, statement])
  | doStatement => right (row ["do", statement, "while", parenthesized, opt semicolon])
  | tryStatement => form (row ["try", block, opt catchClause, opt finallyClause])
  | withStatement => form (row ["with", parenthesized, statement])
  | breakStatement => form (row ["break", opt (wordAs "statement_identifier"), semicolon])
  | continueStatement => form (row ["continue", opt (wordAs "statement_identifier"), semicolon])
  | debuggerStatement => form (row ["debugger", semicolon])
  | returnStatement => form (row ["return", opt expressions, semicolon])
  | throwStatement => form (row ["throw", expressions, semicolon])
  | emptyStatement => form ";"
  | labeledStatement => weighted (-1) (row [ownName "statement_identifier", ":", statement])
  | switchBody => form (row ["\x7b", many (oneOf [switchCase, switchDefault]), "\x7d"])
  | switchCase => form (row ["case", expressions, ":", many statement])
  | switchDefault => form (row ["default", ":", many statement])
  | catchClause => form (row ["catch", opt (row ["(", oneOf [word, destructuring], ")"]), block])
  | finallyClause => form (row ["finally", block])
  | parenthesized => form (row ["(", expressions, ")"])
  | expressions => inline (oneOf [expression, sequence])
  | expression => forms [primary, markup, assignment, augmentedAssignment, awaitExpression, unary,
      binary, ternary, update, newExpression, yieldExpression, arrowFunction]
  | primary => forms [subscript, member, parenthesized, name, called "identifier" reservedName,
      thisWord, superWord, number, string, template, regex, trueWord, falseWord, nullWord, object,
      array, functionExpression, generatorExpression, classExpression, metaProperty, call]
  | yieldExpression => right (row ["yield", oneOf [row ["*", expression], opt expression]])
  | object => .forms [ranked "object" (row ["\x7b", listed (opt (oneOf [pair, spread,
      methodDefinition, ownName "shorthand_property_identifier"])), "\x7d"])]
  | objectPattern => .forms [ranked "object" (row ["\x7b", listed (opt (oneOf [pairPattern,
      restPattern, objectAssignmentPattern, ownName "shorthand_property_identifier_pattern"])),
      "\x7d"])]
  | assignmentPattern => form (row [bindingPattern, "=", expression])
  | objectAssignmentPattern => form (row [
      oneOf [ownName "shorthand_property_identifier_pattern", destructuring], "=", expression])
  | array => form (row ["[", listed (opt (oneOf [expression, spread])), "]"])
  | arrayPattern => form (row ["[", listed (opt (oneOf [bindingPattern, assignmentPattern])), "]"])
  | markup => inline (oneOf [markupElement, selfClosingTag])
  | markupElement => form (row [openingTag, many markupChild, closingTag])
  | entity => leaf .entity
  | markupExpression => form (row ["\x7b", opt (oneOf [expression, sequence, spread]), "\x7d"])
  | markupChild => inline (oneOf [Terminal.markupText, entity, markup, markupExpression])
  | openingTag => weighted (-1) (row ["<", opt (row [tagName, many tagAttributeForm]), ">"])
  | tagWord => leaf .tagWord
  | tagIdentifier => inline (oneOf [tagWord, word])
  | nestedIdentifier => .forms [ranked "member" (row [oneOf [word, nestedIdentifier], ".",
      wordAs "property_identifier"])]
  | spaceName => form (row [tagIdentifier, ":", tagIdentifier])
  | tagName => inline (oneOf [tagIdentifier, nestedIdentifier, spaceName])
  | closingTag => form (row ["</", opt tagName, ">"])
  | selfClosingTag => form (row ["<", tagName, many tagAttributeForm, "/>"])
  | tagAttributeForm => inline (oneOf [tagAttribute, markupExpression])
  | attributeName => inline (oneOf [called "property_identifier" tagIdentifier, spaceName])
  | tagAttribute => form (row [attributeName, opt (row ["=", attributeValue])])
  | tagString => forms [
      row ["\"", many (oneOf [Terminal.doubleTagText, entity]), "\""],
      row ["'", many (oneOf [Terminal.singleTagText, entity]), "'"]]
  | doubleTagText => leaf .doubleTagText
  | singleTagText => leaf .singleTagText
  | attributeValue => inline (oneOf [tagString, markupExpression, markup])
  | classExpression => .forms [ranked "literal" (row [many decorator, "class", opt word,
      opt classHeritage, classBody])]
  | classDeclaration => .forms [ranked "declare" (row [many decorator, "class", word,
      opt classHeritage, classBody, opt Terminal.statementEnd])]
  | classHeritage => form (row ["extends", expression])
  | functionExpression => .forms [ranked "literal" (row [opt "async", "function", opt word,
      callSignature, block])]
  | functionDeclaration => .forms [rightRanked "declare" (row [opt "async", "function", word,
      callSignature, block, opt Terminal.statementEnd])]
  | generatorExpression => .forms [ranked "literal" (row [opt "async", "function", "*", opt word,
      callSignature, block])]
  | generatorDeclaration => .forms [rightRanked "declare" (row [opt "async", "function", "*", word,
      callSignature, block, opt Terminal.statementEnd])]
  | arrowFunction => form (row [opt "async",
      oneOf [called "identifier" reservedName, word, callSignature], "=>", oneOf [expression, block]])
  | callSignature => inline formalParameters
  | formalParameter => inline (oneOf [bindingPattern, assignmentPattern])
  | optionalSign => leaf .optionalSign
  | call => .forms [
      ranked "call" (row [oneOf [expression, importWord], arguments]),
      ranked "template call" (row [oneOf [primary, newExpression], template]),
      ranked "member" (row [primary, optionalSign, arguments])]
  | newExpression => .forms [
      rightRanked "new" (row ["new", oneOf [primary, newExpression]]),
      ⟨row ["new", oneOf [primary, newExpression], arguments], .named "new", .right, 1⟩]
  | awaitExpression => .forms [ranked "void" (row ["await", expression])]
  | member => .forms [ranked "member" (row [oneOf [expression, primary, importWord],
      oneOf [".", optionalSign], property])]
  | subscript => .forms [rightRanked "member" (row [oneOf [expression, primary], opt optionalSign,
      "[", expressions, "]"])]
  | target => inline (oneOf [member, subscript, name, called "identifier" reservedName,
      destructuring])
  | assignment => .forms [rightRanked "assign" (row [oneOf [parenthesized, target], "=",
      expression])]
  | updateTarget => forms [member, subscript, called "identifier" reservedName, word, parenthesized]
  | augmentedAssignment => .forms [rightRanked "assign" (row [updateTarget, updateSigns,
      expression])]
  | initializer => form (row ["=", expression])
  | destructuring => forms [objectPattern, arrayPattern]
  | spread => form (row ["...", expression])
  | ternary => .forms [rightRanked "ternary" (row [expression, Terminal.choiceSign, expression, ":",
      expression])]
  | binary => .forms binaryForms
  | unary => .forms [leftRanked "void" (row [
      oneOf ["!", "~", "-", "+", "typeof", "void", "delete"], expression])]
  | update => left (oneOf [row [expression, oneOf ["++", "--"]], row [oneOf ["++", "--"], expression]])
  | .sequence => right (listed1 expression)
  | string => forms [
      row ["\"", many (oneOf [doubleText, escapeText]), "\""],
      row ["'", many (oneOf [singleText, escapeText]), "'"]]
  | doubleText => leaf .doubleText
  | singleText => leaf .singleText
  | escapeText => leaf .escapeText
  | comment => leaf .comment
  | template => form (row ["\x60", many (oneOf [Terminal.templateText, escapeText, substitution]),
      "\x60"])
  | substitution => form (row ["$\x7b", expressions, "\x7d"])
  | regex => form (row ["/", pattern, Terminal.patternEnd, opt patternFlags])
  | pattern => leaf .pattern
  | patternFlags => leaf .patternFlags
  | number => leaf .number
  | name => inline (oneOf [undefinedWord, word])
  | word => leaf .word
  | privateWord => leaf .privateWord
  | metaProperty => forms [row ["new", ".", "target"], row ["import", ".", "meta"]]
  | thisWord => leaf (.literal "this")
  | superWord => leaf (.literal "super")
  | trueWord => leaf (.literal "true")
  | falseWord => leaf (.literal "false")
  | nullWord => leaf (.literal "null")
  | undefinedWord => leaf (.literal "undefined")
  | arguments => form (row ["(", listed (opt (oneOf [expression, spread])), ")"])
  | decorator => form (row ["@", oneOf [word, decoratorMember, decoratorCall, parenthesized]])
  | decoratorMember => .forms [ranked "member" (row [oneOf [word, decoratorMember], ".",
      wordAs "property_identifier"])]
  | decoratorCall => .forms [ranked "call" (row [oneOf [word, decoratorMember], arguments])]
  | classBody => form (row ["\x7b", many (oneOf [row [methodDefinition, opt ";"],
      row [fieldDefinition, semicolon], staticBlock, ";"]), "\x7d"])
  | fieldDefinition => form (row [many decorator, opt "static", propertyName, opt initializer])
  | formalParameters => form (row ["(", opt (row [listed1 formalParameter, opt ","]), ")"])
  | staticBlock => form (row ["static", block])
  | bindingPattern => .forms [⟨oneOf [target, restPattern], .none, .none, -1⟩]
  | restPattern => right (row ["...", target])
  | methodDefinition => form (row [many decorator, opt "static", opt "async",
      opt (oneOf ["get", "set", "*"]), propertyName, formalParameters, block])
  | pair => form (row [propertyName, ":", expression])
  | pairPattern => form (row [propertyName, ":", oneOf [bindingPattern, assignmentPattern]])
  | propertyName => forms [free (ownName "property_identifier"), privateWord, string, number,
      computedName]
  | computedName => form (row ["[", expression, "]"])
  | reservedName => inline (oneOf ["get", "set", "async", "await", "static", "export", "let"])
  | semicolon => inline (oneOf [Terminal.statementEnd, ";"])
  | _ => .absent

def strengths : List (List Strength) := [
  [.rank "member", .rank "template call", .rank "call", .phrase update, .rank "void",
    .rank "power", .rank "times", .rank "plus", .rank "shift", .rank "compare", .rank "relation",
    .rank "equality", .rank "and", .rank "xor", .rank "or", .rank "logical and",
    .rank "logical or", .rank "ternary", .phrase sequence, .phrase arrowFunction],
  [.rank "assign", .phrase primary],
  [.rank "member", .rank "template call", .rank "new", .rank "call", .phrase expression],
  [.rank "declare", .rank "literal"],
  [.phrase primary, .phrase block, .rank "object"],
  [.phrase metaProperty, .phrase importWord],
  [.phrase importStatement, .phrase importWord],
  [.phrase exportStatement, .phrase primary],
  [.phrase lexicalDeclaration, .phrase primary]]

def description : Description where
  meaning := meaning
  strengths := strengths
  reserved := ["break", "case", "catch", "class", "const", "continue", "debugger", "default",
    "delete", "do", "else", "extends", "false", "finally", "for", "function", "if", "import", "in",
    "instanceof", "new", "null", "return", "super", "switch", "this", "throw", "true", "try",
    "typeof", "var", "void", "while", "with", "yield"]
  contextual := [.statementEnd, .templateText, .choiceSign, .markupComment, .markupText]

end Changeset.Repair.Untyped
