import Changeset.Repair.Untyped

/-!
# The typed grammars

The phrases of scripts with types. One of the two has markup, the other has
types in front of expressions in its place.
-/

namespace Changeset.Repair.Typed

open Term Phrase Untyped

def typeWord : Term := wordAs "type_identifier"

def optionalTypeParameters : Term := opt typeParameters

def optionalSignOrDot : Term := oneOf [".", "?."]

def annotated (t : Term) : Term := row [t, opt typeAscription]

def ranked1 (rank : String) (body : Term) : Meaning := .forms [ranked rank body]

def leftRanked1 (rank : String) (body : Term) : Meaning := .forms [leftRanked rank body]

def memberModifiers : Term := row [opt accessModifier, opt "static", opt overrideModifier,
  opt "readonly"]

def methodKind : Term := opt (oneOf ["get", "set", "*"])

def queried : Term := oneOf [word, thisWord, subscriptQuery, memberQuery, callQuery]

def calledQuery : Term := oneOf [importWord, word, memberQuery, subscriptQuery]

def also (m : Meaning) (more : List Term) : Meaning :=
  match m with
  | .forms fs => .forms (fs ++ more.map fun body => ⟨body, .none, .none, 0⟩)
  | .inline t => .inline (more.foldl Term.alt t)
  | m => m

def expressionForms (tsx : Bool) : List Phrase :=
  [asExpression, satisfiesExpression, instantiation, internalModule] ++
    (if tsx then [primary, markup] else [typeAssertion, primary]) ++
    [assignment, augmentedAssignment, awaitExpression, unary, binary, ternary, update,
      newExpression, yieldExpression, arrowFunction]

def meaning (tsx : Bool) : Phrase → Meaning
  | usingDeclaration => .absent
  | publicField => form (row [many decorator,
      opt (oneOf [row ["declare", opt accessModifier], row [accessModifier, opt "declare"]]),
      oneOf [row [opt "static", opt overrideModifier, opt "readonly"],
        row [opt "abstract", opt "readonly"], row [opt "readonly", opt "abstract"],
        opt "accessor"],
      propertyName, opt (oneOf ["?", "!"]), opt typeAscription, opt initializer])
  | forHead => form (row ["(", oneOf [target, parenthesized,
      row ["var", oneOf [word, destructuring], opt initializer],
      row [oneOf ["let", "const"], oneOf [word, destructuring], opt Terminal.statementEnd]],
      oneOf ["in", "of"], expressions, ")"])
  | declaration => forms [functionDeclaration, generatorDeclaration, classDeclaration,
      lexicalDeclaration, variableDeclaration, functionSignature, abstractClass,
      moduleDeclaration, internalModule, typeAlias, enumDeclaration, interfaceDeclaration,
      importAlias, ambientDeclaration]
  | importAttribute => form (row [oneOf ["with", "assert"], object])
  | optionalSign => form "?."
  | catchClause => form (row ["catch",
      opt (row ["(", oneOf [word, destructuring], opt typeAscription, ")"]), block])
  | call => .forms [
      ranked "call" (row [oneOf [expression, importWord], opt typeArguments, arguments]),
      ranked "template call" (row [oneOf [primary, newExpression], template]),
      ranked "member" (row [primary, "?.", opt typeArguments, arguments])]
  | newExpression => .forms [rightRanked "new" (row ["new", primary, opt typeArguments,
      opt arguments])]
  | assignment => .forms [rightRanked "assign" (row [opt "using", oneOf [parenthesized, target],
      "=", expression])]
  | updateTarget => also (Untyped.meaning updateTarget) [nonNull]
  | target => also (Untyped.meaning target) [nonNull]
  | primary => also (Untyped.meaning primary) [nonNull]
  | expression => forms ((expressionForms tsx).map .phrase)
  | openingTagStart => inline (row ["<", opt (row [
      oneOf [oneOf [tagIdentifier, spaceName],
        row [oneOf [word, nestedIdentifier], opt typeArguments]],
      many tagAttributeForm])])
  | openingTag => weighted (-1) (row [openingTagStart, ">"])
  | selfClosingTag => weighted (-1) (row [openingTagStart, "/>"])
  | exportSpecifier => form (row [opt (oneOf ["type", "typeof"]), moduleName,
      opt (row ["as", moduleName])])
  | importName => forms [word, called "identifier" "type"]
  | importSpecifier => form (row [opt (oneOf ["type", "typeof"]),
      oneOf [word, row [oneOf [moduleName, called "identifier" "default"], "as", importName]]])
  | importClause => forms [spaceImport, namedImports,
      row [importName, opt (row [",", oneOf [spaceImport, namedImports]])]]
  | importStatement => form (row ["import", opt (oneOf ["type", "typeof"]),
      oneOf [row [importClause, fromClause], importRequire, string], opt importAttribute,
      semicolon])
  | exportStatement => also (Untyped.meaning exportStatement) [
      row ["export", "type", exportClause, opt fromClause, semicolon],
      row ["export", "=", expression, semicolon],
      row ["export", "as", "namespace", word, semicolon]]
  | nonNull => leftRanked1 "unary" (row [expression, "!"])
  | variableDeclarator => .forms [
      ⟨row [oneOf [word, destructuring], opt typeAscription, opt initializer], .none, .none, 0⟩,
      ranked "declare" (row [word, "!", typeAscription])]
  | methodSignature => form (row [memberModifiers, opt "async", methodKind, propertyName, opt "?",
      callSignature])
  | abstractSignature => form (row [opt accessModifier, "abstract", opt overrideModifier,
      methodKind, propertyName, opt "?", callSignature])
  | parenthesized => form (row ["(", oneOf [annotated expression, sequence], ")"])
  | formalParameter => forms [requiredParameter, optionalParameter]
  | functionSignature => form (row [opt "async", "function", word, callSignature,
      oneOf [semicolon, Terminal.signatureEnd]])
  | decorator => form (row ["@", oneOf [word, decoratorMember, decoratorCall,
      decoratorParenthesized]])
  | decoratorCall => ranked1 "call" (row [oneOf [word, decoratorMember], opt typeArguments,
      arguments])
  | decoratorParenthesized => form (row ["(", oneOf [word, decoratorMember, decoratorCall], ")"])
  | classBody => form (row ["\x7b", many (oneOf [
      row [many decorator, methodDefinition, opt semicolon],
      row [methodSignature, oneOf [Terminal.signatureEnd, ","]],
      staticBlock,
      row [oneOf [abstractSignature, indexSignature, methodSignature, publicField],
        oneOf [semicolon, ","]],
      ";"]), "\x7d"])
  | methodDefinition => left (row [memberModifiers, opt "async", methodKind, propertyName, opt "?",
      callSignature, block])
  | typeAssertion => leftRanked1 "unary" (row [typeArguments, expression])
  | asExpression => leftRanked1 "binary" (row [expression, "as", oneOf ["const", type]])
  | satisfiesExpression => leftRanked1 "binary" (row [expression, "satisfies", type])
  | instantiation => ranked1 "instantiation" (row [expression, typeArguments])
  | classHeritage => forms [row [extendsClause, opt implementsClause], implementsClause]
  | importRequire => form (row [word, "=", "require", "(", string, ")"])
  | extendsClause => form (row ["extends", listed1 extendsSingle])
  | extendsSingle => ranked1 "extends" (row [expression, opt typeArguments])
  | implementsClause => form (row ["implements", listed1 type])
  | ambientDeclaration => form (row ["declare", oneOf [declaration, row ["global", block],
      row ["module", ".", wordAs "property_identifier", ":", type, semicolon]]])
  | classExpression => ranked1 "literal" (row [many decorator, "class", opt typeName,
      optionalTypeParameters, opt classHeritage, classBody])
  | abstractClass => ranked1 "declaration" (row [many decorator, "abstract", "class", typeName,
      optionalTypeParameters, opt classHeritage, classBody])
  | classDeclaration => leftRanked1 "declaration" (row [many decorator, "class", typeName,
      optionalTypeParameters, opt classHeritage, classBody, opt Terminal.statementEnd])
  | moduleDeclaration => form (row ["module", moduleForm])
  | internalModule => form (row ["namespace", moduleForm])
  | moduleForm => right (row [oneOf [string, word, nestedIdentifier], opt block])
  | importAlias => form (row ["import", word, "=", oneOf [word, nestedIdentifier], semicolon])
  | nestedTypeName => ranked1 "member" (row [oneOf [word, nestedIdentifier], ".", typeName])
  | interfaceDeclaration => form (row ["interface", typeName, optionalTypeParameters,
      opt extendsType, objectType])
  | extendsType => form (row ["extends", listed1 (oneOf [typeName, nestedTypeName, genericType])])
  | enumDeclaration => form (row [opt "const", "enum", word, enumBody])
  | enumBody => form (row ["\x7b",
      opt (row [listed1 (oneOf [propertyName, enumAssignment]), opt ","]), "\x7d"])
  | enumAssignment => form (row [propertyName, initializer])
  | typeAlias => form (row ["type", typeName, optionalTypeParameters, "=", type, semicolon])
  | accessModifier => forms ["public", "private", "protected"]
  | overrideModifier => form "override"
  | requiredParameter => form (row [parameterName, opt typeAscription, opt initializer])
  | optionalParameter => form (row [parameterName, "?", opt typeAscription, opt initializer])
  | parameterName => form (row [many decorator, opt accessModifier, opt overrideModifier,
      opt "readonly", oneOf [bindingPattern, thisWord]])
  | omittingAscription => form (row ["-?:", type])
  | addingAscription => form (row ["+?:", type])
  | optingAscription => form (row ["?:", type])
  | typeAscription => form (row [":", oneOf [type, memberQueryInAscription, callQueryInAscription]])
  | memberQueryInAscription => form (row [
      oneOf [importWord, memberQueryInAscription, callQueryInAscription], ".",
      oneOf [privateWord, wordAs "property_identifier"]])
  | callQueryInAscription => form (row [oneOf [importWord, memberQueryInAscription], arguments])
  | assertsClause => form (row ["asserts", oneOf [typePredicate, word, thisWord]])
  | assertsAscription => form (row [":", assertsClause])
  | type => .forms [
      ⟨oneOf [primaryType, functionType, readonlyType, constructorType, inferType],
        .none, .none, 0⟩,
      ⟨memberQueryInAscription, .level (-1), .none, 0⟩,
      ⟨callQueryInAscription, .level (-1), .none, 0⟩]
  | tupleParameter => form (row [oneOf [word, restPattern], typeAscription])
  | optionalTupleParameter => form (row [word, "?", typeAscription])
  | optionalType => form (row [type, "?"])
  | restType => form (row ["...", type])
  | tupleMember => forms [tupleParameter, optionalTupleParameter, optionalType, restType, type]
  | constructorType => left (row [opt "abstract", "new", optionalTypeParameters, formalParameters,
      "=>", type])
  | primaryType => forms [parenthesizedType, predefinedType, typeName, nestedTypeName, genericType,
      objectType, arrayType, tupleType, flowMaybeType, typeQuery, indexTypeQuery, thisWord,
      existentialType, literalType, lookupType, conditionalType, templateType, intersectionType,
      unionType, "const"]
  | templateTypePart => form (row ["$\x7b", oneOf [primaryType, inferType], "\x7d"])
  | templateType => form (row ["\x60", many (oneOf [Terminal.templateText, templateTypePart]),
      "\x60"])
  | inferType => right (row ["infer", typeName, opt (row ["extends", type])])
  | conditionalType => right (row [type, "extends", type, "?", type, ":", type])
  | genericType => ranked1 "call" (row [oneOf [typeName, nestedTypeName], typeArguments])
  | typePredicate => form (row [
      oneOf [word, thisWord, called "identifier" predefinedType], "is", type])
  | typePredicateAscription => form (row [":", typePredicate])
  | memberQuery => form (row [queried, optionalSignOrDot,
      oneOf [privateWord, wordAs "property_identifier"]])
  | subscriptQuery => form (row [queried, opt "?.", "[", oneOf [predefinedType, string, number],
      "]"])
  | callQuery => form (row [calledQuery, arguments])
  | instantiationQuery => form (row [calledQuery, typeArguments])
  | typeQuery => right (row ["typeof", oneOf [subscriptQuery, memberQuery, callQuery,
      instantiationQuery, word, thisWord]])
  | indexTypeQuery => form (row ["keyof", primaryType])
  | lookupType => form (row [primaryType, "[", type, "]"])
  | mappedTypeClause => form (row [typeName, "in", type, opt (row ["as", type])])
  | literalType => forms [signedNumber, number, string, trueWord, falseWord, nullWord,
      undefinedWord]
  | signedNumber => .forms [⟨row [oneOf ["-", "+"], number], .level 1, .left, 0⟩]
  | existentialType => form "*"
  | flowMaybeType => right (row ["?", primaryType])
  | parenthesizedType => form (row ["(", type, ")"])
  | predefinedType => forms ["any", "number", "boolean", "string", "symbol",
      row ["unique", "symbol"], "void", "unknown", "never", "object"]
  | typeArguments => form (row ["<", listed1 type, opt ",", ">"])
  | objectType => form (row [oneOf ["\x7b", "\x7b|"],
      opt (row [opt (oneOf [",", ";"]),
        oneOf [exportStatement, propertySignature, callSignatureMember, constructSignature,
          indexSignature, methodSignature],
        many (row [oneOf [",", semicolon],
          oneOf [exportStatement, propertySignature, callSignatureMember, constructSignature,
            indexSignature, methodSignature]]),
        opt (oneOf [",", semicolon])]),
      oneOf ["\x7d", "|\x7d"]])
  | callSignatureMember => form callSignature
  | callSignature => form (row [optionalTypeParameters, formalParameters,
      opt (oneOf [typeAscription, assertsAscription, typePredicateAscription])])
  | propertySignature => form (row [memberModifiers, propertyName, opt "?", opt typeAscription])
  | typeParameters => form (row ["<", listed1 typeParameter, opt ",", ">"])
  | typeParameter => form (row [opt "const", typeName, opt constraint, opt defaultType])
  | defaultType => form (row ["=", type])
  | constraint => form (row [oneOf ["extends", ":"], type])
  | constructSignature => form (row [opt "abstract", "new", optionalTypeParameters,
      formalParameters, opt typeAscription])
  | indexSignature => form (row [opt (row [opt (oneOf ["-", "+"]), "readonly"]), "[",
      oneOf [row [oneOf [word, called "identifier" reservedName], ":", type], mappedTypeClause], "]",
      oneOf [typeAscription, omittingAscription, addingAscription, optingAscription]])
  | arrayType => form (row [primaryType, "[", "]"])
  | tupleType => form (row ["[", listed tupleMember, opt ",", "]"])
  | readonlyType => form (row ["readonly", type])
  | unionType => left (row [opt type, "|", type])
  | intersectionType => left (row [opt type, "&", type])
  | functionType => left (row [optionalTypeParameters, formalParameters, "=>",
      oneOf [type, assertsClause, typePredicate]])
  | typeName => inline typeWord
  | reservedName => inline (oneOf ["declare", "namespace", "type", "public", "private",
      "protected", "override", "readonly", "module", "any", "number", "boolean", "string",
      "symbol", "export", "object", "new", "get", "set", "async", "static", "let"])
  | p => Untyped.meaning p

def strengths : List (List Strength) := Untyped.strengths ++ [
  [.rank "call", .rank "instantiation", .rank "unary", .rank "binary", .phrase awaitExpression,
    .phrase arrowFunction],
  [.rank "extends", .rank "instantiation"],
  [.phrase intersectionType, .phrase unionType, .phrase conditionalType, .phrase functionType,
    .rank "binary", .phrase typePredicate, .phrase readonlyType],
  [.phrase mappedTypeClause, .phrase primary],
  [.phrase accessModifier, .phrase primary],
  [.rank "void", .phrase expression],
  [.phrase extendsClause, .phrase primary],
  [.rank "unary", .rank "assign"],
  [.rank "declare", .phrase expression],
  [.phrase predefinedType, .phrase unary],
  [.phrase type, .phrase flowMaybeType],
  [.phrase tupleType, .phrase arrayType, .phrase bindingPattern, .phrase type],
  [.phrase readonlyType, .phrase bindingPattern],
  [.phrase readonlyType, .phrase primary],
  [.phrase typeQuery, .phrase subscript, .phrase expression],
  [.phrase typeQuery, .phrase subscriptQuery],
  [.phrase nestedTypeName, .phrase genericType, .phrase primaryType, .phrase lookupType,
    .phrase indexTypeQuery, .phrase type],
  [.phrase asExpression, .phrase satisfiesExpression, .phrase primaryType],
  [.phrase memberQuery, .phrase member],
  [.phrase member, .phrase memberQueryInAscription],
  [.phrase memberQuery, .phrase primary],
  [.phrase subscriptQuery, .phrase subscript],
  [.phrase subscriptQuery, .phrase primary],
  [.phrase callQuery, .phrase primary],
  [.phrase instantiationQuery, .phrase primary],
  [.phrase typeQuery, .phrase primary],
  [.phrase overrideModifier, .phrase primary],
  [.phrase decoratorCall, .phrase decorator],
  [.phrase literalType, .phrase bindingPattern],
  [.phrase predefinedType, .phrase bindingPattern],
  [.phrase call, .phrase callQuery],
  [.phrase call, .phrase callQueryInAscription],
  [.phrase newExpression, .phrase primary],
  [.phrase metaProperty, .phrase primary],
  [.phrase constructSignature, .phrase propertyName]]

def description (tsx : Bool) : Description where
  meaning := meaning tsx
  strengths := strengths
  reserved := []
  contextual := [.statementEnd, .templateText, .choiceSign, .markupComment, .markupText,
    .signatureEnd]

end Changeset.Repair.Typed
