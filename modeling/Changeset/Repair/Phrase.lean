/-!
# Phrases

The parts that programs are made of, in the order in which a grammar describes
them. Some are only ways to say that one of several parts can stand somewhere;
those are not seen in what is read.
-/

namespace Changeset.Repair

inductive Phrase where
  | program
  | interpreterLine
  | exportStatement
  | spaceExport
  | exportClause
  | exportSpecifier
  | moduleName
  | declaration
  | importWord
  | importStatement
  | importClause
  | fromClause
  | spaceImport
  | namedImports
  | importSpecifier
  | importAttribute
  | statement
  | expressionStatement
  | variableDeclaration
  | lexicalDeclaration
  | usingDeclaration
  | variableDeclarator
  | block
  | elseClause
  | ifStatement
  | switchStatement
  | forStatement
  | forInStatement
  | forHead
  | whileStatement
  | doStatement
  | tryStatement
  | withStatement
  | breakStatement
  | continueStatement
  | debuggerStatement
  | returnStatement
  | throwStatement
  | emptyStatement
  | labeledStatement
  | switchBody
  | switchCase
  | switchDefault
  | catchClause
  | finallyClause
  | parenthesized
  | expressions
  | expression
  | primary
  | yieldExpression
  | object
  | objectPattern
  | assignmentPattern
  | objectAssignmentPattern
  | array
  | arrayPattern
  | markup
  | markupElement
  | entity
  | markupExpression
  | markupChild
  | openingTag
  | tagWord
  | tagIdentifier
  | nestedIdentifier
  | spaceName
  | tagName
  | closingTag
  | selfClosingTag
  | tagAttributeForm
  | attributeName
  | tagAttribute
  | tagString
  | doubleTagText
  | singleTagText
  | attributeValue
  | classExpression
  | classDeclaration
  | classHeritage
  | functionExpression
  | functionDeclaration
  | generatorExpression
  | generatorDeclaration
  | arrowFunction
  | callSignature
  | formalParameter
  | optionalSign
  | call
  | newExpression
  | awaitExpression
  | member
  | subscript
  | target
  | assignment
  | updateTarget
  | augmentedAssignment
  | initializer
  | destructuring
  | spread
  | ternary
  | binary
  | unary
  | update
  | sequence
  | string
  | doubleText
  | singleText
  | escapeText
  | comment
  | template
  | substitution
  | regex
  | pattern
  | patternFlags
  | number
  | name
  | word
  | privateWord
  | metaProperty
  | thisWord
  | superWord
  | trueWord
  | falseWord
  | nullWord
  | undefinedWord
  | arguments
  | decorator
  | decoratorMember
  | decoratorCall
  | classBody
  | fieldDefinition
  | formalParameters
  | staticBlock
  | bindingPattern
  | restPattern
  | methodDefinition
  | pair
  | pairPattern
  | propertyName
  | computedName
  | reservedName
  | semicolon
  -- of the typed grammars
  | publicField
  | openingTagStart
  | importName
  | nonNull
  | methodSignature
  | abstractSignature
  | functionSignature
  | decoratorParenthesized
  | typeAssertion
  | asExpression
  | satisfiesExpression
  | instantiation
  | importRequire
  | extendsClause
  | extendsSingle
  | implementsClause
  | ambientDeclaration
  | abstractClass
  | moduleDeclaration
  | internalModule
  | moduleForm
  | importAlias
  | nestedTypeName
  | interfaceDeclaration
  | extendsType
  | enumDeclaration
  | enumBody
  | enumAssignment
  | typeAlias
  | accessModifier
  | overrideModifier
  | requiredParameter
  | optionalParameter
  | parameterName
  | omittingAscription
  | addingAscription
  | optingAscription
  | typeAscription
  | memberQueryInAscription
  | callQueryInAscription
  | assertsClause
  | assertsAscription
  | type
  | tupleParameter
  | optionalTupleParameter
  | optionalType
  | restType
  | tupleMember
  | constructorType
  | primaryType
  | templateTypePart
  | templateType
  | inferType
  | conditionalType
  | genericType
  | typePredicate
  | typePredicateAscription
  | memberQuery
  | subscriptQuery
  | callQuery
  | instantiationQuery
  | typeQuery
  | indexTypeQuery
  | lookupType
  | mappedTypeClause
  | literalType
  | signedNumber
  | existentialType
  | flowMaybeType
  | parenthesizedType
  | predefinedType
  | typeArguments
  | objectType
  | callSignatureMember
  | propertySignature
  | typeParameters
  | typeParameter
  | defaultType
  | constraint
  | constructSignature
  | indexSignature
  | arrayType
  | tupleType
  | readonlyType
  | unionType
  | intersectionType
  | functionType
  | typeName
  deriving DecidableEq

namespace Phrase

def isHidden : Phrase → Bool
  | moduleName | declaration | fromClause | statement | forHead | expressions | expression | primary
  | updateTarget | initializer | destructuring | bindingPattern | propertyName => true
  | callSignature | formalParameter | parameterName | type | primaryType | moduleForm | tupleMember
  | extendsSingle | importName => true
  | _ => false

end Phrase

end Changeset.Repair
