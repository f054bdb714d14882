import Changeset.Script.Lexeme

/-!
# Terminals

The tokens that grammars are made of, and what each of them looks like.
-/

namespace Changeset.Repair

open Script

inductive Terminal where
  | finish
  | literal (text : String)
  | word
  | privateWord
  | number
  | interpreterLine
  | comment
  | doubleText | singleText | escapeText
  | pattern | patternEnd | patternFlags
  | optionalSign
  | tagWord
  | entity
  | doubleTagText | singleTagText
  | statementEnd
  /-- A semicolon left out behind the head of a function. -/
  | signatureEnd
  | templateText
  | choiceSign
  | markupComment
  | markupText
  deriving DecidableEq, Repr

namespace Terminal

def name : Terminal → String
  | finish => "end"
  | literal text => text
  | word => "identifier"
  | privateWord => "private_property_identifier"
  | number => "number"
  | interpreterLine => "hash_bang_line"
  | comment => "comment"
  | doubleText | singleText | doubleTagText | singleTagText | templateText => "string_fragment"
  | escapeText => "escape_sequence"
  | pattern => "regex_pattern"
  | patternEnd => "/"
  | patternFlags => "regex_flags"
  | optionalSign => "optional_chain"
  | tagWord => "identifier"
  | entity => "html_character_reference"
  | statementEnd => "_automatic_semicolon"
  | signatureEnd => "_function_signature_automatic_semicolon"
  | choiceSign => "?"
  | markupComment => "html_comment"
  | markupText => "jsx_text"

/-- Tokens that the place decides on, and not only the characters ahead. -/
def isContextual : Terminal → Bool
  | statementEnd | signatureEnd | templateText | choiceSign | markupComment | markupText => true
  | _ => false

/-- Tokens that begin directly behind the one before them. -/
def isAttached : Terminal → Bool
  | doubleText | singleText | escapeText | pattern | patternEnd | patternFlags
  | doubleTagText | singleTagText => true
  | _ => false

/-- Tokens that are looked for while tokens are skipped, where no place asks for any. -/
def isLoose : Terminal → Bool
  | doubleText | singleText | doubleTagText | singleTagText | patternFlags | tagWord | entity
  | interpreterLine => false
  | literal text => !(["</", "/>", "?:"].contains text)
  | t => !t.isContextual

def isHidden : Terminal → Bool
  | statementEnd | signatureEnd => true
  | _ => false

def isKeyword : Terminal → Bool
  | literal text =>
    match text.toList with
    | [] => false
    | c :: cs => (isWordStart c) && cs.all isWordPart
  | _ => false

end Terminal

end Changeset.Repair
