import Dialogue.Decimal.Layout
import Dialogue.Text.Quoted

namespace Dialogue.Script

/-!
# Tokens of scripts

* `Token`: names, texts, numbers, keywords, punctuation and operators.
* `Token.describe`: how messages name a token.
* `Located`: a token with the line it begins on.
-/

/-- A token. A number is kept by its binary64 pattern. -/
inductive Token
  | ident (name : String)
  | text (value : String)
  | number (bits : UInt64)
  /-- The keyword of declarations, however it is spelled. -/
  | declare
  | ifWord
  | elseWord
  | whileWord
  | returnWord
  | throwWord
  | trueWord
  | falseWord
  | nullWord
  | undefinedWord
  | openParen
  | closeParen
  | openBrace
  | closeBrace
  | openBracket
  | closeBracket
  | comma
  | semicolon
  | dot
  | question
  | colon
  | assign
  | plusAssign
  | equal
  | strictEqual
  | notEqual
  | strictNotEqual
  | less
  | greater
  | lessEqual
  | greaterEqual
  | plus
  | minus
  | star
  | slash
  | percent
  | not
  | and
  | or
deriving Repr, DecidableEq

/-- Numbers in messages keep a fraction, and have an exponent below `1e-4` and from `1e16` on. -/
def messageNumbers : Decimal.Layout where
  least := some (-4)
  most := some 15
  pointZero := true
  tie := .up

namespace Token

/-- How messages name a token. -/
def describe : Token → String
  | ident name => "Ident(" ++ Text.quotedForMessage name ++ ")"
  | text value => "Str(" ++ Text.quotedForMessage value ++ ")"
  | number bits => "Num(" ++ String.ofList (messageNumbers.text bits) ++ ")"
  | declare => "Let"
  | ifWord => "If"
  | elseWord => "Else"
  | whileWord => "While"
  | returnWord => "Return"
  | throwWord => "Throw"
  | trueWord => "True"
  | falseWord => "False"
  | nullWord => "Null"
  | undefinedWord => "Undefined"
  | openParen => "LParen"
  | closeParen => "RParen"
  | openBrace => "LBrace"
  | closeBrace => "RBrace"
  | openBracket => "LBracket"
  | closeBracket => "RBracket"
  | comma => "Comma"
  | semicolon => "Semi"
  | dot => "Dot"
  | question => "Question"
  | colon => "Colon"
  | assign => "Assign"
  | plusAssign => "PlusAssign"
  | equal => "Eq"
  | strictEqual => "StrictEq"
  | notEqual => "Ne"
  | strictNotEqual => "StrictNe"
  | less => "Lt"
  | greater => "Gt"
  | lessEqual => "Le"
  | greaterEqual => "Ge"
  | plus => "Plus"
  | minus => "Minus"
  | star => "Star"
  | slash => "Slash"
  | percent => "Percent"
  | not => "Not"
  | and => "And"
  | or => "Or"

end Token

/-- A token with the line it begins on. -/
structure Located where
  token : Token
  line : Nat
deriving Repr, DecidableEq

/-- Why a script cannot be read. -/
inductive SyntaxFault
  | unterminatedComment
  | unterminatedText
  | templateLiteral
  | badNumber (literal : String)
  | unexpectedCharacter (c : Char)
  | nestedTooDeeply
  /-- Something else was expected than what stands there; `none` is the end of the script. -/
  | expected (what : String) (found : Option Token)
  | expectedVariableName
  | expectedPropertyName
  | invalidTarget
  | unexpectedToken (token : Token)
  | unexpectedEnd
deriving Repr, DecidableEq

namespace SyntaxFault

/-- The fault in words. -/
def message : SyntaxFault → String
  | unterminatedComment => "unterminated comment"
  | unterminatedText => "unterminated string"
  | templateLiteral => "template literals are not supported"
  | badNumber literal => "invalid number '" ++ literal ++ "'"
  | unexpectedCharacter c => "unexpected character '" ++ c.toString ++ "'"
  | nestedTooDeeply => "script is nested too deeply"
  | expected what (some token) => "expected " ++ what ++ ", found " ++ token.describe
  | expected what none => "expected " ++ what ++ ", found end of script"
  | expectedVariableName => "expected variable name"
  | expectedPropertyName => "expected property name"
  | invalidTarget => "invalid assignment target"
  | unexpectedToken token => "unexpected " ++ token.describe
  | unexpectedEnd => "unexpected end of script"

end SyntaxFault

/-- A fault and the line it is on. -/
structure SyntaxError where
  line : Nat
  fault : SyntaxFault
deriving Repr, DecidableEq

end Dialogue.Script
