import Dialogue.Unicode.Ranges

namespace Dialogue

open Unicode

/-!
# Patterns

What a regular expression means, without captures and preferences: only whether a text matches is
ever asked.

* `Pattern`: sets of characters and conditions on places, put together.
* `Pattern.Condition`: what can be asked of a place in a text.
* `Pattern.Fault`, `Pattern.Error`: why a text is no pattern.
-/

namespace Pattern

/-- What can be asked of a place in a text. Words are those of all scripts or of ASCII alone. -/
inductive Condition
  | start
  | stop
  | startLine
  | stopLine
  /-- The start of a line that ends with a carriage return, a line feed or both. -/
  | startLineReturn
  | stopLineReturn
  | wordBoundary (ascii : Bool)
  | noWordBoundary (ascii : Bool)
  | wordStart (ascii : Bool)
  | wordStop (ascii : Bool)
  | noWordBefore (ascii : Bool)
  | noWordAfter (ascii : Bool)
deriving Repr, DecidableEq

end Pattern

/-- A pattern. -/
inductive Pattern
  | empty
  /-- One character of a set. -/
  | one (set : Ranges)
  /-- A condition on the place; it takes no characters. -/
  | place (condition : Pattern.Condition)
  | sequence (a b : Pattern)
  | choice (a b : Pattern)
  /-- At least `least` times, and at most `most` times if there is a bound. -/
  | times (least : Nat) (most : Option Nat) (p : Pattern)
  /-- What a capturing group holds. -/
  | captured (p : Pattern)
deriving Repr

namespace Pattern

/-- Why a text is no pattern. -/
inductive Fault
  | groupUnclosed
  | groupUnopened
  | groupName
  | groupNameTwice
  | lookAround
  | backReference
  | flagUnknown
  | flagTwice
  | flagDangling
  | nothingToRepeat
  | countUnclosed
  | countEmpty
  | countTooLarge
  | countReversed
  | escapeAtEnd
  | escapeUnknown
  | escapeDigits
  | boundaryUnknown
  | classUnclosed
  | classEscape
  | rangeEnds
  | rangeReversed
  | propertyUnknown
  | notUnicode
  | notText
  | tooDeep
deriving Repr, DecidableEq

namespace Fault

/-- The fault in words. -/
def message : Fault → String
  | groupUnclosed => "unclosed group"
  | groupUnopened => "unopened group"
  | groupName => "invalid capture group name"
  | groupNameTwice => "duplicate capture group name"
  | lookAround => "look-around, including look-ahead and look-behind, is not supported"
  | backReference => "backreferences are not supported"
  | flagUnknown => "unrecognized flag"
  | flagTwice => "duplicate flag"
  | flagDangling => "dangling flag negation operator"
  | nothingToRepeat => "repetition operator missing expression"
  | countUnclosed => "unclosed counted repetition"
  | countEmpty => "repetition quantifier expects a valid decimal"
  | countTooLarge => "invalid decimal literal"
  | countReversed => "invalid repetition count range, the start must be <= the end"
  | escapeAtEnd => "incomplete escape sequence, reached end of pattern prematurely"
  | escapeUnknown => "unrecognized escape sequence"
  | escapeDigits => "invalid hexadecimal literal"
  | boundaryUnknown => "unrecognized special word boundary assertion"
  | classUnclosed => "unclosed character class"
  | classEscape => "invalid escape sequence found in character class"
  | rangeEnds => "invalid range boundary, must be a literal"
  | rangeReversed => "invalid character class range, the start must be <= the end"
  | propertyUnknown => "Unicode property not found"
  | notUnicode => "Unicode not allowed here"
  | notText => "pattern can match invalid UTF-8"
  | tooDeep => "exceeded the maximum number of nested parentheses/brackets (250)"

end Fault

/-- Why a text cannot be used as a pattern. -/
inductive Error
  | unreadable (pattern : String) (fault : Fault)
  /-- The automaton of the pattern would be larger than the limit, in bytes. -/
  | tooLarge (limit : Nat)
deriving Repr, DecidableEq

/-- A text as error messages show it: its lines, numbered if there are several. -/
def shown (pattern : String) : String :=
  let lines := pattern.splitOn "\n"
  if lines.length ≤ 1 then "    " ++ pattern ++ "\n"
  else
    let width := (toString lines.length).length
    let rule := String.ofList (List.replicate 79 '~') ++ "\n"
    let number (n : Nat) : String :=
      String.ofList (List.replicate (width - (toString n).length) ' ') ++ toString n ++ ": "
    rule ++ String.join (lines.zipIdx.map fun l => number (l.2 + 1) ++ l.1 ++ "\n") ++ rule

/-- The error in words. -/
def Error.message : Error → String
  | unreadable pattern fault =>
    "regex parse error:\n" ++ shown pattern ++ "error: " ++ fault.message
  | tooLarge limit => "Compiled regex exceeds size limit of " ++ toString limit ++ " bytes."

end Pattern

end Dialogue
