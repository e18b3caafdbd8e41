import Dialogue.Decimal.Order
import Dialogue.Flow.Definition
import Dialogue.Text.Trim

namespace Dialogue.Session

open Dialogue.Flow Unicode

/-!
# Answers

What an answer must look like to be accepted.

* `isEmail`, `isPhone`, `isUrl`: the written forms.
* `accepts`: whether an answer is accepted; a blank one never is.
-/

/-- Text before and after an at sign, with a point inside what follows it, and no blanks. -/
def isEmail (cs : List Char) : Bool :=
  let inPart (c : Char) : Bool := !isBlank c && c != '@'
  let (name, rest) := (cs.takeWhile inPart, cs.dropWhile inPart)
  match rest with
  | '@' :: domain =>
    !name.isEmpty && domain.all inPart && (domain.drop 1).dropLast.contains '.'
  | _ => false

/-- Digits, blanks, parentheses, points and hyphens, with a plus sign before them if need be, and
-- The point may not be the first or the last character behind the sign.
between 6 and 15 digits. -/
def isPhone (cs : List Char) : Bool :=
  let number := match cs with
    | '+' :: rest => rest
    | cs => cs
  let digits := (cs.filter Char.isDigit).length
  !number.isEmpty && number.all (fun c => c.isDigit || c ∈ [' ', '(', ')', '.', '-']) &&
    6 ≤ digits && digits ≤ 15

/-- Passes over the name of a web protocol. -/
def skipProtocol (cs : List Char) : List Char :=
  let isLetter (letter c : Char) : Bool := c.toLower == letter || (letter == 's' && c == 'ſ')
  -- The name is compared without regard to case, for which the long s is an s.
  let afterName := match cs with
    | h :: t :: t' :: p :: rest =>
      if isLetter 'h' h && isLetter 't' t && isLetter 't' t' && isLetter 'p' p then some rest
      else none
    | _ => none
  match afterName with
  | some (':' :: '/' :: '/' :: rest) => rest
  | some (s :: ':' :: '/' :: '/' :: rest) => if isLetter 's' s then rest else cs
  | _ => cs

/-- What may stand between the points of a host name. -/
def inHostPart (c : Char) : Bool := isWord c || c == '-'

/-- Takes the parts of a host name off, after their number: each part ends with the next point. -/
def hostParts (parts : Nat) : List Char → List Char → Option (Nat × List Char)
  | [], _ => none
  | _ :: fuel, cs =>
    if (cs.takeWhile inHostPart).isEmpty then none
    else match cs.dropWhile inHostPart with
    | '.' :: rest => hostParts (parts + 1) fuel rest
    | rest => some (parts + 1, rest)

/-- Passes over a port number; none if it has no digits. -/
def skipPort : List Char → Option (List Char)
  | ':' :: rest =>
    if (rest.takeWhile Category.decimalNumber.has).isEmpty then none
    else some (rest.dropWhile Category.decimalNumber.has)
  | cs => some cs

/-- A host name of several parts, with a protocol, a port number and a path if need be. -/
def isUrl (cs : List Char) : Bool :=
  let host := skipProtocol cs
  match hostParts 0 host host with
  | none => false
  | some (parts, rest) =>
    2 ≤ parts && match skipPort rest with
      | none => false
      | some [] => true
      | some (c :: path) => c ∈ ['/', '?', '#'] && path.all fun c => !isBlank c

/-- Whether an answer has the form that is asked for. -/
def hasForm : Validation → String → Bool
  | .number, answer => (Decimal.finite? answer).isSome
  | .email, answer => isEmail answer.toList
  | .phone, answer => isPhone answer.toList
  | .url, answer => isUrl answer.toList

/-- Whether an answer is accepted, without regard to blanks around it. A blank one never is. -/
def accepts (validation : Option Validation) (answer : String) : Bool :=
  let answer := Text.trimmed answer
  answer != "" && validation.all (hasForm · answer)

end Dialogue.Session
