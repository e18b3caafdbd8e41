import Dialogue.Script.Token

namespace Dialogue.Script

/-!
# How scripts fail

* `Fault`: what a script does wrong while it runs.
* `Failure`: why a script has no outcome.
* `Failure.message`: the failure in words.
-/

/-- What a script does wrong while it runs. -/
inductive Fault
  | notDefined (name : String)
  /-- Something is called that is no function. -/
  | notAFunction (what : String)
  /-- A property of what stands for nothing is read. -/
  | cannotRead (what property : String)
  /-- A property of what stands for nothing is set. -/
  | cannotSet (what property : String)
  | assignToBuiltin (name : String)
  | textTooLong
deriving Repr, DecidableEq

namespace Fault

/-- The fault in words. -/
def message : Fault → String
  | notDefined name => name ++ " is not defined"
  | notAFunction what => what ++ " is not a function"
  | cannotRead what property =>
    "Cannot read properties of " ++ what ++ " (reading '" ++ property ++ "')"
  | cannotSet what property =>
    "Cannot set properties of " ++ what ++ " (setting '" ++ property ++ "')"
  | assignToBuiltin name => "Assignment to built-in '" ++ name ++ "'"
  | textTooLong => "Invalid string length"

end Fault

/-- Why a script has no outcome. -/
inductive Failure
  | unreadable (e : SyntaxError)
  | fault (f : Fault)
  | thrown (text : String)
  /-- The time budget, in milliseconds, is used up. -/
  | timeout (budget : Nat)
  | stepLimit
  | tooManyVariables (limit : Nat)
  | variableBytes (limit : Nat)
  | unavailable (name : String)
deriving Repr, DecidableEq

/-- A number of milliseconds in words: in seconds if there are any. -/
def durationText (milliseconds : Nat) : String :=
  if milliseconds = 0 then "0ns"
  else if milliseconds < 1000 then toString milliseconds ++ "ms"
  else
    let digits := Nat.toDigits 10 (1000 + milliseconds % 1000)
    let places := (digits.drop 1).reverse.dropWhile (· == '0')
    let fraction := if places.isEmpty then "" else "." ++ String.ofList places.reverse
    toString (milliseconds / 1000) ++ fraction ++ "s"

namespace Failure

/-- The failure in words. -/
def message : Failure → String
  | unreadable e => "Syntax error on line " ++ toString e.line ++ ": " ++ e.fault.message
  | fault f => "Runtime error: " ++ f.message
  | thrown text => "Uncaught exception: " ++ text
  | timeout budget => "Script exceeded its " ++ durationText budget ++ " time budget"
  | stepLimit => "Script exceeded its step budget"
  | tooManyVariables limit => "Script wrote more than " ++ toString limit ++ " variables"
  | variableBytes limit => "Script variables exceed " ++ toString limit ++ " bytes"
  | unavailable name => name ++ " is not available in server scripts"

end Failure

end Dialogue.Script
