import Dialogue.Script.Effects

namespace Dialogue.Script

/-!
# Calls

* `Effects.callBuiltin`: calls a function by name.
* `Effects.callMethod`: calls a method of a value.
-/

namespace Effects

variable {m : Type → Type} [Monad m] [Effects m]

/-- An argument; one that is not given is undefined. -/
def argument (args : List Value) (i : Nat) : Value := args[i]?.getD .undefined

/-- Calls a function. -/
def callBuiltin (f : Builtin) (args : List Value) : m Value :=
  let first := argument args 0
  match f with
  | .getVariable => readVariable first.display
  | .setVariable => do
    writeVariable first.display (argument args 1)
    return .undefined
  | .redirect => do
    redirect first
    return .undefined
  | .string => return .text first.display
  | .number => return .num first.toNumber
  | .boolean => return .bool first.truthy
  | .parseInt => return .num (Number.leadingInt first.display)
  | .parseFloat => return .num (Number.leadingFloat first.display)
  | .isNaN => return .bool first.toNumber.isNaN

/-- Calls a value. -/
def callValue (target : Value) (args : List Value) : m Value :=
  match target with
  | .host (.function f) => callBuiltin f args
  | v => faulty (.notAFunction v.typeName)

/-- Fails because a value has no such method. -/
def noMethod (owner name : String) : m Value :=
  faulty (.notAFunction (owner ++ "." ++ name))

/-- The result of a method of a text; `needle` is its argument. None if there is no such method. -/
def textMethod? (s : String) (name needle : String) : Option Value :=
  match name with
  | "toUpperCase" => some (.text (String.ofList (Unicode.upperText s.toList)))
  | "toLowerCase" => some (.text (String.ofList (Unicode.lowerText s.toList)))
  | "trim" => some (.text (Text.trimmed s))
  | "toString" => some (.text s)
  | "includes" => some (.bool (Text.contains s needle))
  | "startsWith" => some (.bool (needle.toList.isPrefixOf s.toList))
  | "endsWith" => some (.bool (needle.toList.isSuffixOf s.toList))
  | "indexOf" => some (.num ((Text.find? needle.toList s.toList).elim (-1) Number.ofCount))
  | _ => none

/-- The result of a method of a number. None if there is no such method. -/
def numberMethod? (n : Float) (name : String) (digits : Value) : Option Value :=
  match name with
  | "toString" => some (.text (Number.display n))
  | "toFixed" => some (.text (Number.fixed n (Number.places digits.toNumber)))
  | _ => none

/-- The least number, passing over values that are no numbers. -/
def least (ns : List Float) : Float :=
  ns.foldl (fun acc n => if n < acc then n else acc) Number.infinity

/-- The greatest number, passing over values that are no numbers. -/
def greatest (ns : List Float) : Float :=
  ns.foldl (fun acc n => if acc < n then n else acc) (-Number.infinity)

/-- The result of a mathematical function. None if there is no such function; there is none that
draws numbers at random, so that every run can be repeated. -/
def mathMethod? (name : String) (ns : List Float) : Option Float :=
  let x := ns[0]?.getD Number.nan
  let y := ns[1]?.getD Number.nan
  match name with
  | "floor" => some x.floor
  | "ceil" => some x.ceil
  | "round" => some (x + 0.5).floor
  | "trunc" => some (Number.truncate x)
  | "abs" => some x.abs
  | "sqrt" => some x.sqrt
  | "pow" => some (x.pow y)
  | "min" => some (least ns)
  | "max" => some (greatest ns)
  | _ => none

/-- Calls a method of the location. -/
def locationMethod (name : String) (args : List Value) : m Value :=
  match name with
  | "assign" | "replace" => do
    redirect (argument args 0)
    return .undefined
  | "toString" => pageText ClientContext.url
  | _ => noMethod "location" name

/-- Calls a method of a value. -/
def callMethod (receiver : Value) (name : String) (args : List Value) : m Value :=
  match receiver with
  | .text s => (textMethod? s name (argument args 0).display).elim (noMethod "string" name) pure
  | .num n => (numberMethod? n name (argument args 0)).elim (noMethod "number" name) pure
  | .host .console => return .undefined
  | .host .math =>
    (mathMethod? name (args.map Value.toNumber)).elim (noMethod "Math" name) fun n =>
      pure (.num n)
  | .host .location => locationMethod name args
  | .undefined | .null => faulty (.cannotRead receiver.display name)
  | v => noMethod v.typeName name

end Effects

end Dialogue.Script
