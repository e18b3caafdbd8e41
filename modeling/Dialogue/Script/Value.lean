import Dialogue.Decimal.Layout
import Dialogue.Decimal.Remainder
import Dialogue.Script.Tree
import Dialogue.Text.Search
import Dialogue.Text.Trim
import Dialogue.Unicode.Case

namespace Dialogue.Script

/-!
# Values of scripts

* `Value`: what an expression can be worth; `Host`: the objects that a script is given.
* `Value.truthy`, `Value.toNumber`, `Value.display`: the conversions.
* `Value.looselyEquals`, `Value.strictlyEquals`, `Value.compare?`: the comparisons.
* `Value.add?`, `Value.arithmetic`: the operators.
* `Number.ofText`, `Number.leadingFloat`, `Number.leadingInt`: numbers from texts.
-/

/-- The functions that a script can call by name. -/
inductive Builtin
  | getVariable
  | setVariable
  | redirect
  | string
  | number
  | boolean
  | parseInt
  | parseFloat
  | isNaN
deriving Repr, DecidableEq

namespace Builtin

/-- The name of a function. -/
def name : Builtin → String
  | getVariable => "getVariable"
  | setVariable => "setVariable"
  | redirect => "redirect"
  | string => "String"
  | number => "Number"
  | boolean => "Boolean"
  | parseInt => "parseInt"
  | parseFloat => "parseFloat"
  | isNaN => "isNaN"

/-- All functions. -/
def all : List Builtin :=
  [getVariable, setVariable, redirect, string, number, boolean, parseInt, parseFloat, isNaN]

/-- The function of a name. -/
def ofName? (name : String) : Option Builtin := all.find? (·.name == name)

end Builtin

/-- The objects that a script is given. -/
inductive Host
  | vars
  | console
  | math
  | window
  | location
  | navigator
  | document
  | function (f : Builtin)
deriving Repr, DecidableEq

/-- What an expression can be worth. -/
inductive Value
  | undefined
  | null
  | bool (b : Bool)
  | num (n : Float)
  | text (s : String)
  | host (h : Host)
deriving Repr

instance : Inhabited Value := ⟨.undefined⟩

/-- The value of a literal. -/
def Literal.value : Literal → Value
  | text s => .text s
  | number bits => .num (Float.ofBits bits)
  | bool b => .bool b
  | null => .null
  | undefined => .undefined

/-! ### Numbers and texts -/

namespace Number

/-- The value that is no number. -/
def nan : Float := Float.ofBits Decimal.notANumberBits

/-- The positive infinity. -/
def infinity : Float := Float.ofBits Decimal.infinityBits

/-- Numbers are written positionally, whole numbers without a point. -/
def layout : Decimal.Layout where
  least := none
  most := none
  pointZero := false
  tie := .up

/-- The text of a number. Both zeros are written alike. -/
def display (n : Float) : String :=
  if n.isNaN then "NaN"
  else if n.isInf then if n > 0 then "Infinity" else "-Infinity"
  else if n == 0 then "0"
  else String.ofList (layout.text n.toBits)

/-- What a numeral may consist of. -/
def inNumeral (c : Char) : Bool :=
  c.isDigit || c == '.' || c == 'e' || c == 'E' || c == '+' || c == '-'

/-- The number that a whole text stands for. Nothing but blanks is zero. -/
def ofText (s : String) : Float :=
  let cs := Text.trim s.toList
  match String.ofList cs with
  | "" => 0
  | "Infinity" | "+Infinity" => infinity
  | "-Infinity" => -infinity
  | _ => if cs.all inNumeral then (Decimal.readFloat? cs).getD nan else nan

/-- The number of the longest start of a text that is a numeral. -/
def leadingFloat (s : String) : Float :=
  let cs := Text.trimStart s.toList
  let run := cs.takeWhile inNumeral
  if run.isEmpty then
    if "Infinity".toList.isPrefixOf cs then infinity else nan
  else
    let lengths := (List.range (run.length + 1)).reverse
    (lengths.findSome? fun n => Decimal.readFloat? (run.take n)).getD nan

/-- The integer at the start of a text. -/
def leadingInt (s : String) : Float :=
  let (negative, digits) := Decimal.takeSign (Text.trimStart s.toList)
  match Decimal.readFloat? (digits.takeWhile Char.isDigit) with
  | some n => if negative then -n else n
  | none => nan

/-- The place that a number stands for; none for a negative one or a fraction. -/
def place? (n : Float) : Option Nat :=
  if n ≥ 0 ∧ n.floor == n then some n.toUInt64.toNat else none

/-- A count as a number. -/
def ofCount (n : Nat) : Float :=
  if n < 0x100000000 then Float.ofNat n else infinity

/-- The number with its places cut off. -/
def truncate (n : Float) : Float := if n < 0 then n.ceil else n.floor

/-- The remainder of a division. -/
def remainder (a b : Float) : Float := Float.ofBits (Decimal.remainderBits a.toBits b.toBits)

/-- How many places a text with fixed places gets for a given argument. -/
def places (n : Float) : Nat := min 21 n.toUInt64.toNat

/-- The text with fixed places. -/
def fixed (n : Float) (digits : Nat) : String :=
  String.ofList (Decimal.fixedText n.toBits digits)

end Number

/-! ### Conversions -/

namespace Value

/-- Whether a value counts as true. -/
def truthy : Value → Bool
  | undefined | null => false
  | bool b => b
  | num n => !(n.isNaN || n == 0)
  | text s => !s.isEmpty
  | host _ => true

/-- The number that a value stands for. -/
def toNumber : Value → Float
  | undefined | host _ => Number.nan
  | null => 0
  | bool b => if b then 1 else 0
  | num n => n
  | text s => Number.ofText s

/-- The text that a value stands for. -/
def display : Value → String
  | undefined => "undefined"
  | null => "null"
  | bool true => "true"
  | bool false => "false"
  | num n => Number.display n
  | text s => s
  | host (.function f) => "function " ++ f.name ++ "() \x7b [native code] \x7d"
  | host _ => "[object Object]"

/-- What a variable is set to. Values that stand for nothing clear it. -/
def variableText : Value → String
  | undefined | null => ""
  | v => v.display

/-- The kind of a value in messages. -/
def typeName : Value → String
  | undefined => "undefined"
  | null => "null"
  | bool _ => "boolean"
  | num _ => "number"
  | text _ => "string"
  | host (.function _) => "function"
  | host _ => "object"

/-! ### Operators -/

/-- Equality of values of one kind. -/
def strictlyEquals : Value → Value → Bool
  | undefined, undefined | null, null => true
  | bool a, bool b => a == b
  | num a, num b => a == b
  | text a, text b => a == b
  | host a, host b => a == b
  | _, _ => false

/-- Equality after conversion: what stands for nothing equals only its like, texts and objects
equal themselves, and all else is compared as numbers. -/
def looselyEquals : Value → Value → Bool
  | undefined, undefined | undefined, null | null, undefined | null, null => true
  | undefined, _ | null, _ | _, undefined | _, null => false
  | text a, text b => a == b
  | host a, host b => a == b
  | host _, _ | _, host _ => false
  | a, b => a.toNumber == b.toNumber

/-- The order of numbers; a value that is no number has none. -/
def compareNumbers (a b : Float) : Option Ordering :=
  if a < b then some .lt else if a > b then some .gt else if a == b then some .eq else none

/-- The order of values: of two texts by their characters, else as numbers. -/
def compare? : Value → Value → Option Ordering
  | text a, text b => some (if a < b then .lt else if b < a then .gt else .eq)
  | a, b => compareNumbers a.toNumber b.toNumber

/-- The size in bytes above which no text is put together. -/
def maxTextSize : Nat := 1048576

/-- A text that was put together, unless it is too long. -/
def joined? (s : String) : Option Value :=
  if maxTextSize < s.utf8ByteSize then none else some (text s)

/-- The sum of numbers, or texts put together if either operand is one. None if the text becomes
too long. -/
def add? : Value → Value → Option Value
  | text a, b => joined? (a ++ b.display)
  | a, text b => joined? (a.display ++ b)
  | a, b => some (num (a.toNumber + b.toNumber))

/-- An operator with one operand. -/
def ofUnary (op : UnaryOp) (v : Value) : Value :=
  match op with
  | .not => bool !v.truthy
  | .minus => num (-v.toNumber)
  | .plus => num v.toNumber

/-- An operator with two operands. None if a text becomes too long. -/
def ofBinary? (op : BinaryOp) (a b : Value) : Option Value :=
  match op with
  | .add => add? a b
  | .subtract => some (num (a.toNumber - b.toNumber))
  | .multiply => some (num (a.toNumber * b.toNumber))
  | .divide => some (num (a.toNumber / b.toNumber))
  | .remainder => some (num (Number.remainder a.toNumber b.toNumber))
  | .equal => some (bool (looselyEquals a b))
  | .notEqual => some (bool !looselyEquals a b)
  | .strictEqual => some (bool (strictlyEquals a b))
  | .strictNotEqual => some (bool !strictlyEquals a b)
  | .less => some (bool (compare? a b == some .lt))
  | .greater => some (bool (compare? a b == some .gt))
  | .lessEqual => some (bool ((compare? a b).any (· != .gt)))
  | .greaterEqual => some (bool ((compare? a b).any (· != .lt)))

end Value

end Dialogue.Script
