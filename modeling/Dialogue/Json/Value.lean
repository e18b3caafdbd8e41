import Dialogue.Dictionary

namespace Dialogue

/-!
# JSON values

* `Json`: the values. The members of an object keep their order, and a name may occur twice.
* `Json.Number`: integers of 64 bits, signed or not, and binary64 values by their bit patterns, so
  that two numbers are equal exactly when they are written alike.
* `Json.canonical`: the value with every object sorted by name, the last of two equal names kept.
-/

/-- A number. -/
inductive Json.Number
  | int (n : Int)
  | float (bits : UInt64)
deriving Repr, DecidableEq

/-- A JSON value. -/
inductive Json
  | null
  | bool (b : Bool)
  | num (n : Json.Number)
  | str (s : String)
  | arr (items : List Json)
  | obj (members : List (String × Json))
deriving Repr, Inhabited

namespace Json

/-- An integer. -/
def int (n : Int) : Json := .num (.int n)

/-- The first member of a name. -/
def member? (members : List (String × Json)) (name : String) : Option Json :=
  (members.find? (·.1 == name)).map Prod.snd

/-- Members sorted by name. Of two members with one name the later one stays. -/
def sortMembers (members : List (String × Json)) : List (String × Json) :=
  members.foldl (fun sorted m => Dictionary.insertEntry m.1 m.2 sorted) []

mutual

/-- The value with all objects sorted by name. -/
def canonical : Json → Json
  | .arr items => .arr (canonicalItems items)
  | .obj members => .obj (sortMembers (canonicalMembers members))
  | .null => .null
  | .bool b => .bool b
  | .num n => .num n
  | .str s => .str s

/-- The items of an array, each with its objects sorted. -/
def canonicalItems : List Json → List Json
  | [] => []
  | item :: rest => canonical item :: canonicalItems rest

/-- The members of an object, each with its objects sorted. -/
def canonicalMembers : List (String × Json) → List (String × Json)
  | [] => []
  | (name, value) :: rest => (name, canonical value) :: canonicalMembers rest

end

end Json

end Dialogue
