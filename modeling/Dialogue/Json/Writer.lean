import Dialogue.Json.Token

namespace Dialogue.Json

/-!
# Writing JSON text

The compact text of a value: its tokens one after the other, with nothing between them.

* `tokens`: the tokens of a value.
* `write`: its text.
-/

mutual

/-- The tokens of a value. -/
def tokens : Json → List Token
  | .null => [.null]
  | .bool b => [.bool b]
  | .num n => [.num n]
  | .str s => [.str s]
  | .arr items => .openArray :: (itemTokens items ++ [.closeArray])
  | .obj members => .openObject :: (memberTokens members ++ [.closeObject])

/-- The tokens of the items of an array. -/
def itemTokens : List Json → List Token
  | [] => []
  | [item] => tokens item
  | item :: rest => tokens item ++ .comma :: itemTokens rest

/-- The tokens of the members of an object. -/
def memberTokens : List (String × Json) → List Token
  | [] => []
  | [(name, value)] => .str name :: .colon :: tokens value
  | (name, value) :: rest => .str name :: .colon :: (tokens value ++ .comma :: memberTokens rest)

end

/-- The compact text of a value. -/
def write (value : Json) : String :=
  String.ofList ((tokens value).flatMap Token.text)

end Dialogue.Json
