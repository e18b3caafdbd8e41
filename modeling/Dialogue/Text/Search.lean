namespace Dialogue.Text

/-!
# Finding a text in another

* `find?`: the place of the first occurrence, counted in characters.
* `contains`: whether a text occurs.
-/

/-- The place of the first occurrence of `needle` in a text that begins at `place`. -/
def findFrom (needle : List Char) (place : Nat) : List Char → Option Nat
  | [] => if needle.isEmpty then some place else none
  | c :: rest =>
    if needle.isPrefixOf (c :: rest) then some place else findFrom needle (place + 1) rest

/-- The place of the first occurrence. The empty text occurs at the start. -/
def find? (needle cs : List Char) : Option Nat := findFrom needle 0 cs

/-- Whether a text occurs in another. -/
def contains (text needle : String) : Bool := (find? needle.toList text.toList).isSome

end Dialogue.Text
