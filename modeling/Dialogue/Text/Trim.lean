import Dialogue.Unicode.Classes

namespace Dialogue.Text

/-!
# Blanks at the ends of texts

* `trimStart`, `trimEnd`: without the blanks at one end.
* `trim`: without the blanks at both ends.
-/

/-- Without the blanks at the start. -/
def trimStart (cs : List Char) : List Char := cs.dropWhile Unicode.isBlank

/-- Without the blanks at the end. -/
def trimEnd (cs : List Char) : List Char := (cs.reverse.dropWhile Unicode.isBlank).reverse

/-- Without the blanks at both ends. -/
def trim (cs : List Char) : List Char := trimEnd (trimStart cs)

/-- A text without the blanks at both ends. -/
def trimmed (s : String) : String := String.ofList (trim s.toList)

/-- Whether a text holds nothing but blanks. -/
def isBlankText (s : String) : Bool := s.toList.all Unicode.isBlank

end Dialogue.Text
