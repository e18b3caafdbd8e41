import Dialogue.Decimal.Shortest
import Dialogue.Text.Hex
import Dialogue.Unicode.Classes

namespace Dialogue.Text

/-!
# Quoted text in messages

A text that a message quotes stands between double quotes. Quotes and backslashes are escaped, the
line feed, the carriage return, the tab and the null character have escapes of one letter, and
every other character without a visible form of its own is written by its number.

* `quotedForMessage`: the quoted form of a text.
-/

/-- The hexadecimal digits of a number. -/
def hexText (n : Nat) : List Char :=
  (Nat.toDigits 16 n).map fun c => hexChar ((hexDigit? c).getD 0)

/-- A character by its number. -/
def numberedChar (c : Char) : List Char :=
  '\\' :: 'u' :: '\x7b' :: (hexText c.toNat ++ ['\x7d'])

/-- A character inside the quotes. -/
def quotedChar (c : Char) : List Char :=
  match c with
  | '"' => ['\\', '"']
  | '\\' => ['\\', '\\']
  | '\n' => ['\\', 'n']
  | '\r' => ['\\', 'r']
  | '\t' => ['\\', 't']
  | '\x00' => ['\\', '0']
  | c => if Unicode.isGraphemeExtend c || !Unicode.isPrintable c then numberedChar c else [c]

/-- A text in quotes. -/
def quotedForMessage (text : String) : String :=
  String.ofList ('"' :: (text.toList.flatMap quotedChar ++ ['"']))

end Dialogue.Text
