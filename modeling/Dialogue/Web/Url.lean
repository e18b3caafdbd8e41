import Dialogue.Text.Hex

namespace Dialogue.Web

/-!
# Request targets

A target is a path, and after a question mark a query. Bytes may be written as a percent sign with
two hexadecimal digits.

* `percentDecode`: the bytes that are meant.
* `Target.ofText`: the segments of the path and the query, as they are written.
* `decodeSegment?`: the text of a segment.
* `parameters`: the names and values of a query.
-/

/-- The value of the hexadecimal digit that a byte stands for. -/
def hexByte? (b : UInt8) : Option Nat := Text.hexDigit? (Char.ofNat b.toNat)

/-- The bytes that are meant. A percent sign without two digits stands for itself. -/
def percentDecode : List UInt8 → List UInt8
  | [] => []
  | 0x25 :: a :: b :: rest =>
    match hexByte? a, hexByte? b with
    | some x, some y => UInt8.ofNat (16 * x + y) :: percentDecode rest
    | _, _ => 0x25 :: percentDecode (a :: b :: rest)
  | b :: rest => b :: percentDecode rest

/-- The text of bytes, if they are one in UTF-8. -/
def textOfBytes? (bytes : List UInt8) : Option String := String.fromUTF8? ⟨bytes.toArray⟩

/-- The text of a segment of a path. -/
def decodeSegment? (written : String) : Option String :=
  textOfBytes? (percentDecode written.toUTF8.toList)

/-- The text of a name or value of a query; a plus sign is a blank. -/
def decodeParameter? (written : List Char) : Option String :=
  let plain := String.ofList (written.map fun c => if c = '+' then ' ' else c)
  textOfBytes? (percentDecode plain.toUTF8.toList)

/-- The names and values of a query, as far as they are texts. A name without an equals sign has
the empty value. -/
def parameters (query : String) : List (Option String × Option String) :=
  ((query.splitOn "&").filter (· != "")).map fun part =>
    let cs := part.toList
    (decodeParameter? (cs.takeWhile (· != '=')),
      decodeParameter? ((cs.dropWhile (· != '=')).drop 1))

/-- What a request is directed to. -/
structure Target where
  /-- What stands between the slashes of the path. -/
  segments : List String
  query : String
deriving Repr, DecidableEq

/-- The target that a text writes; what follows a number sign does not count. -/
def Target.ofText (text : String) : Target :=
  let cs := text.toList.takeWhile (· != '#')
  { segments := (String.ofList (cs.takeWhile (· != '?'))).splitOn "/"
    query := String.ofList ((cs.dropWhile (· != '?')).drop 1) }

end Dialogue.Web
