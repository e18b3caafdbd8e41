namespace Dialogue.Web

/-!
# Media types

A media type is written as a type and a subtype with a slash between them, and parameters after
semicolons.

* `isJsonType`: whether a media type is one of JSON texts.
-/

/-- What names are made of. -/
def isNameChar (c : Char) : Bool :=
  c.isAlphanum ||
    c ∈ ['!', '#', '$', '%', '&', '\'', '*', '+', '-', '.', '^', '_', '\x60', '|', '~']

/-- What may stand between quotation marks. -/
def isQuotable (c : Char) : Bool := ' ' ≤ c && c < '\x7f' && c != '"'

/-- Passes over the value of a parameter, up to the semicolon behind it or the end. -/
def skipValue? : List Char → Option (List Char)
  | '"' :: cs =>
    match cs.takeWhile isQuotable, cs.dropWhile isQuotable with
    | [], _ => none
    | _, '"' :: rest =>
      match rest.dropWhile (· == ' ') with
      | [] => some []
      | ';' :: rest => some rest
      | _ => none
    | _, _ => none
  | cs =>
    match cs.takeWhile isNameChar, cs.dropWhile isNameChar with
    | _, [] => some []
    | _ :: _, ';' :: rest => some rest
    | _, _ => none

/-- Passes over a parameter with the blanks before it; nothing is left behind the last one. -/
def skipParameter? (cs : List Char) : Option (List Char) :=
  let cs := cs.dropWhile (· == ' ')
  match cs, cs.takeWhile isNameChar, cs.dropWhile isNameChar with
  | [], _, _ => some []
  | _, _ :: _, '=' :: rest => skipValue? rest
  | _, _, _ => none

/-- Whether a text consists of parameters. Each takes a character at least, so `fuel` need not
exceed the length of the text. -/
def areParameters : Nat → List Char → Bool
  | _, [] => true
  | 0, _ => false
  | fuel + 1, cs => (skipParameter? cs).any (areParameters fuel)

/-- Whether a subtype is that of JSON texts, by itself or as the form that another type is written
in, which its last part after a plus sign names. -/
def isJsonSubtype (cs : List Char) : Bool :=
  let json := ['j', 's', 'o', 'n']
  let form := (cs.reverse.takeWhile (· != '+')).reverse
  let base := cs.take (cs.length - form.length - 1)
  if base = [] then cs = json else form = json || base = json

/-- Whether a media type is one of JSON texts. -/
def isJsonType (text : String) : Bool :=
  let cs := text.toLower.toList
  match cs.takeWhile isNameChar, cs.dropWhile isNameChar with
  | main, '/' :: rest =>
    let parameters := rest.dropWhile isNameChar
    main = "application".toList && isJsonSubtype (rest.takeWhile isNameChar) &&
      match parameters with
      | [] => true
      | ';' :: parameters => areParameters parameters.length parameters
      | _ => false
  | _, _ => false

end Dialogue.Web
