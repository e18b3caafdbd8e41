import Dialogue.Pattern.Basic
import Dialogue.Unicode.Fold
import Dialogue.Unicode.Lookup
import Dialogue.Text.Hex

namespace Dialogue.Pattern

open Unicode Text

/-!
# Flags and escapes

* `Flags`: how what follows is to be read.
* `escape`: what a backslash and what follows it stand for.
-/

/-- How what follows is to be read. -/
structure Flags where
  ignoreCase : Bool := false
  multiLine : Bool := false
  dotAll : Bool := false
  /-- Lines end with a carriage return, a line feed or both. -/
  returns : Bool := false
  /-- Blanks and comments in the pattern do not count. -/
  spaced : Bool := false
  unicode : Bool := true
deriving Repr, DecidableEq

/-- Passes over blanks and comments. -/
def skipSpaced : List Char → List Char → List Char
  | _ :: fuel, c :: rest =>
    if isBlank c then skipSpaced fuel rest
    else if c = '#' then skipSpaced fuel ((rest.dropWhile (· != '\n')).drop 1)
    else c :: rest
  | _, cs => cs

/-- Passes over blanks and comments where they do not count. -/
def Flags.skip (f : Flags) (cs : List Char) : List Char :=
  if f.spaced then skipSpaced cs cs else cs

/-- Characters without the blanks that do not count. -/
def Flags.meant (f : Flags) (cs : List Char) : List Char :=
  if f.spaced then cs.filter fun c => !isBlank c else cs

/-! ### Sets under flags -/

namespace Flags

/-- The last code of the characters at hand. -/
def last (f : Flags) : Nat := if f.unicode then lastCode else 255

/-- A set with the characters that differ in case only, if case is disregarded. -/
def folded (f : Flags) (r : Ranges) : Ranges :=
  if f.ignoreCase then
    if f.unicode then r.closeCase
    else (r.closeCase).intersect (r.union ⟨[(65, 90), (97, 122)]⟩)
  else r

/-- A set or its complement. -/
def negated (f : Flags) (negate : Bool) (r : Ranges) : Ranges :=
  if negate then r.complement f.last else r

/-- A finished set. Without the flag for all scripts it may hold ASCII only. -/
def finish (f : Flags) (r : Ranges) : Except Fault Ranges :=
  if !f.unicode && r.spans.any (fun s => 127 < s.2) then .error .notText else .ok r

/-- The set of one character. -/
def single (f : Flags) (c : Char) : Except Fault Ranges :=
  if !f.unicode && 127 < c.toNat then .error .notUnicode else .ok (f.folded (.single c))

/-- Digits, blanks and what stands in words. -/
def shorthand (f : Flags) (c : Char) : Ranges :=
  match c.toLower, f.unicode with
  | 'd', true => digitRanges
  | 's', true => blankRanges
  | 'd', false => .between '0' '9'
  | 's', false => ⟨[(9, 13), (32, 32)]⟩
  | _, true => wordRanges
  | _, false => ⟨[(48, 57), (65, 90), (95, 95), (97, 122)]⟩

end Flags

/-! ### Escapes -/

/-- What an escape stands for. -/
inductive Escape
  | char (c : Char)
  | set (r : Ranges)
  | place (condition : Condition)
deriving Repr

/-- The value of a hexadecimal digit sequence as a character. -/
def hexChar (digits : List Char) : Except Fault Char :=
  let n := hexValue digits
  if h : n.isValidChar then .ok (Char.ofNatAux n h) else .error .escapeDigits

/-- Whether a character is a hexadecimal digit. -/
def isHexDigit (c : Char) : Bool :=
  c.isDigit || ('a' ≤ c && c ≤ 'f') || ('A' ≤ c && c ≤ 'F')

/-- Takes a number of hexadecimal digits off. -/
def fixedHex (f : Flags) : Nat → List Char → Except Fault ((List Char) × List Char)
  | 0, cs => .ok ([], cs)
  | n + 1, cs => do
    match cs with
    | [] => .error .escapeAtEnd
    | c :: rest =>
      if isHexDigit c then
        let (digits, rest) ← fixedHex f n (f.skip rest)
        return (c :: digits, rest)
      else .error .escapeDigits

/-- Takes a character off that is written by hexadecimal digits: `width` of them or, in braces, any
number. -/
def hexEscape (f : Flags) (width : Nat) (cs : List Char) : Except Fault (Char × List Char) :=
  match f.skip cs with
  | '\x7b' :: rest =>
    let digits := f.meant (rest.takeWhile (· != '\x7d'))
    match rest.dropWhile (· != '\x7d') with
    | [] => .error .escapeAtEnd
    | _ :: rest =>
      if digits.isEmpty || !digits.all isHexDigit then .error .escapeDigits
      else do return (← hexChar digits, f.skip rest)
  | cs => do
    let (digits, rest) ← fixedHex f width cs
    return (← hexChar digits, f.skip rest)

/-- The set of a property that is written as a name, or as a property with a value. -/
def propertySet? (name : String) : Option Ranges :=
  match name.splitOn "!=" with
  | property :: value :: more =>
    (setOfValue? property ("!=".intercalate (value :: more))).map (·.complement lastCode)
  | _ =>
    let cs := name.toList
    let cut (mark : Char) : Option Ranges :=
      setOfValue? (String.ofList (cs.takeWhile (· != mark)))
        (String.ofList ((cs.dropWhile (· != mark)).drop 1))
    if cs.contains ':' then cut ':'
    else if cs.contains '=' then cut '='
    else setNamed? name

/-- Takes a property off: one letter, or a name in braces. -/
def propertyEscape (f : Flags) (negate : Bool) (cs : List Char) :
    Except Fault (Escape × List Char) := do
  let (name, rest) ← (match f.skip cs with
    | [] => .error .escapeAtEnd
    | '\x7b' :: rest =>
      match rest.dropWhile (· != '\x7d') with
      | [] => .error .escapeAtEnd
      | _ :: after =>
        .ok (String.ofList (f.meant (rest.takeWhile (· != '\x7d'))), after)
    | c :: rest => if c = '\\' then .error .propertyUnknown else .ok (c.toString, f.skip rest) :
    Except Fault (String × List Char))
  if !f.unicode then .error .notUnicode
  match propertySet? name with
  | some r => return (.set (f.negated negate (f.folded r)), rest)
  | none => .error .propertyUnknown

/-- The characters that stand for themselves after a backslash: all of ASCII but letters, digits
and angle brackets. -/
def isEscapable (c : Char) : Bool :=
  c.toNat < 128 && !c.isAlphanum && c != '<' && c != '>'

/-- Whether a character may stand in the name of a word boundary. -/
def inBoundaryName (c : Char) : Bool := c.isAlpha || c == '-'

/-- Takes a word boundary off: a plain one, or one with a name in braces. Braces that cannot hold a
name stay for a repetition. -/
def boundaryEscape (f : Flags) (cs : List Char) : Except Fault (Condition × List Char) :=
  let plain : Condition := .wordBoundary !f.unicode
  match cs with
  | '\x7b' :: rest =>
    match f.skip rest with
    | [] => .error .countUnclosed
    | c :: more =>
      if inBoundaryName c then
        let inName (c : Char) : Bool := inBoundaryName c || (f.spaced && isBlank c)
        match (c :: more).dropWhile inName with
        | '\x7d' :: rest =>
          match String.ofList (f.meant ((c :: more).takeWhile inName)) with
          | "start" => .ok (.wordStart !f.unicode, rest)
          | "end" => .ok (.wordStop !f.unicode, rest)
          | "start-half" => .ok (.noWordBefore !f.unicode, rest)
          | "end-half" => .ok (.noWordAfter !f.unicode, rest)
          | _ => .error .boundaryUnknown
        | _ => .error .boundaryUnknown
      else .ok (plain, cs)
  | _ => .ok (plain, cs)

/-- The control characters with a letter of their own. -/
def controlEscape? : Char → Option Char
  | 'a' => some '\x07'
  | 'f' => some '\x0c'
  | 't' => some '\t'
  | 'n' => some '\n'
  | 'r' => some '\r'
  | 'v' => some '\x0b'
  | _ => none

/-- Takes off what follows a backslash. -/
def escape (f : Flags) : List Char → Except Fault (Escape × List Char)
  | [] => .error .escapeAtEnd
  | c :: rest =>
    if c.isDigit then .error .backReference
    else if isEscapable c then .ok (.char c, rest)
    else match controlEscape? c with
    | some control => .ok (.char control, rest)
    | none =>
      match c with
      | 'x' => (hexEscape f 2 rest).map fun r => (.char r.1, r.2)
      | 'u' => (hexEscape f 4 rest).map fun r => (.char r.1, r.2)
      | 'U' => (hexEscape f 8 rest).map fun r => (.char r.1, r.2)
      | 'p' => propertyEscape f false rest
      | 'P' => propertyEscape f true rest
      | 'd' | 's' | 'w' => .ok (.set (f.shorthand c), rest)
      | 'D' | 'S' | 'W' => .ok (.set (f.negated true (f.shorthand c)), rest)
      | 'A' => .ok (.place .start, rest)
      | 'z' => .ok (.place .stop, rest)
      | 'b' => (boundaryEscape f rest).map fun r => (.place r.1, r.2)
      | 'B' => .ok (.place (.noWordBoundary !f.unicode), rest)
      | '<' => .ok (.place (.wordStart !f.unicode), rest)
      | '>' => .ok (.place (.wordStop !f.unicode), rest)
      | _ => .error .escapeUnknown

end Dialogue.Pattern
