import Dialogue.Json.Token

namespace Dialogue.Json

/-!
# Reading JSON text

Values are read off a list of tokens with a stack of the containers that are still open. One step
handles one token, so reading is a fold over the tokens, and a text that cannot be read to its end
leaves what was open as an answer of its own.

* `Reader.step`: one token.
* `readFirst`: the value at the head of a text, whatever follows it.
* `read`: a text that holds one value and nothing else.

Containers are nested at most `depthLimit` deep.
-/

/-- An open container, with its members so far in reverse. -/
inductive Frame
  | array (items : List Json)
  | object (members : List (String × Json)) (name : Option String)
deriving Repr

/-- What may come next. -/
inductive Expects
  /-- A value. -/
  | value
  /-- A value, or the end of an array without items. -/
  | firstItem
  /-- A name, or the end of an object without members. -/
  | firstName
  /-- A name. -/
  | name
  /-- The colon after a name. -/
  | colon
  /-- A comma, or the end of the innermost container. -/
  | more
deriving Repr, DecidableEq

/-- A reader in the middle of a value: the open containers, innermost first. -/
structure Reader where
  frames : List Frame := []
  expects : Expects := .value
deriving Repr

/-- What a token leads to. -/
inductive Reader.Outcome
  | going (r : Reader)
  | done (value : Json)
  | failed (fault : Fault)
deriving Repr

namespace Reader

/-- One less than the nesting that is refused. -/
def depthLimit : Nat := 127

/-- A value is complete: it becomes part of the innermost container, or the answer. -/
def complete (value : Json) : List Frame → Outcome
  | [] => .done value
  | .array items :: rest => .going ⟨.array (value :: items) :: rest, .more⟩
  | .object members name :: rest =>
    .going ⟨.object ((name.getD "", value) :: members) none :: rest, .more⟩

/-- Opens a container. -/
def openFrame (frame : Frame) (expects : Expects) (frames : List Frame) : Outcome :=
  if frames.length < depthLimit then .going ⟨frame :: frames, expects⟩ else .failed .tooDeep

/-- Reads a token where a value is expected. -/
def stepValue (frames : List Frame) : Token → Outcome
  | .openArray => openFrame (.array []) .firstItem frames
  | .openObject => openFrame (.object [] none) .firstName frames
  | .null => complete .null frames
  | .bool b => complete (.bool b) frames
  | .num n => complete (.num n) frames
  | .str s => complete (.str s) frames
  | .closeArray | .closeObject | .comma | .colon => .failed .expectedValue

/-- Reads a token where a name is expected. -/
def stepName (frames : List Frame) : Token → Outcome
  | .str s =>
    match frames with
    | .object members _ :: rest => .going ⟨.object members (some s) :: rest, .colon⟩
    | _ => .failed .expectedName
  | .closeObject => .failed .trailingComma
  | _ => .failed .expectedName

/-- Reads one token. -/
def step (r : Reader) (t : Token) : Outcome :=
  match r.expects, t, r.frames with
  | .value, .closeArray, .array _ :: _ => .failed .trailingComma
  | .value, t, frames => stepValue frames t
  | .firstItem, .closeArray, .array items :: rest => complete (.arr items.reverse) rest
  | .firstItem, t, frames => stepValue frames t
  | .firstName, .closeObject, .object members _ :: rest => complete (.obj members.reverse) rest
  | .firstName, t, frames => stepName frames t
  | .name, t, frames => stepName frames t
  | .colon, .colon, frames => .going ⟨frames, .value⟩
  | .colon, _, _ => .failed .expectedColon
  | .more, .comma, .array items :: rest => .going ⟨.array items :: rest, .value⟩
  | .more, .closeArray, .array items :: rest => complete (.arr items.reverse) rest
  | .more, .comma, .object members name :: rest => .going ⟨.object members name :: rest, .name⟩
  | .more, .closeObject, .object members _ :: rest => complete (.obj members.reverse) rest
  | .more, _, .array _ :: _ => .failed .expectedCommaOrBracket
  | .more, _, .object _ _ :: _ => .failed .expectedCommaOrBrace
  | .more, _, [] => .failed .trailingText

/-- What the text lacks where it ends. -/
def place (r : Reader) : String :=
  match r.frames, r.expects with
  | .array _ :: _, .firstItem | .array _ :: _, .more => "a list"
  | .object _ _ :: _, .firstName | .object _ _ :: _, .colon | .object _ _ :: _, .more => "an object"
  | _, _ => "a value"

/-- A reading that came to an end: a value with the tokens after it, or the fault and the reader as
it then was. -/
inductive Result
  | value (value : Json) (rest : List Token)
  | broken (fault : Fault) (reader : Reader)
deriving Repr

/-- Reads tokens until a value is complete; `ending` is the fault after the last token. -/
def run (ending : Option Fault) (r : Reader) : List Token → Result
  | [] => .broken (ending.getD (.endOfText r.place)) r
  | t :: rest =>
    match r.step t with
    | .going r => run ending r rest
    | .done value => .value value rest
    | .failed fault => .broken fault r

end Reader

/-- Where a text ends: its last line, and how many bytes that line has. -/
def endPosition (cs : List Char) : Nat × Nat :=
  cs.foldl (fun (line, column) c =>
    if c = '\n' then (line + 1, 0) else (line, column + c.utf8Size)) (1, 0)

/-- A text that is no JSON text: the fault, and for a text that ends too early its end. -/
structure ReadError where
  fault : Fault
  line : Nat
  column : Nat
deriving Repr, DecidableEq

namespace ReadError

/-- The fault in words, with the place where the text ends too early. -/
def message (e : ReadError) : String :=
  match e.fault with
  | .endOfText _ =>
    e.fault.message ++ " at line " ++ toString e.line ++ " column " ++ toString e.column
  | fault => fault.message

end ReadError

/-- Reads the value at the head of a text. -/
def readFirst (cs : List Char) : Reader.Result :=
  let (tokens, ending) := Token.scan cs
  Reader.run ending {} tokens

/-- Reads a text that holds one value. -/
def read (text : String) : Except ReadError Json :=
  let cs := text.toList
  let (tokens, ending) := Token.scan cs
  let error (fault : Fault) : ReadError :=
    let (line, column) := endPosition cs
    ⟨fault, line, column⟩
  match Reader.run ending {} tokens, ending with
  | .value value [], none => .ok value
  | .value _ (_ :: _), _ | .value _ [], some _ => .error (error .trailingText)
  | .broken fault _, _ => .error (error fault)

end Dialogue.Json
