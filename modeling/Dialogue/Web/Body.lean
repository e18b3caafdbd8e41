import Dialogue.Json.Decode
import Dialogue.Json.Reader

namespace Dialogue.Web

open Json

/-!
# Bodies of requests

A body is decoded while it is read, so of two faults the one that stands first in the text counts.
What follows the value is not read.

* `Refusal`: why a body is refused.
* `decodeBody`: the value of a body.
-/

/-- Why a body is refused. -/
inductive Refusal
  /-- The text is no JSON text. -/
  | malformed
  /-- The value is not of the shape that is wanted. -/
  | misshapen
deriving Repr, DecidableEq

/-- A place in a text: the positions of the parts on the way to it, from the outermost on. Places
come in the order of the text. -/
abbrev Place := List Nat

/-- The place of a part of a value, and the part. -/
def partAt : Json → List Json.Step → Place × Json
  | .arr items, .item i :: way =>
    let (place, part) := partAt (items[i]?.getD .null) way
    (i :: place, part)
  | .obj members, .field name :: way =>
    let (place, part) := partAt ((member? members name).getD .null) way
    (members.findIdx (·.1 == name) :: place, part)
  | j, _ => ([], j)

/-- How many parts a value has. -/
def partCount : Json → Nat
  | .arr items => items.length
  | .obj members => members.length
  | _ => 0

/-- Where a name occurs the second time. -/
def secondPlace (name : String) : Json → Nat
  | .obj members =>
    let first := members.findIdx (·.1 == name)
    first + 1 + (members.drop (first + 1)).findIdx (·.1 == name)
  | _ => 0

/-- Where a misfit shows. What lacks something shows at its end. -/
def placeOf (j : Json) (m : Misfit) : Place :=
  let (place, part) := partAt j m.path
  match m.kind with
  | .wrongType _ | .unknownVariant _ => place
  | .missing _ | .unfit | .tooManyItems => place ++ [partCount part]
  | .duplicate name => place ++ [secondPlace name part]

/-- Whether a misfit shows before the place where the text breaks off. A name that occurs twice
shows as soon as it is read. -/
def showsBefore (limit : Option Place) (place : Place) (m : Misfit) : Bool :=
  match limit, m.kind with
  | none, _ => true
  | some limit, .duplicate _ => place < limit || place = limit
  | some limit, _ => place < limit

/-- The misfit that shows first. -/
def firstMisfit (j : Json) (limit : Option Place) (misfits : List Misfit) : Option Misfit :=
  let shown := (misfits.map fun m => (placeOf j m, m)).filter fun (place, m) =>
    showsBefore limit place m
  let earlier (a b : Place × Misfit) : Place × Misfit := if b.1 < a.1 then b else a
  match shown with
  | [] => none
  | first :: rest => some (rest.foldl earlier first).2

/-- What the containers that are open hold, closed where they are, and the place where they are
open. -/
def closeFrames (inner : Option Json) (place : Place) : List Frame → Option Json × Place
  | [] => (inner, place)
  | .array items :: outer =>
    closeFrames (some (.arr (items.reverse ++ inner.toList))) (items.length :: place) outer
  | .object members name :: outer =>
    let last := name.map fun name => (name, inner.getD .null)
    closeFrames (some (.obj (members.reverse ++ last.toList))) (members.length :: place) outer

/-- Decodes what is read of a text that breaks off at `limit`, if it does. -/
def decodeRead {α : Type} (decode : Json → Decoded α) (j : Json) (limit : Option Place) :
    Except Refusal α :=
  match decode j, limit with
  | .ok a, none => .ok a
  | .ok _, some _ => .error .malformed
  | .misfits m ms, limit =>
    match (firstMisfit j limit (m :: ms)).map Misfit.kind with
    | none | some .tooManyItems => .error .malformed
    | some _ => .error .misshapen

/-- The value of a body. -/
def decodeBody {α : Type} (decode : Json → Decoded α) (text : String) : Except Refusal α :=
  match readFirst text.toList with
  | .value j _ => decodeRead decode j none
  | .broken _ reader =>
    match closeFrames none [] reader.frames with
    | (some j, place) => decodeRead decode j (some place)
    | (none, _) => .error .malformed

end Dialogue.Web
