import Dialogue.Decimal.Word
import Dialogue.Json.Value

namespace Dialogue

/-!
# Decoding JSON values

A value is decoded against the shape that is wanted. What does not fit is reported with the place
where it stands, and all misfits of a value are reported together.

* `Decoded`: the outcome, a value or the misfits.
* `Json.asRecord`: structures, given by name or, in an array, by position.
* `Json.Record.required`, `.optional`, `.nullable`, `.defaulted`: one field of a structure.
* `Json.variant`, `Json.tagged`: the values of an enumeration, and structures told apart by a tag.
-/

namespace Json

/-- A step into a value. -/
inductive Step
  | field (name : String)
  | item (index : Nat)
deriving Repr, DecidableEq

/-- What is wrong with a value. -/
inductive Misfit.Kind
  /-- The value is of another type, or outside the range of its type. -/
  | wrongType (wanted : String)
  /-- The structure lacks a field. -/
  | missing (name : String)
  /-- The structure has a field twice. -/
  | duplicate (name : String)
  /-- The array has more items than the structure has fields. -/
  | tooManyItems
  /-- The text names no value of the enumeration. -/
  | unknownVariant (name : String)
  /-- A part whose misfits show only when its container is complete. -/
  | unfit
deriving Repr, DecidableEq

/-- A part of a value that does not fit, with the way to it. -/
structure Misfit where
  path : List Step
  kind : Misfit.Kind
deriving Repr, DecidableEq

namespace Misfit

/-- The misfit in words. -/
def message (m : Misfit) : String :=
  match m.kind with
  | .wrongType wanted => "invalid type, expected " ++ wanted
  | .missing name => "missing field `" ++ name ++ "`"
  | .duplicate name => "duplicate field `" ++ name ++ "`"
  | .tooManyItems => "trailing characters"
  | .unknownVariant name => "unknown variant `" ++ name ++ "`"
  | .unfit => "data did not match"

end Misfit

end Json

open Json

/-- The outcome of decoding: a value, or one or more misfits. -/
inductive Decoded (α : Type) where
  | ok (value : α)
  | misfits (first : Misfit) (rest : List Misfit)
deriving Repr

namespace Decoded

variable {α β : Type}

/-- Applies a decoded function to a decoded argument; misfits of both are kept. -/
def ap (f : Decoded (α → β)) (x : Decoded α) : Decoded β :=
  match f, x with
  | .ok f, .ok x => .ok (f x)
  | .ok _, .misfits m ms => .misfits m ms
  | .misfits m ms, .ok _ => .misfits m ms
  | .misfits m ms, .misfits n ns => .misfits m (ms ++ n :: ns)

instance : Applicative Decoded where
  pure := .ok
  seq f x := f.ap (x ())
  map f x := match x with
    | .ok x => .ok (f x)
    | .misfits m ms => .misfits m ms

/-- Decodes on with the value, if there is one. -/
def andThen (x : Decoded α) (f : α → Decoded β) : Decoded β :=
  match x with
  | .ok x => f x
  | .misfits m ms => .misfits m ms

/-- A single misfit of the value itself. -/
def fail (kind : Misfit.Kind) : Decoded α := .misfits ⟨[], kind⟩ []

/-- Misfits seen from a container one step up. -/
def under (step : Step) : Decoded α → Decoded α
  | .ok x => .ok x
  | .misfits m ms =>
    let up (m : Misfit) : Misfit := ⟨step :: m.path, m.kind⟩
    .misfits (up m) (ms.map up)

/-- Misfits that show only when the whole value is complete. -/
def whenComplete : Decoded α → Decoded α
  | .ok x => .ok x
  | .misfits _ _ => fail .unfit

/-- The value, or the first misfit. -/
def toExcept : Decoded α → Except Misfit α
  | .ok x => .ok x
  | .misfits m _ => .error m

@[simp] theorem map_ok (f : α → β) (x : α) : f <$> Decoded.ok x = Decoded.ok (f x) := rfl

@[simp] theorem ap_ok (f : α → β) (x : α) :
    Decoded.ok f <*> Decoded.ok x = Decoded.ok (f x) := rfl

@[simp] theorem andThen_ok (x : α) (f : α → Decoded β) : (Decoded.ok x).andThen f = f x := rfl

@[simp] theorem under_ok (step : Step) (x : α) : (Decoded.ok x).under step = .ok x := rfl

@[simp] theorem whenComplete_ok (x : α) : (Decoded.ok x).whenComplete = .ok x := rfl

/-- A value that is turned into another was decoded first. -/
theorem map_eq_ok_iff {f : α → β} {x : Decoded α} {b : β} :
    f <$> x = .ok b ↔ ∃ a, x = .ok a ∧ f a = b := by
  constructor
  · intro h
    cases x with
    | ok a => exact ⟨a, rfl, Decoded.ok.inj h⟩
    | misfits m ms => cases h
  · rintro ⟨a, rfl, rfl⟩
    rfl

/-- Two parts are decoded if both are. -/
theorem ap_eq_ok_iff {f : Decoded (α → β)} {x : Decoded α} {b : β} :
    f <*> x = .ok b ↔ ∃ g a, f = .ok g ∧ x = .ok a ∧ g a = b := by
  constructor
  · intro h
    cases f with
    | ok g =>
      cases x with
      | ok a => exact ⟨g, a, rfl, rfl, Decoded.ok.inj h⟩
      | misfits m ms => cases h
    | misfits m ms => cases x <;> cases h
  · rintro ⟨g, a, rfl, rfl, rfl⟩
    rfl

/-- A step of the path shows in misfits only. -/
theorem under_eq_ok_iff {step : Step} {x : Decoded α} {a : α} :
    x.under step = .ok a ↔ x = .ok a := by
  constructor
  · intro h
    cases x with
    | ok b => exact h
    | misfits m ms => cases h
  · rintro rfl
    rfl

end Decoded

namespace Json

variable {α : Type}

/-! ### Plain values -/

/-- A text. -/
def asText : Json → Decoded String
  | .str s => .ok s
  | _ => .fail (.wrongType "a string")

/-- A truth value. -/
def asBool : Json → Decoded Bool
  | .bool b => .ok b
  | _ => .fail (.wrongType "a boolean")

/-- An integer between two bounds, both included. -/
def asInt (least most : Int) : Json → Decoded Int
  | .num (.int n) =>
    if least ≤ n ∧ n ≤ most then .ok n else .fail (.wrongType "an integer in range")
  | _ => .fail (.wrongType "an integer")

/-- A signed integer of 64 bits. -/
def asInt64 (j : Json) : Decoded Int := asInt Decimal.leastInteger Decimal.greatestInteger j

/-- An unsigned integer of 64 bits. -/
def asNat64 (j : Json) : Decoded Nat := Int.toNat <$> asInt 0 Decimal.greatestWord j

/-- Null, or a value. -/
def asOption (decode : Json → Decoded α) : Json → Decoded (Option α)
  | .null => .ok none
  | j => some <$> decode j

/-- The items of an array, from an index on. -/
def decodeItems (decode : Json → Decoded α) (index : Nat) : List Json → Decoded (List α)
  | [] => .ok []
  | item :: rest =>
    List.cons <$> (decode item).under (.item index) <*> decodeItems decode (index + 1) rest

/-- An array. -/
def asList (decode : Json → Decoded α) : Json → Decoded (List α)
  | .arr items => decodeItems decode 0 items
  | _ => .fail (.wrongType "an array")

/-- The members of an object. -/
def decodeMembers (decode : Json → Decoded α) :
    List (String × Json) → Decoded (List (String × α))
  | [] => .ok []
  | (name, value) :: rest =>
    (fun x xs => (name, x) :: xs) <$> (decode value).under (.field name)
      <*> decodeMembers decode rest

/-- A dictionary, from an object. Of two members with one name the later one stays. -/
def asDictionary (decode : Json → Decoded α) : Json → Decoded (Dictionary α)
  | .obj members => Dictionary.ofList <$> decodeMembers decode members
  | _ => .fail (.wrongType "a map")

/-! ### Structures -/

/-- The fields of a structure that a value gives, each with the step to it. -/
structure Record where
  byPosition : Bool
  fields : List (String × Step × Json)
deriving Repr

namespace Record

/-- Whether a name occurs among members more than once. -/
def repeated (members : List (String × Json)) (name : String) : Bool :=
  1 < (members.filter (·.1 == name)).length

/-- The names of the fields with the items of an array, in order. -/
def zipFields (index : Nat) : List String → List Json → List (String × Step × Json)
  | name :: names, item :: items => (name, .item index, item) :: zipFields (index + 1) names items
  | _, _ => []

/-- The fields by name, from an object; members of other names are passed over. -/
def ofMembers (names : List String) (members : List (String × Json)) : Decoded Record :=
  match names.find? (repeated members) with
  | some name => .fail (.duplicate name)
  | none => .ok ⟨false, members.map fun m => (m.1, .field m.1, m.2)⟩

/-- The step to a field and its value. -/
def find? (r : Record) (name : String) : Option (Step × Json) :=
  (r.fields.find? (·.1 == name)).map Prod.snd

/-- A field that must be given. -/
def required (r : Record) (name : String) (decode : Json → Decoded α) : Decoded α :=
  match r.find? name with
  | some (step, value) => (decode value).under step
  | none => .fail (.missing name)

/-- A field that may be left out, standing for a value. -/
def defaulted (r : Record) (name : String) (value : α) (decode : Json → Decoded α) :
    Decoded α :=
  match r.find? name with
  | some (step, value) => (decode value).under step
  | none => .ok value

/-- A field that may be null or left out. -/
def optional (r : Record) (name : String) (decode : Json → Decoded α) : Decoded (Option α) :=
  r.defaulted name none (asOption decode)

/-- A field that may be null; it may be left out of an object, but not of an array. -/
def nullable (r : Record) (name : String) (decode : Json → Decoded α) : Decoded (Option α) :=
  if r.byPosition then r.required name (asOption decode) else r.optional name decode

end Record

/-- A structure, from an object by name or from an array by position. Items of an array that are
left over show after all fields. -/
def asRecord (names : List String) (decode : Record → Decoded α) : Json → Decoded α
  | .obj members => (Record.ofMembers names members).andThen decode
  | .arr items =>
    let fields := decode ⟨true, Record.zipFields 0 names items⟩
    if names.length < items.length then
      (fun x (_ : Unit) => x) <$> fields <*> .fail .tooManyItems
    else fields
  | _ => .fail (.wrongType "a structure")

/-! ### Enumerations -/

/-- A value of an enumeration, by its name. -/
def variantNamed (values : List (String × α)) (name : String) : Decoded α :=
  match values.find? (·.1 == name) with
  | some (_, value) => .ok value
  | none => .fail (.unknownVariant name)

/-- A value of an enumeration: its name, or an object with the name as its only member and null
as the value. In `buffered` values the empty object counts as null. -/
def variant (buffered : Bool) (values : List (String × α)) : Json → Decoded α
  | .str name => variantNamed values name
  | .obj [(name, .null)] => variantNamed values name
  | .obj [(name, .obj [])] =>
    if buffered then variantNamed values name else .fail (.wrongType "null")
  | _ => .fail (.wrongType "the name of a variant")

/-- The name of a variant that a tag gives. In `buffered` values the position of the variant
stands for its name. -/
def tagName (buffered : Bool) (names : List String) : Json → Decoded String
  | .str name => if name ∈ names then .ok name else .fail (.unknownVariant name)
  | .num (.int n) =>
    match buffered && 0 ≤ n, names[n.toNat]? with
    | true, some name => .ok name
    | _, _ => .fail (.wrongType "a variant")
  | _ => .fail (.wrongType "a variant")

/-- A structure that has the name of its variant in a member `tag`, or as the first item of an
array. The variant is decoded from what remains. -/
def tagged (buffered : Bool) (tag : String) (variants : List (String × (Json → Decoded α))) :
    Json → Decoded α
  | .obj members =>
    if Record.repeated members tag then .fail (.duplicate tag)
    else match member? members tag with
      | none => .fail (.missing tag)
      | some name => pick name (.obj (members.filter (·.1 != tag)))
  | .arr (name :: items) => pick name (.arr items)
  | .arr [] => .fail (.missing tag)
  | _ => .fail (.wrongType "a tagged structure")
where
  /-- Decodes the variant that the tag names. -/
  pick (name rest : Json) : Decoded α :=
    (tagName buffered (variants.map Prod.fst) name).andThen fun name =>
      (variantNamed variants name).andThen fun decode => decode rest

/-! ### Encoding -/

/-- A text, or null. -/
def ofOption (encode : α → Json) : Option α → Json
  | none => .null
  | some x => encode x

/-- A member that is left out when there is no value. -/
def memberOf? (name : String) (encode : α → Json) : Option α → List (String × Json)
  | none => []
  | some x => [(name, encode x)]

/-- A dictionary as an object. -/
def ofDictionary (encode : α → Json) (d : Dictionary α) : Json :=
  .obj (d.entries.map fun e => (e.1, encode e.2))

end Json

end Dialogue
