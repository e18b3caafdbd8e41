import Dialogue.Dictionary
import Dialogue.Script.Failure

namespace Dialogue.Script

/-!
# The variables a script has written

Writes go into an overlay, so that a script that fails leaves nothing behind. It holds the last
value of each written variable, and along with the values their size and the names in the order of
the first writes.

* `Overlay.get?`, `Overlay.write`: read a written variable, write one within the limits.
* `Overlay.bytes`: the size of all names and values.
* `Overlay.mutations`: what has been written, in the order of the first writes.
-/

/-- The limits of a script. -/
structure Limits where
  /-- The time budget in milliseconds. -/
  timeout : Nat := 250
  maxSteps : Nat := 100000
  /-- How many variables a script may write. -/
  maxVariables : Nat := 256
  /-- The size that their names and values may have together. -/
  maxVariableBytes : Nat := 2097152
deriving Repr, DecidableEq

/-- The variables that a script has written. -/
structure Overlay where
  /-- The last value of each variable. -/
  values : Dictionary String := .empty
  bytes : Nat := 0
  /-- The names, in the order of the first writes. -/
  written : List String := []
deriving DecidableEq

namespace Overlay

/-- The value that was written last. -/
def get? (o : Overlay) (name : String) : Option String := o.values.get? name

/-- The size that an overlay has after a write. -/
def bytesAfter (o : Overlay) (name value : String) : Nat :=
  match o.get? name with
  -- The name has been counted with the first write.
  | some old => o.bytes - old.utf8ByteSize + value.utf8ByteSize
  | none => o.bytes + name.utf8ByteSize + value.utf8ByteSize

/-- Sets a variable. A name that is new comes after the others. -/
def set (o : Overlay) (name value : String) : Overlay where
  values := o.values.insert name value
  bytes := o.bytesAfter name value
  written := if (o.get? name).isNone then o.written ++ [name] else o.written

/-- Writes a variable. The size is checked first, then the number of variables. -/
def write (o : Overlay) (limits : Limits) (name value : String) : Except Failure Overlay :=
  if limits.maxVariableBytes < o.bytesAfter name value then
    .error (.variableBytes limits.maxVariableBytes)
  else if (o.get? name).isNone ∧ limits.maxVariables ≤ o.written.length then
    .error (.tooManyVariables limits.maxVariables)
  else .ok (o.set name value)

/-- Takes the values of names out of a dictionary, one name after the other. A name that is not in
it is passed over. -/
def takeAll (values : Dictionary String) : List String → List (String × String)
  | [] => []
  | name :: rest =>
    match values.get? name with
    | some value => (name, value) :: takeAll (values.erase name) rest
    | none => takeAll values rest

/-- The written variables with their last values, in the order of the first writes. -/
def mutations (o : Overlay) : List (String × String) := takeAll o.values o.written

end Overlay

end Dialogue.Script
