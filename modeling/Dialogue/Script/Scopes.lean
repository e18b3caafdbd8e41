import Dialogue.Dictionary
import Dialogue.Script.Value

namespace Dialogue.Script

/-!
# Scopes

The names that a script has introduced, block by block. The globals are what lies outside all
blocks.

* `Scopes.find?`: the value of a name, from the innermost block outwards.
* `Scopes.declare`, `Scopes.assign?`, `Scopes.setGlobal`: introduce and set names.
* `Scopes.enter`, `Scopes.leave`: begin and end a block.
-/

/-- The names of one block. -/
abbrev Scope := Dictionary Value

/-- The names of all blocks that are open. -/
structure Scopes where
  /-- From the innermost block outwards. -/
  blocks : List Scope := []
  globals : Scope := .empty

namespace Scopes

/-- The value of a name. -/
def find? (s : Scopes) (name : String) : Option Value :=
  (s.blocks.findSome? (·.get? name)).or (s.globals.get? name)

/-- Introduces a name in the innermost block. -/
def declare (s : Scopes) (name : String) (value : Value) : Scopes :=
  match s.blocks with
  | [] => { s with globals := s.globals.insert name value }
  | inner :: outer => { s with blocks := inner.insert name value :: outer }

/-- Introduces a name outside all blocks. -/
def setGlobal (s : Scopes) (name : String) (value : Value) : Scopes :=
  { s with globals := s.globals.insert name value }

/-- Sets a name in the innermost block that has it. -/
def assignIn? (name : String) (value : Value) : List Scope → Option (List Scope)
  | [] => none
  | inner :: outer =>
    match inner.get? name with
    | some _ => some (inner.insert name value :: outer)
    | none => (assignIn? name value outer).map (inner :: ·)

/-- Sets a name where it was introduced. -/
def assign? (s : Scopes) (name : String) (value : Value) : Option Scopes :=
  match assignIn? name value s.blocks with
  | some blocks => some { s with blocks }
  | none => (s.globals.get? name).map fun _ => s.setGlobal name value

/-- Begins a block. -/
def enter (s : Scopes) : Scopes := { s with blocks := .empty :: s.blocks }

/-- Ends the innermost block. -/
def leave (s : Scopes) : Scopes := { s with blocks := s.blocks.tail }

end Scopes

end Dialogue.Script
