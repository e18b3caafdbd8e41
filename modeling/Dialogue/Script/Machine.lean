import Dialogue.Script.Effects
import Dialogue.Script.Overlay

namespace Dialogue.Script

/-!
# The state of a run

* `Context`: what a script is run against; it does not change during a run.
* `Machine`: what changes during a run.
* `Eval`: computations that read the context and change the machine, or fail.
* `Eval.tick`: one step, by which every run is bounded.
-/

/-- What a script is run against. -/
structure Context where
  vars : Dictionary String
  mode : Mode
  client : ClientContext
  limits : Limits
  /-- The time, in nanoseconds, that has passed at a step. -/
  elapsed : Nat → Nat

/-- What changes during a run. -/
structure Machine where
  steps : Nat := 0
  scopes : Scopes := {}
  overlay : Overlay := {}
  redirectUrl : Option String := none
  /-- The value of the last statement that was an expression. -/
  completion : Value := .undefined

/-- A computation of a run. -/
abbrev Eval (α : Type) := ReaderT Context (StateT Machine (Except Failure)) α

namespace Eval

/-- How many steps lie between two looks at the clock. -/
def clockInterval : Nat := 1024

/-- Takes a step, if the budgets allow it. -/
def tick : Eval Unit := fun c m =>
  let steps := m.steps + 1
  if c.limits.maxSteps < steps then .error .stepLimit
  else if steps % clockInterval = 0 ∧ c.limits.timeout * 1000000 < c.elapsed steps then
    .error (.timeout c.limits.timeout)
  else .ok ((), { m with steps })

/-- The text of a variable: what the script has written, else what the session holds. -/
def stored? (name : String) : Eval (Option String) := fun c m =>
  .ok ((m.overlay.get? name).or (c.vars.get? name), m)

/-- Writes a variable into the overlay. -/
def store (name text : String) : Eval Unit := fun c m => do
  let overlay ← m.overlay.write c.limits name text
  return ((), { m with overlay })

/-- A run has no use for the values that come up. -/
instance : Effects Eval where
  fail f := fun _ _ => .error f
  tick := tick
  stepsLeft := fun c m => .ok (c.limits.maxSteps - m.steps, m)
  note _ := fun _ m => .ok ((), m)
  stored? := stored?
  store := store
  redirectTo url := fun _ m => .ok ((), { m with redirectUrl := some url })
  complete value := fun _ m => .ok ((), { m with completion := value })
  mode := fun c m => .ok (c.mode, m)
  client := fun c m => .ok (c.client, m)
  scopes := fun _ m => .ok (m.scopes, m)
  setScopes s := fun _ m => .ok ((), { m with scopes := s })

end Eval

end Dialogue.Script
