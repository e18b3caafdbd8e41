import Dialogue.Script.Failure
import Dialogue.Script.Scopes

namespace Dialogue.Script

/-!
# The effects of a script

A script reaches what surrounds it in a few ways only. The interpreter is written against these, so
one text of it serves every notion of a computation that has them.

* `Effects`: computations that can do what a script does.
* `Effects.lookup`, `Effects.assignName`: read and set names.
* `Effects.getProperty`, `Effects.setProperty`, `Effects.getIndex`: read and set properties.
* `Effects.evaluating`: what goes with every expression.
-/

/-- Which globals a script sees. -/
inductive Mode
  /-- Those of a page as well. -/
  | client
  | server
deriving Repr, DecidableEq

/-- What is known about the page that a script runs for. -/
structure ClientContext where
  url : String := ""
  userAgent : String := ""
  language : String := ""
  referrer : String := ""
  title : String := ""
deriving Repr, DecidableEq

/-- Computations that can do what a script does. -/
class Effects (m : Type → Type) where
  /-- Fails. -/
  fail {α : Type} (f : Failure) : m α
  /-- Takes a step, if the budgets allow it. -/
  tick : m Unit
  /-- How many steps are left. -/
  stepsLeft : m Nat
  /-- Takes note of a value that has come up. -/
  note (value : Value) : m Unit
  /-- The text of a variable. -/
  stored? (name : String) : m (Option String)
  /-- Writes a variable. -/
  store (name text : String) : m Unit
  /-- Asks for a redirect. A later one takes the place of an earlier one. -/
  redirectTo (url : String) : m Unit
  /-- Sets the value that a script has if it ends without one. -/
  complete (value : Value) : m Unit
  /-- Which globals the script sees. -/
  mode : m Mode
  /-- What is known about the page. -/
  client : m ClientContext
  /-- The names that the script has introduced. -/
  scopes : m Scopes
  setScopes (s : Scopes) : m Unit

namespace Effects

variable {m : Type → Type} [Monad m] [Effects m] {α : Type}

/-- Fails by a fault of the script. -/
def faulty (f : Fault) : m α := fail (.fault f)

/-- Takes note of the value that a computation has. -/
def noting (body : m Value) : m Value := do
  let value ← body
  note value
  return value

/-- Evaluates an expression: takes a step, and takes note of its value. -/
def evaluating (body : m Value) : m Value := do
  tick
  noting body

/-! ### Variables of the session -/

/-- The value of a variable. -/
def readVariable (name : String) : m Value :=
  return (← stored? name).elim .undefined .text

/-- Sets a variable to a value. -/
def writeVariable (name : String) (value : Value) : m Unit :=
  store name value.variableText

/-- Asks for a redirect to what a value stands for. -/
def redirect (target : Value) : m Unit := redirectTo target.display

/-! ### Names -/

/-- Fails for scripts that do not run for a page. -/
def requireClient (name : String) : m Unit := do
  match ← mode with
  | .client => return
  | .server => fail (.unavailable name)

/-- A global that is there for scripts that run for a page. -/
def pageGlobal (name : String) (h : Host) : m Value := do
  requireClient name
  return .host h

/-- The value of a name that the script has not introduced. -/
def global (name : String) : m Value :=
  match name with
  | "variables" => return .host .vars
  | "console" => return .host .console
  | "Math" => return .host .math
  | "NaN" => return .num Number.nan
  | "Infinity" => return .num Number.infinity
  | "window" => pageGlobal name .window
  | "location" => pageGlobal name .location
  | "navigator" => pageGlobal name .navigator
  | "document" => pageGlobal name .document
  | _ =>
    match Builtin.ofName? name with
    | some f => return .host (.function f)
    | none => faulty (.notDefined name)

/-- The value of a name. -/
def lookup (name : String) : m Value := do
  match (← scopes).find? name with
  | some value => return value
  | none => global name

/-- Introduces a name in the innermost block. -/
def introduce (name : String) (value : Value) : m Unit := do
  setScopes ((← scopes).declare name value)

/-- Sets a name that the script has not introduced. One that is no global becomes one. -/
def assignGlobal (name : String) (value : Value) : m Unit :=
  match name with
  | "location" => do
    requireClient name
    redirect value
  | "variables" | "console" | "Math" | "window" | "navigator" | "document" =>
    faulty (.assignToBuiltin name)
  | _ => do setScopes ((← scopes).setGlobal name value)

/-- Sets a name. -/
def assignName (name : String) (value : Value) : m Unit := do
  match (← scopes).assign? name value with
  | some s => setScopes s
  | none => assignGlobal name value

/-- Runs a computation in a block of its own. -/
def inBlock (body : m α) : m α := do
  setScopes (← scopes).enter
  let result ← body
  setScopes (← scopes).leave
  return result

/-! ### Properties -/

/-- A property of what is known about the page. -/
def pageText (part : ClientContext → String) : m Value :=
  return .text (part (← client))

/-- The value of a property. -/
def getProperty (object : Value) (property : String) : m Value :=
  match object, property with
  | .undefined, _ | .null, _ => faulty (.cannotRead object.display property)
  | .text s, "length" => return .num (Number.ofCount s.length)
  | .host .vars, name => readVariable name
  | .host .window, "location" | .host .document, "location" => return .host .location
  | .host .window, "navigator" => return .host .navigator
  | .host .window, "document" => return .host .document
  | .host .location, "href" | .host .document, "URL" => pageText ClientContext.url
  | .host .navigator, "userAgent" => pageText ClientContext.userAgent
  | .host .navigator, "language" => pageText ClientContext.language
  | .host .document, "referrer" => pageText ClientContext.referrer
  | .host .document, "title" => pageText ClientContext.title
  | .host .math, "PI" => return .num 3.141592653589793
  | .host .math, "E" => return .num 2.718281828459045
  | _, _ => return .undefined

/-- Sets a property. A property that is not for scripts to set stays as it is. -/
def setProperty (object : Value) (property : String) (value : Value) : m Unit :=
  match object, property with
  | .host .vars, name => writeVariable name value
  | .host .location, "href" | .host .window, "location" | .host .document, "location" =>
    redirect value
  | .undefined, _ | .null, _ => faulty (.cannotSet object.display property)
  | _, _ => return

/-- The value at an index: a character of a text, else the property that the index spells. -/
def getIndex (object index : Value) : m Value :=
  match object, index with
  | .text s, .num n =>
    return ((Number.place? n).bind (s.toList[·]?)).elim .undefined fun c => .text c.toString
  | _, _ => getProperty object index.display

end Effects

end Dialogue.Script
