import Dialogue.Flow.Graph
import Dialogue.Pattern.Engine
import Dialogue.Script.Run
import Dialogue.Session.State
import Dialogue.Text.Template

namespace Dialogue.Session

open Dialogue.Flow Time

/-!
# Turns

A turn takes a session from one point of rest to the next. It works on a copy of the session and
collects what is said and offered; a turn that fails leaves the session as it was.

* `Environment`: what a turn consults, the time, scripts, limits and random tokens among it.
* `Turn`: a turn under way.
* `Turn.say`, `Turn.ask`, `Turn.offer`: what a turn gives the user.
* `Turn.followExit`: leaves a node by one of its handles.
* `Step`, `Visit`: what comes after a node, and after a container.
-/

/-- What becomes of a turn whose script fails. -/
inductive FailurePolicy
  /-- The node is passed over. -/
  | skip
  /-- The turn fails. -/
  | retry
deriving Repr, DecidableEq

/-- What a turn consults. -/
structure Environment where
  now : Instant
  /-- What builds the patterns of comparisons. -/
  patterns : Pattern.Engine
  /-- What runs the scripts of a turn: one after the other, each with a clock of its own. -/
  sandbox : Nat → Script.Sandbox
  client : Script.ClientContext := {}
  /-- How many times a turn may go from one container to another. -/
  maxHops : Nat := 64
  policy : FailurePolicy := .skip
  /-- The random tokens, in the order in which they are drawn. -/
  token : Nat → String

namespace Environment

/-- The date some days after today; today if there is no such date. -/
def dateText (env : Environment) (days : Int) : String :=
  let date := Date.ofDays (env.now.days + days)
  String.ofList (if Instant.yearInRange date.year then date else Date.ofDays env.now.days).text

end Environment

/-- Why a turn fails. -/
inductive Error
  | graph (e : GraphError)
  | script (nodeId : String) (failure : Script.Failure)
deriving Repr, DecidableEq

namespace Error

/-- The error in words. -/
def message : Error → String
  | graph e => e.message
  | script nodeId failure => "Script node " ++ nodeId ++ " failed: " ++ failure.message

end Error

/-- A turn that failed, and the number of tokens that are drawn nevertheless. -/
structure Abort where
  error : Error
  drawn : Nat
deriving Repr, DecidableEq

/-- A turn under way. -/
structure Turn where
  state : State
  messages : List Message := []
  buttons : List ButtonOption := []
  redirectUrl : Option String := none
  /-- How many random tokens have been drawn. -/
  drawn : Nat := 0
  /-- How many scripts have been run. -/
  runs : Nat := 0
deriving DecidableEq

/-- How a visit of a container ends. -/
inductive Visit
  /-- The session rests: it waits, or it has ended. -/
  | rest (t : Turn)
  | leave (t : Turn) (target : Container)

/-- What comes after a node. -/
inductive Step
  /-- The node of the cursor. -/
  | next (t : Turn)
  | done (v : Visit)

namespace Turn

/-- What the turn gives the user. -/
def output (t : Turn) : Output where
  messages := t.messages
  buttons := t.buttons
  waitingFor := t.state.waitingFor
  redirectUrl := t.redirectUrl
  status := t.state.status

/-- Carries on unless the flow cannot be followed. -/
def lift {α : Type} (t : Turn) : Except GraphError α → Except Abort α
  | .ok a => .ok a
  | .error e => .error ⟨.graph e, t.drawn⟩

/-- The cursor is not where an answer is awaited. -/
def mismatch {α : Type} (t : Turn) : Except Abort α :=
  t.lift (.error (.cursorMismatch t.state.containerId t.state.nodeIndex))

/-! ### Giving -/

/-- A text with the variables of the session filled in. -/
def fill (t : Turn) (text : String) : String :=
  Text.interpolate t.state.vars text

/-- Says a message. -/
def say (env : Environment) (m : Message) (t : Turn) : Turn :=
  { t with
    messages := t.messages ++ [m]
    state.log := t.state.log ++ [.outbound m env.now] }

/-- Says a text. -/
def sayText (env : Environment) (text : String) (t : Turn) : Turn :=
  t.say env (.ofText (t.fill text))

/-- Says a text, if there is one. -/
def sayOptional (env : Environment) (text : Option String) (t : Turn) : Turn :=
  text.elim t fun text => t.sayText env text

/-- Says the prompt of an input. -/
def ask (env : Environment) (i : Input) (t : Turn) : Turn :=
  t.sayOptional env i.prompt

/-- Shows media. Without a description there is none to show. -/
def showMedia (env : Environment) (kind : MediaKind) (url alt : String) (t : Turn) : Turn :=
  let alt := t.fill alt
  t.say env (.media kind (t.fill url) (if alt = "" then none else some alt))

/-- Offers buttons. -/
def offer (buttons : List Button) (t : Turn) : Turn :=
  { t with buttons := buttons.map fun b => ⟨b.id, t.fill b.label⟩ }

/-! ### Changing the session -/

/-- Writes down what the user sent. -/
def receive (env : Environment) (inbound : Option Inbound) (t : Turn) : Turn :=
  match inbound with
  | some payload => { t with state.log := t.state.log ++ [.inbound payload env.now] }
  | none => t

/-- Sets a variable. -/
def set (name value : String) (t : Turn) : Turn :=
  { t with state.vars := t.state.vars.insert name value }

/-- Sets a variable, if one is named. -/
def setOptional (name : Option String) (value : String) (t : Turn) : Turn :=
  name.elim t fun name => t.set name value

/-- Sets the variables that a script has written. -/
def apply (outcome : Script.Outcome) (t : Turn) : Turn :=
  outcome.mutations.foldl (fun t m => t.set m.1 m.2) t

/-- Moves the cursor to the next node. -/
def advance (t : Turn) : Turn :=
  { t with state.nodeIndex := t.state.nodeIndex + 1 }

/-- Moves the cursor to the first node of a container. -/
def enter (c : Container) (t : Turn) : Turn :=
  { t with state.containerId := c.id, state.nodeIndex := 0 }

/-- Waits for an answer. -/
def await (w : Awaited) (t : Turn) : Turn :=
  { t with state.waitingFor := some w }

/-- Waits no longer. -/
def answered (t : Turn) : Turn :=
  { t with state.waitingFor := none }

/-- Ends the conversation. -/
def close (t : Turn) : Turn :=
  { t with state.status := .ended, state.waitingFor := none }

/-- Sends the user to another page. -/
def redirect (env : Environment) (url : String) (t : Turn) : Turn :=
  { t with
    redirectUrl := some url
    state.status := .yielded
    state.log := t.state.log ++ [.redirect url env.now] }

/-- Goes on behind a redirect. -/
def resume (t : Turn) : Turn :=
  { t.advance with state.status := .active }

/-! ### Following the flow -/

/-- The node of the cursor. -/
def node? (g : Graph) (t : Turn) : Except Abort (Option Node) :=
  t.lift (g.nodeAt t.state.containerId t.state.nodeIndex)

/-- Where a handle of the current container leads. -/
def handleTarget (g : Graph) (handle : Handle) (t : Turn) : Except Abort (Option Container) :=
  t.lift (g.handleTarget t.state.containerId handle)

/-- Leaves a node by a handle. Without an edge the next node follows; if the node was the last one,
the conversation ends. -/
def followExit (g : Graph) (handle : Handle) (t : Turn) : Except Abort Step := do
  match ← t.handleTarget g handle with
  | some target => return .done (.leave t target)
  | none =>
    match ← t.advance.node? g with
    | some _ => return .next t.advance
    | none => return .done (.rest t.advance.close)

end Turn

end Dialogue.Session
