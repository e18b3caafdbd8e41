import Dialogue.Service.Failure
import Dialogue.Service.Procedure
import Dialogue.Session.Conversation
import Dialogue.Settings

namespace Dialogue.Service

open Session

/-!
# Requests

What the service does: it publishes flows that have no errors, begins and continues sessions, and
shows flows and sessions. A turn is stored as a whole or not at all.

* `Circumstances`: what a request is served under.
* `publish`, `start`, `proceed`, `turn`: the requests that change the store.
* `showFlow`, `showSession`: the requests that do not.
-/

/-- What a request is served under. -/
structure Circumstances where
  settings : Settings
  /-- What builds the patterns of flows. -/
  patterns : Pattern.Engine
  /-- The time when a session is begun. -/
  begunAt : Time.Instant
  /-- The time of the turn. -/
  now : Time.Instant
  /-- The time, in nanoseconds, that a script of the turn has taken at a step. -/
  elapsed : Nat → Nat → Nat
  /-- The random tokens of the turn. -/
  token : Nat → String
  /-- An identifier that no session has. -/
  freshSessionId : String
  /-- An identifier that no flow has. -/
  freshFlowId : String

/-- What the turn of a request consults. -/
def Circumstances.environment (c : Circumstances) (client : Script.ClientContext) :
    Environment where
  now := c.now
  patterns := c.patterns
  sandbox run := Script.sandbox c.settings.limits (c.elapsed run)
  client := client
  maxHops := c.settings.maxHops
  policy := c.settings.policy
  token := c.token

/-- A request to advance a conversation. -/
structure TurnRequest where
  /-- The session to continue; without one, a session is begun. -/
  sessionId : Option String := none
  flowId : Option String := none
  /-- The version of the flow to begin with; without one, the latest. -/
  version : Option Int := none
  inbound : Option Inbound := none
  client : Script.ClientContext := {}

/-- What a turn answers. -/
structure TurnReply where
  sessionId : String
  output : Output
deriving Repr, DecidableEq

/-- What publishing answers. -/
structure Publication where
  flow : Store.Published
  /-- Whether a version was added. -/
  created : Bool
  warnings : List Flow.Issue

/-- A procedure that may fail. -/
abbrev Serving (α : Type) := Procedure (Except Failure α)

/-- Fails. -/
def fail {α : Type} (cause : Cause) (waitingFor : Option Awaited := none) : Serving α :=
  .done (.error { cause, waitingFor })

/-- Ends with what the store answers. -/
def answer {α : Type} : Except Store.Error α → Serving α
  | .ok result => .done (.ok result)
  | .error e => fail (.store e)

/-! ### Flows -/

/-- Publishes a flow. Without an identifier it gets a fresh one. -/
def publish (c : Circumstances) (flowId : Option String) (d : Flow.Definition) :
    Serving Publication :=
  if d.isPublishable c.patterns then
    .publish (flowId.getD c.freshFlowId) d fun
      | .ok (flow, created) => .done (.ok { flow, created, warnings := d.warnings c.patterns })
      | .error e => fail (.store e)
  else fail (.unpublishable (d.errors c.patterns))

/-- Shows a version of a flow. -/
def showFlow (flowId : String) (version : Option Int) : Serving Store.Published :=
  .flow flowId version answer

/-! ### Sessions -/

/-- Shows a session. -/
def showSession (id : String) : Serving State :=
  .session id answer

/-- The first turn of a session on a flow. -/
def firstTurn (c : Circumstances) (flow : Store.Published) (inbound : Option Inbound)
    (client : Script.ClientContext) : Except Session.Error Turn := do
  let g := Flow.Graph.ofDefinition flow.definition
  let state ← State.begin g c.freshSessionId flow.flowId flow.version c.begunAt
  (Turn.run g (c.environment client) 0 state inbound).mapError Abort.error

/-- Stores a session after its first turn. -/
def storeFirst (c : Circumstances) (t : Turn) : Serving TurnReply :=
  .insert t.state fun
    | .error e => fail (.store e)
    | .ok () => .done (.ok ⟨c.freshSessionId, t.output⟩)

/-- Begins a session and stores it after its first turn. -/
def start (c : Circumstances) (flowId : String) (version : Option Int)
    (inbound : Option Inbound) (client : Script.ClientContext) : Serving TurnReply :=
  .flow flowId version fun
    | .error e => fail (.store e)
    | .ok flow =>
      match firstTurn c flow inbound client with
      | .error e => fail (.turn e)
      | .ok t => storeFirst c t

/-- A further turn of a session on its flow. -/
def nextTurn (c : Circumstances) (flow : Store.Published) (state : State)
    (inbound : Option Inbound) (client : Script.ClientContext) : Except Session.Error Turn :=
  (Turn.run (Flow.Graph.ofDefinition flow.definition) (c.environment client) 0 state
    inbound).mapError Abort.error

/-- Stores a session after a further turn. -/
def storeNext (sessionId : String) (waitingFor : Option Awaited) (t : Turn) : Serving TurnReply :=
  .save t.state fun
    | .error e => fail (.store e) waitingFor
    | .ok _ => .done (.ok ⟨sessionId, t.output⟩)

/-- Continues a session that was looked up, on the version of the flow that it was begun with. -/
def proceedFrom (c : Circumstances) (sessionId : String) (inbound : Option Inbound)
    (client : Script.ClientContext) (state : State) : Serving TurnReply :=
  .flow state.flowId (some state.flowVersion) fun
    | .error e => fail (.store e) state.waitingFor
    | .ok flow =>
      match nextTurn c flow state inbound client with
      | .error e => fail (.turn e) state.waitingFor
      | .ok t => storeNext sessionId state.waitingFor t

/-- Continues a session and stores it after the turn. -/
def proceed (c : Circumstances) (sessionId : String) (inbound : Option Inbound)
    (client : Script.ClientContext) : Serving TurnReply :=
  .session sessionId fun
    | .error e => fail (.store e)
    | .ok state => proceedFrom c sessionId inbound client state

/-- Advances a conversation. -/
def turn (c : Circumstances) (r : TurnRequest) : Serving TurnReply :=
  match r.sessionId, r.flowId with
  | some id, _ => proceed c id r.inbound r.client
  | none, some flowId => start c flowId r.version r.inbound r.client
  | none, none => fail .noTarget

end Dialogue.Service
