import Dialogue.Flow.Definition
import Dialogue.Text.Span
import Dialogue.Time.Instant

namespace Dialogue.Session

open Time

/-!
# Sessions

A session is one conversation on a version of a flow. It is kept between turns and holds all that
the next turn needs.

* `State`: a session, with its place in the flow, its variables and its transcript.
* `Awaited`: the answer a session waits for.
* `Inbound`, `Message`, `ButtonOption`: what the user sends, what is said and offered to the user.
* `LogEntry`: a line of the transcript.
* `Output`: what one turn gives the user.
-/

/-- The answer a session waits for. -/
inductive Awaited
  | input (kind : Flow.InputKind)
  | buttons
deriving Repr, DecidableEq

/-- How far a session has come. -/
inductive Status
  | active
  /-- A redirect took the user away; the next turn goes on behind it. -/
  | yielded
  /-- Nothing follows any more. -/
  | ended
deriving Repr, DecidableEq

/-- What the user sends. -/
structure Inbound where
  text : Option String := none
  buttonId : Option String := none
deriving Repr, DecidableEq

/-- Whether the user sends anything at all. -/
def Inbound.isEmpty (i : Inbound) : Bool :=
  i.text.isNone && i.buttonId.isNone

/-- What is said to the user. -/
inductive Message
  | text (text : String) (spans : List Text.Span)
  | media (kind : Flow.MediaKind) (url : String) (alt : Option String)
deriving Repr, DecidableEq

/-- A text to say, with its links found. -/
def Message.ofText (text : String) : Message := .text text (Text.spans text)

/-- A button that is offered. -/
structure ButtonOption where
  id : String
  label : String
deriving Repr, DecidableEq

/-- A line of the transcript. -/
inductive LogEntry
  | inbound (payload : Inbound) (time : Instant)
  | outbound (message : Message) (time : Instant)
  | redirect (url : String) (time : Instant)
deriving Repr, DecidableEq

/-- The time of a line of the transcript. -/
def LogEntry.time : LogEntry → Instant
  | inbound _ time | outbound _ time | redirect _ time => time

/-- A session. -/
structure State where
  sessionId : String
  flowId : String
  flowVersion : Int
  /-- The container of the cursor. -/
  containerId : String
  /-- The node of the cursor, by its place in the container. -/
  nodeIndex : Nat := 0
  vars : Dictionary String := .empty
  /-- Values that are kept as results of the conversation. -/
  results : Dictionary String := .empty
  log : List LogEntry := []
  waitingFor : Option Awaited := none
  status : Status := .active
  /-- How often the session was saved. -/
  revision : Int := 0
  createdAt : Instant
  updatedAt : Instant
deriving DecidableEq

/-- What one turn gives the user. -/
structure Output where
  messages : List Message := []
  buttons : List ButtonOption := []
  waitingFor : Option Awaited := none
  redirectUrl : Option String := none
  status : Status := .active
deriving Repr, DecidableEq

end Dialogue.Session
