import Dialogue.Decimal.Integer
import Dialogue.Decimal.Word
import Dialogue.Service.Encoding
import Dialogue.Web.Body
import Dialogue.Web.MediaType
import Dialogue.Web.Url

namespace Dialogue.Web

open Service

/-!
# The web interface

* `POST /api/chat`: advances a conversation.
* `GET /api/sessions/ID`: shows a session.
* `POST /api/flows`: publishes a flow.
* `GET /api/flows/ID`: shows a flow, in the `version` that the query names.
* `GET /version`: names the program.

`respond` serves a request. Where a request fails on its way to the service there is no body.
-/

/-- A request. -/
structure Request where
  method : String
  /-- The path and the query. -/
  target : String
  contentType : Option String
  body : String
deriving Repr, DecidableEq

/-- What a response carries. -/
inductive Content
  | empty
  | text (s : String)
  | json (j : Json)
deriving Repr

/-- A response. -/
structure Response where
  status : Nat
  content : Content := .empty
deriving Repr

/-- What a path leads to. -/
inductive Route
  | chat
  | session (id : String)
  | flows
  | flow (id : String)
  | version
deriving Repr, DecidableEq

/-- The route of a path. -/
def Route.ofSegments? : List String → Option Route
  | ["", "api", "chat"] => some chat
  | ["", "api", "flows"] => some flows
  | ["", "version"] => some version
  | ["", "api", "sessions", id] => if id = "" then none else some (session id)
  | ["", "api", "flows", id] => if id = "" then none else some (flow id)
  | _ => none

/-- Whether a route changes something. -/
def Route.isChange : Route → Bool
  | chat | flows => true
  | session _ | flow _ | version => false

/-! ### Responses -/

/-- The status of a class of failures. -/
def statusOf : Kind → Nat
  | .badRequest => 400
  | .notFound => 404
  | .conflict => 409
  | .graphIntegrity | .script | .storage => 500

/-- The status of a body that is refused. -/
def Refusal.status : Refusal → Nat
  | malformed => 400
  | misshapen => 422

/-- What a user is told when a turn fails. -/
def genericMessage : String := "Something went wrong, please try again."

/-- The response to a turn that failed. The user learns the class of the failure only. -/
def turnFailed (f : Failure) : Response where
  status := statusOf f.cause.kind
  content := .json (.obj [("error", .str f.cause.kind.name),
    ("messages", .arr [(Session.Message.ofText genericMessage).toJson]),
    ("waitingFor", Session.Awaited.optionJson f.waitingFor)])

/-- The response to any other request that failed. -/
def requestFailed (f : Failure) : Response where
  status := statusOf f.cause.kind
  content := .json (.obj [("error", .str f.cause.message)])

/-- The response to the result of a procedure. -/
def responseTo {α : Type} (failed : Failure → Response) (encode : α → Json)
    (status : α → Nat) : Except Failure α → Response
  | .ok result => { status := status result, content := .json (encode result) }
  | .error f => failed f

/-- Responds without a call to the store. -/
def immediately (status : Nat) (content : Content := .empty) : Procedure Response :=
  .done { status, content }

/-! ### Requests -/

/-- Serves a request with a JSON body. -/
def withBody {α : Type} (r : Request) (decode : Json → Decoded α)
    (serve : α → Procedure Response) : Procedure Response :=
  if r.contentType.any isJsonType then
    match decodeBody decode r.body with
    | .ok a => serve a
    | .error refusal => immediately refusal.status
  else immediately 415

/-- Serves a request with an identifier in its path. -/
def withSegment (written : String) (serve : String → Procedure Response) :
    Procedure Response :=
  match decodeSegment? written with
  | some id => serve id
  | none => immediately 400

/-- The version that a query asks for. It may be named once at most. -/
def versionOf (query : String) : Except Unit (Option Int) :=
  match (parameters query).filter (·.1 == some "version") with
  | [] => .ok none
  | [(_, some value)] =>
    match Decimal.readInt? Decimal.leastInteger Decimal.greatestInteger value.toList with
    | some version => .ok (some version)
    | none => .error ()
  | _ => .error ()

/-- Serves a request on a route. -/
def serveRoute (c : Circumstances) (r : Request) (query : String) :
    Route → Procedure Response
  | .chat => withBody r TurnRequest.ofJson fun request =>
    (turn c request).map (responseTo turnFailed TurnReply.toJson fun _ => 200)
  | .flows => withBody r PublishRequest.ofJson fun request =>
    (publish c request.flowId request.definition).map
      (responseTo requestFailed Publication.toJson fun p => if p.created then 201 else 200)
  | .session written => withSegment written fun id =>
    (showSession id).map (responseTo requestFailed Session.State.toJson fun _ => 200)
  | .flow written => withSegment written fun id =>
    match versionOf query with
    | .ok version =>
      (showFlow id version).map (responseTo requestFailed Store.Published.toJson fun _ => 200)
    | .error () => immediately 400
  | .version => immediately 200 (.text "chatflow 0.1.0")

/-- A response without what it carries. -/
def Response.head (r : Response) : Response := { r with content := .empty }

/-- Serves a request. Asking for the head of a response is asking for the response and leaving the
rest out. -/
def respond (c : Circumstances) (r : Request) : Procedure Response :=
  let target := Target.ofText r.target
  match Route.ofSegments? target.segments with
  | none => immediately 404
  | some route =>
    match route.isChange, r.method with
    | true, "POST" | false, "GET" => serveRoute c r target.query route
    | false, "HEAD" => (serveRoute c r target.query route).map Response.head
    | _, _ => immediately 405

end Dialogue.Web
