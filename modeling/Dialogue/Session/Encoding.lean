import Dialogue.Flow.Encoding
import Dialogue.Session.State

namespace Dialogue

open Json

/-!
# Sessions as JSON

Sessions are stored and shown as JSON.

* `Time.Instant.toJson`, `Text.Span.toJson`: the parts of sessions that have a form of their own.
* `Session.State.toJson`, `Session.State.ofJson`: sessions.
* `Session.Inbound.ofJson`: what the user sends.
* `Session.Output.members`: what a turn gives the user.
-/

/-! ### Parts -/

/-- An instant as JSON. -/
def Time.Instant.toJson (t : Instant) : Json := .str t.text

/-- An instant from JSON. -/
def Time.Instant.ofJson : Json → Decoded Instant
  | .str s => (Instant.read? s).elim (.fail (.wrongType "an instant")) .ok
  | _ => .fail (.wrongType "an instant")

/-- A span as JSON. -/
def Text.Span.toJson : Span → Json
  | plain text => .obj [("type", .str "plain"), ("text", .str text)]
  | link label url => .obj [("type", .str "link"), ("label", .str label), ("url", .str url)]

/-- A span from JSON, inside a message. -/
def Text.Span.ofJson : Json → Decoded Span :=
  tagged true "type"
    [("plain", asRecord ["text"] fun r =>
        Span.plain <$> r.required "text" asText),
      ("link", asRecord ["label", "url"] fun r =>
        Span.link <$> r.required "label" asText <*> r.required "url" asText)]

namespace Session

open Time

/-- The written name of what a session waits for. -/
def Awaited.name : Awaited → String
  | input kind => kind.name
  | buttons => "buttons"

/-- The written names of what sessions wait for. -/
def Awaited.names : List (String × Awaited) :=
  [Flow.InputKind.text, .number, .phone, .email, .website, .image, .video, .audio,
    .document].map (fun kind => (kind.name, input kind)) ++ [("buttons", buttons)]

/-- The written name of a status. -/
def Status.name : Status → String
  | active => "active"
  | yielded => "yielded"
  | ended => "ended"

/-- The written names of statuses. -/
def Status.names : List (String × Status) :=
  [("active", .active), ("yielded", .yielded), ("ended", .ended)]

/-- What a session waits for, or null. -/
def Awaited.optionJson : Option Awaited → Json := ofOption fun w => .str w.name

/-! ### Messages -/

/-- What the user sends as JSON. -/
def Inbound.toJson (i : Inbound) : Json :=
  .obj (memberOf? "text" .str i.text ++ memberOf? "buttonId" .str i.buttonId)

/-- What the user sends, from JSON. -/
def Inbound.ofJson : Json → Decoded Inbound :=
  asRecord ["text", "buttonId"] fun r =>
    Inbound.mk <$> r.optional "text" asText <*> r.optional "buttonId" asText

/-- A message as JSON. -/
def Message.toJson : Message → Json
  | text content spans =>
    .obj [("type", .str "text"), ("text", .str content),
      ("spans", .arr (spans.map Text.Span.toJson))]
  | media kind url alt =>
    .obj ([("type", .str "media"), ("kind", .str kind.name), ("url", .str url)] ++
      memberOf? "alt" .str alt)

/-- A message from JSON, inside a transcript. -/
def Message.ofJson : Json → Decoded Message :=
  tagged true "type"
    [("text", asRecord ["text", "spans"] fun r =>
        Message.text <$> r.required "text" asText <*> r.required "spans" (asList Text.Span.ofJson)),
      ("media", asRecord ["kind", "url", "alt"] fun r =>
        Message.media <$> r.required "kind" (variant true Flow.MediaKind.names)
          <*> r.required "url" asText <*> r.optional "alt" asText)]

/-- A line of the transcript as JSON. -/
def LogEntry.toJson : LogEntry → Json
  | inbound payload time =>
    .obj [("direction", .str "inbound"), ("payload", payload.toJson), ("at", time.toJson)]
  | outbound message time =>
    .obj [("direction", .str "outbound"), ("message", message.toJson), ("at", time.toJson)]
  | redirect url time =>
    .obj [("direction", .str "redirect"), ("url", .str url), ("at", time.toJson)]

/-- A line of the transcript from JSON. -/
def LogEntry.ofJson : Json → Decoded LogEntry :=
  tagged false "direction"
    [("inbound", asRecord ["payload", "at"] fun r =>
        LogEntry.inbound <$> r.required "payload" Inbound.ofJson
          <*> r.required "at" Instant.ofJson),
      ("outbound", asRecord ["message", "at"] fun r =>
        LogEntry.outbound <$> r.required "message" Message.ofJson
          <*> r.required "at" Instant.ofJson),
      ("redirect", asRecord ["url", "at"] fun r =>
        LogEntry.redirect <$> r.required "url" asText <*> r.required "at" Instant.ofJson)]

/-! ### Sessions -/

/-- The names of the fields of a session, in their order. -/
def State.fields : List String :=
  ["sessionId", "flowId", "flowVersion", "currentContainerId", "currentNodeIndex", "variables",
    "results", "messageLog", "waitingFor", "status", "revision", "createdAt", "updatedAt"]

/-- A session as JSON. -/
def State.toJson (s : State) : Json :=
  .obj [("sessionId", .str s.sessionId), ("flowId", .str s.flowId),
    ("flowVersion", .int s.flowVersion), ("currentContainerId", .str s.containerId),
    ("currentNodeIndex", .int s.nodeIndex), ("variables", ofDictionary .str s.vars),
    ("results", ofDictionary .str s.results), ("messageLog", .arr (s.log.map LogEntry.toJson)),
    ("waitingFor", Awaited.optionJson s.waitingFor), ("status", .str s.status.name),
    ("revision", .int s.revision), ("createdAt", s.createdAt.toJson),
    ("updatedAt", s.updatedAt.toJson)]

/-- A session from JSON. -/
def State.ofJson : Json → Decoded State :=
  asRecord State.fields fun r =>
    State.mk <$> r.required "sessionId" asText <*> r.required "flowId" asText
      <*> r.required "flowVersion" asInt64 <*> r.required "currentContainerId" asText
      <*> r.required "currentNodeIndex" asNat64
      <*> r.required "variables" (asDictionary asText)
      <*> r.defaulted "results" .empty (asDictionary asText)
      <*> r.defaulted "messageLog" [] (asList LogEntry.ofJson)
      <*> r.nullable "waitingFor" (variant false Awaited.names)
      <*> r.defaulted "status" .active (variant false Status.names)
      <*> r.defaulted "revision" 0 asInt64
      <*> r.required "createdAt" Instant.ofJson <*> r.required "updatedAt" Instant.ofJson

/-! ### Turns -/

/-- A button that is offered, as JSON. -/
def ButtonOption.toJson (b : ButtonOption) : Json :=
  .obj [("id", .str b.id), ("label", .str b.label)]

/-- The buttons that are offered, if there are any. -/
def buttonsMember : List ButtonOption → List (String × Json)
  | [] => []
  | buttons => [("buttons", .arr (buttons.map ButtonOption.toJson))]

/-- The members of what a turn gives the user. -/
def Output.members (o : Output) : List (String × Json) :=
  [("messages", .arr (o.messages.map Message.toJson))] ++ buttonsMember o.buttons ++
    [("waitingFor", Awaited.optionJson o.waitingFor)] ++
    memberOf? "sideEffects" (fun url => .obj [("redirectUrl", .str url)]) o.redirectUrl ++
    [("status", .str o.status.name)]

/-- What a turn gives the user as JSON. -/
def Output.toJson (o : Output) : Json := .obj o.members

end Session

end Dialogue
