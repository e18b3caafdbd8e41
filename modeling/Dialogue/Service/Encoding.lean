import Dialogue.Script.Encoding
import Dialogue.Service.Requests

namespace Dialogue

open Json

/-!
# Requests and replies as JSON

* `Service.TurnRequest.ofJson`, `Service.PublishRequest.ofJson`: the bodies of requests.
* `Service.TurnReply.toJson`, `Service.Publication.toJson`, `Store.Published.toJson`: the bodies of
  replies.
-/

/-- The written name of a severity. -/
def Flow.Severity.name : Severity → String
  | error => "error"
  | warning => "warning"

/-- An issue as JSON. -/
def Flow.Issue.toJson (i : Issue) : Json :=
  .obj ([("severity", .str i.problem.severity.name), ("message", .str i.problem.message)] ++
    memberOf? "containerId" .str i.containerId ++ memberOf? "nodeId" .str i.nodeId)

/-- A version of a flow as JSON. -/
def Store.Published.toJson (p : Store.Published) : Json :=
  .obj [("flowId", .str p.flowId), ("version", .int p.version),
    ("definition", p.definition.toJson), ("checksum", .str p.checksum),
    ("publishedAt", p.publishedAt.toJson)]

namespace Service

/-- What publishing answers, as JSON. -/
def Publication.toJson (p : Publication) : Json :=
  .obj [("flowId", .str p.flow.flowId), ("version", .int p.flow.version),
    ("checksum", .str p.flow.checksum), ("created", .bool p.created),
    ("warnings", .arr (p.warnings.map Flow.Issue.toJson))]

/-- What a turn answers, as JSON. -/
def TurnReply.toJson (r : TurnReply) : Json :=
  .obj (("sessionId", .str r.sessionId) :: r.output.members)

/-- A request to advance a conversation, from JSON. -/
def TurnRequest.ofJson : Json → Decoded TurnRequest :=
  asRecord ["sessionId", "flowId", "version", "inboundPayload", "client"] fun r =>
    TurnRequest.mk <$> r.nullable "sessionId" asText <*> r.nullable "flowId" asText
      <*> r.nullable "version" asInt64 <*> r.nullable "inboundPayload" Session.Inbound.ofJson
      <*> r.defaulted "client" {} Script.ClientContext.ofJson

/-- A request to publish a flow. -/
structure PublishRequest where
  flowId : Option String := none
  definition : Flow.Definition

/-- A request to publish a flow, from JSON. -/
def PublishRequest.ofJson : Json → Decoded PublishRequest :=
  asRecord ["flowId", "definition"] fun r =>
    PublishRequest.mk <$> r.nullable "flowId" asText
      <*> r.required "definition" Flow.Definition.ofJson

end Service

end Dialogue
