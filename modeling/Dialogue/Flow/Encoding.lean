import Dialogue.Flow.Definition
import Dialogue.Json.Decode

namespace Dialogue.Flow

open Json

/-!
# Flow definitions as JSON

Every type has a `toJson` and an `ofJson`. Fields without a value are left out. A node is written
flat: its id, the name of its type, and the settings of that type. Settings of the author are kept
in canonical form.
-/

/-! ### Names -/

/-- The written names of media kinds. -/
def MediaKind.names : List (String × MediaKind) :=
  [("image", .image), ("video", .video), ("audio", .audio), ("document", .document)]

/-- The written name of a media kind. -/
def MediaKind.name : MediaKind → String
  | image => "image"
  | video => "video"
  | audio => "audio"
  | document => "document"

/-- The written name of an input kind. -/
def InputKind.name : InputKind → String
  | text => "input-text"
  | number => "input-number"
  | phone => "input-phone"
  | email => "input-mail"
  | website => "input-webSite"
  | image => "input-image"
  | video => "input-video"
  | audio => "input-audio"
  | document => "input-document"

/-- The written names of validations. -/
def Validation.names : List (String × Validation) :=
  [("number", .number), ("email", .email), ("phone", .phone), ("url", .url)]

/-- The written name of a validation. -/
def Validation.name : Validation → String
  | number => "number"
  | email => "email"
  | phone => "phone"
  | url => "url"

/-- The written names of operators. -/
def Operator.names : List (String × Operator) :=
  [("equals", .equals), ("not_equals", .notEquals), ("contains", .contains),
    ("not_contains", .notContains), ("greater_than", .greaterThan), ("less_than", .lessThan),
    ("is_set", .isSet), ("is_empty", .isEmpty), ("starts_with", .startsWith),
    ("ends_with", .endsWith), ("matches_regex", .matchesRegex),
    ("not_matches_regex", .notMatchesRegex)]

/-- The written name of an operator. -/
def Operator.name : Operator → String
  | equals => "equals"
  | notEquals => "not_equals"
  | contains => "contains"
  | notContains => "not_contains"
  | greaterThan => "greater_than"
  | lessThan => "less_than"
  | isSet => "is_set"
  | isEmpty => "is_empty"
  | startsWith => "starts_with"
  | endsWith => "ends_with"
  | matchesRegex => "matches_regex"
  | notMatchesRegex => "not_matches_regex"

/-- The written names of connectives. -/
def Connective.names : List (String × Connective) := [("AND", .and), ("OR", .or)]

/-- The written name of a connective. -/
def Connective.name : Connective → String
  | and => "AND"
  | or => "OR"

/-- The written names of value sources. -/
def ValueSource.names : List (String × ValueSource) :=
  [("custom", .custom), ("empty", .empty), ("now", .now), ("today", .today),
    ("yesterday", .yesterday), ("tomorrow", .tomorrow), ("random", .random)]

/-- The written name of a value source. -/
def ValueSource.name : ValueSource → String
  | custom => "custom"
  | empty => "empty"
  | now => "now"
  | today => "today"
  | yesterday => "yesterday"
  | tomorrow => "tomorrow"
  | random => "random"

/-! ### Settings of nodes -/

/-- The settings of a simple input as JSON. -/
def Input.toJson (i : Input) : Json :=
  .obj (memberOf? "prompt" .str i.prompt ++ memberOf? "saveVariable" .str i.saveVariable ++
    memberOf? "validation" (fun v => .str v.name) i.validation ++
    memberOf? "retryMessage" .str i.retryMessage)

/-- The settings of a simple input from JSON. -/
def Input.ofJson : Json → Decoded Input :=
  asRecord ["prompt", "saveVariable", "validation", "retryMessage"] fun r =>
    Input.mk <$> r.optional "prompt" asText <*> r.optional "saveVariable" asText
      <*> r.optional "validation" (variant true Validation.names)
      <*> r.optional "retryMessage" asText

/-- A button as JSON. -/
def Button.toJson (b : Button) : Json :=
  .obj ([("id", .str b.id), ("label", .str b.label)] ++
    memberOf? "saveVariable" .str b.saveVariable)

/-- A button from JSON. -/
def Button.ofJson : Json → Decoded Button :=
  asRecord ["id", "label", "saveVariable"] fun r =>
    Button.mk <$> r.required "id" asText <*> r.required "label" asText
      <*> r.optional "saveVariable" asText

/-- A comparison as JSON. -/
def Comparison.toJson (c : Comparison) : Json :=
  .obj ([("id", .str c.id), ("variableName", .str c.variableName),
    ("operator", .str c.operator.name)] ++ memberOf? "value" .str c.value)

/-- A comparison from JSON. -/
def Comparison.ofJson (buffered : Bool) : Json → Decoded Comparison :=
  asRecord ["id", "variableName", "operator", "value"] fun r =>
    Comparison.mk <$> r.required "id" asText <*> r.required "variableName" asText
      <*> r.required "operator" (variant buffered Operator.names)
      <*> r.optional "value" asText

/-- A group as JSON. -/
def Group.toJson (g : Group) : Json :=
  .obj [("id", .str g.id), ("comparisons", .arr (g.comparisons.map Comparison.toJson)),
    ("logicalOperator", .str g.connective.name)]

/-- A group from JSON. -/
def Group.ofJson (buffered : Bool) : Json → Decoded Group :=
  asRecord ["id", "comparisons", "logicalOperator"] fun r =>
    Group.mk <$> r.required "id" asText
      <*> r.required "comparisons" (asList (Comparison.ofJson buffered))
      <*> r.defaulted "logicalOperator" .and (variant buffered Connective.names)

/-- The settings of an assignment as JSON. -/
def Assignment.toJson (a : Assignment) : Json :=
  .obj [("variableName", .str a.variableName), ("valueType", .str a.source.name),
    ("value", .str a.value), ("saveInResults", .bool a.saveInResults),
    ("executeOnClient", .bool a.executeOnClient)]

/-- The settings of an assignment from JSON. -/
def Assignment.ofJson : Json → Decoded Assignment :=
  asRecord ["variableName", "valueType", "value", "saveInResults", "executeOnClient"] fun r =>
    Assignment.mk <$> r.required "variableName" asText
      <*> r.defaulted "valueType" .custom (variant true ValueSource.names)
      <*> r.defaulted "value" "" asText
      <*> r.defaulted "saveInResults" false asBool
      <*> r.defaulted "executeOnClient" false asBool

/-- The settings of a script node as JSON. -/
def ScriptNode.toJson (s : ScriptNode) : Json :=
  .obj [("code", .str s.code), ("executeOnServer", .bool s.executeOnServer)]

/-- The settings of a script node from JSON. -/
def ScriptNode.ofJson : Json → Decoded ScriptNode :=
  asRecord ["code", "executeOnServer"] fun r =>
    ScriptNode.mk <$> r.required "code" asText <*> r.defaulted "executeOnServer" false asBool

/-! ### Nodes -/

namespace Node.Kind

/-- The written name of a node type. -/
def typeName : Node.Kind → String
  | textBubble _ => "bubble-text"
  | numberBubble _ => "bubble-number"
  | mediaBubble kind _ _ => "bubble-" ++ kind.name
  | input kind _ => kind.name
  | buttons _ => "input-buttons"
  | condition _ => "condition"
  | assignment _ => "set-variable"
  | script _ => "script"

/-- The settings of a node as JSON. -/
def configJson : Node.Kind → Json
  | textBubble content | numberBubble content => .obj [("content", .str content)]
  | mediaBubble _ url alt => .obj [("url", .str url), ("alt", .str alt)]
  | input _ i => i.toJson
  | buttons bs => .obj [("buttons", .arr (bs.map Button.toJson))]
  | condition groups => .obj [("groups", .arr (groups.map Group.toJson))]
  | assignment a => a.toJson
  | script s => s.toJson

/-- The content of a bubble. -/
def decodeContent : Json → Decoded String :=
  asRecord ["content"] fun r => r.required "content" asText

/-- A media bubble. -/
def decodeMedia (kind : MediaKind) : Json → Decoded Node.Kind :=
  asRecord ["url", "alt"] fun r =>
    mediaBubble kind <$> r.required "url" asText <*> r.defaulted "alt" "" asText

/-- A simple input. -/
def decodeInput (kind : InputKind) (j : Json) : Decoded Node.Kind :=
  input kind <$> Input.ofJson j

/-- A node that offers buttons. -/
def decodeButtons : Json → Decoded Node.Kind :=
  asRecord ["buttons"] fun r =>
    buttons <$> r.required "buttons" (asList Button.ofJson)

/-- A node that branches. -/
def decodeCondition : Json → Decoded Node.Kind :=
  asRecord ["groups"] fun r =>
    condition <$> r.required "groups" (asList (Group.ofJson true))

/-- The node types by name, each with the reading of its settings. -/
def types : List (String × (Json → Decoded Node.Kind)) :=
  [("bubble-text", fun j => textBubble <$> decodeContent j),
    ("bubble-number", fun j => numberBubble <$> decodeContent j),
    ("bubble-image", decodeMedia .image), ("bubble-video", decodeMedia .video),
    ("bubble-audio", decodeMedia .audio), ("bubble-document", decodeMedia .document),
    ("input-text", decodeInput .text), ("input-number", decodeInput .number),
    ("input-phone", decodeInput .phone), ("input-mail", decodeInput .email),
    ("input-webSite", decodeInput .website), ("input-image", decodeInput .image),
    ("input-video", decodeInput .video), ("input-audio", decodeInput .audio),
    ("input-document", decodeInput .document),
    ("input-buttons", decodeButtons), ("condition", decodeCondition),
    ("set-variable", fun j => assignment <$> Assignment.ofJson j),
    ("script", fun j => script <$> ScriptNode.ofJson j)]

/-- What a node does, from the members of the node. -/
def ofMembers (members : List (String × Json)) : Decoded Node.Kind :=
  (Record.ofMembers ["type", "config"] members).andThen fun r =>
    (r.required "type" (variant true types)).andThen fun decode =>
      r.required "config" decode

end Node.Kind

/-- A node as JSON. -/
def Node.toJson (n : Node) : Json :=
  .obj [("id", .str n.id), ("type", .str n.kind.typeName), ("config", n.kind.configJson)]

/-- A node from JSON. What the node does is decoded when all of the node is known. -/
def Node.ofJson : Json → Decoded Node
  | .obj members =>
    (Record.ofMembers ["id"] members).andThen fun r =>
      Node.mk <$> r.required "id" asText <*> (Node.Kind.ofMembers members).whenComplete
  | _ => .fail (.wrongType "a node")

/-! ### Flows -/

/-- A container as JSON. -/
def Container.toJson (c : Container) : Json :=
  .obj [("id", .str c.id), ("nodes", .arr (c.nodes.map Node.toJson))]

/-- A container from JSON. -/
def Container.ofJson : Json → Decoded Container :=
  asRecord ["id", "nodes"] fun r =>
    Container.mk <$> r.required "id" asText <*> r.defaulted "nodes" [] (asList Node.ofJson)

/-- An edge as JSON. -/
def Edge.toJson (e : Edge) : Json :=
  .obj ([("source", .str e.source)] ++ memberOf? "sourceHandle" .str e.sourceHandle ++
    [("target", .str e.target)])

/-- An edge from JSON. -/
def Edge.ofJson : Json → Decoded Edge :=
  asRecord ["source", "sourceHandle", "target"] fun r =>
    Edge.mk <$> r.required "source" asText <*> r.optional "sourceHandle" asText
      <*> r.required "target" asText

/-- The settings of the author, unless there are none. -/
def settingsMember : Json → List (String × Json)
  | .null => []
  | settings => [("settings", settings)]

/-- A flow as JSON. -/
def Definition.toJson (d : Definition) : Json :=
  .obj ([("containers", .arr (d.containers.map Container.toJson)),
    ("edges", .arr (d.edges.map Edge.toJson))] ++
    memberOf? "startContainerId" .str d.startContainerId ++ settingsMember d.settings)

/-- A flow from JSON. -/
def Definition.ofJson : Json → Decoded Definition :=
  asRecord ["containers", "edges", "startContainerId", "settings"] fun r =>
    Definition.mk <$> r.required "containers" (asList Container.ofJson)
      <*> r.defaulted "edges" [] (asList Edge.ofJson)
      <*> r.optional "startContainerId" asText
      <*> r.defaulted "settings" .null (fun j => .ok j.canonical)

end Dialogue.Flow
