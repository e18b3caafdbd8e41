import Dialogue.Json.Value

namespace Dialogue.Flow

/-!
# Flow definitions

A flow is a set of containers, each a list of nodes, and the edges between them. The nodes of a
container are executed in order; an edge leaves a container from one of its exits.

* `Definition`, `Container`, `Node`, `Edge`: the parts of a flow.
* `Node.Kind`: what a node does.
* `Definition.Exit`: how a container is left.
-/

/-- What kind of media a message shows. -/
inductive MediaKind
  | image
  | video
  | audio
  | document
deriving Repr, DecidableEq

/-- What a simple input asks for. -/
inductive InputKind
  | text
  | number
  | phone
  | email
  | website
  | image
  | video
  | audio
  | document
deriving Repr, DecidableEq

/-- What an answer must look like. -/
inductive Validation
  | number
  | email
  | phone
  | url
deriving Repr, DecidableEq

/-- The validation of an input that does not choose one. Media inputs receive the address of the
uploaded file. -/
def InputKind.defaultValidation : InputKind → Option Validation
  | text => none
  | number => some .number
  | phone => some .phone
  | email => some .email
  | website | image | video | audio | document => some .url

/-- The settings of a simple input. -/
structure Input where
  prompt : Option String := none
  saveVariable : Option String := none
  validation : Option Validation := none
  /-- Said before the prompt is repeated. -/
  retryMessage : Option String := none
deriving Repr, DecidableEq

/-- A button: its label is shown, its id is sent. -/
structure Button where
  id : String
  label : String
  saveVariable : Option String := none
deriving Repr, DecidableEq

/-- How a variable is compared. -/
inductive Operator
  | equals
  | notEquals
  | contains
  | notContains
  | greaterThan
  | lessThan
  | isSet
  | isEmpty
  | startsWith
  | endsWith
  | matchesRegex
  | notMatchesRegex
deriving Repr, DecidableEq

namespace Operator

/-- Whether the right-hand side of a comparison counts. -/
def takesValue : Operator → Bool
  | isSet | isEmpty => false
  | _ => true

/-- Whether the right-hand side is a pattern. -/
def takesPattern : Operator → Bool
  | matchesRegex | notMatchesRegex => true
  | _ => false

end Operator

/-- A comparison of a variable with a value. -/
structure Comparison where
  id : String
  variableName : String
  operator : Operator
  value : Option String := none
deriving Repr, DecidableEq

/-- How the comparisons of a group are joined. -/
inductive Connective
  | and
  | or
deriving Repr, DecidableEq

/-- A branch of a condition. -/
structure Group where
  id : String
  comparisons : List Comparison
  connective : Connective := .and
deriving Repr, DecidableEq

/-- Where the value of a variable comes from. -/
inductive ValueSource
  | custom
  | empty
  | now
  | today
  | yesterday
  | tomorrow
  | random
deriving Repr, DecidableEq

/-- The settings of a node that sets a variable. -/
structure Assignment where
  variableName : String
  source : ValueSource := .custom
  value : String := ""
  saveInResults : Bool := false
  executeOnClient : Bool := false
deriving Repr, DecidableEq

/-- The settings of a script node. -/
structure ScriptNode where
  code : String
  executeOnServer : Bool := false
deriving Repr, DecidableEq

/-- What a node does. -/
inductive Node.Kind
  /-- Says a text. -/
  | textBubble (content : String)
  /-- Says a number. -/
  | numberBubble (content : String)
  /-- Shows media. -/
  | mediaBubble (kind : MediaKind) (url alt : String)
  /-- Asks for an answer. -/
  | input (kind : InputKind) (input : Input)
  /-- Offers buttons. -/
  | buttons (buttons : List Button)
  /-- Branches. -/
  | condition (groups : List Group)
  /-- Sets a variable. -/
  | assignment (assignment : Assignment)
  /-- Runs a script. -/
  | script (script : ScriptNode)
deriving Repr, DecidableEq

/-- A step of a container. -/
structure Node where
  id : String
  kind : Node.Kind
deriving Repr, DecidableEq

/-- Nodes that are executed in order. -/
structure Container where
  id : String
  nodes : List Node := []
deriving Repr, DecidableEq

/-- A connection from an exit of one container to another container. -/
structure Edge where
  source : String
  /-- The written form of the handle it leaves from; without one it is the fall-through. -/
  sourceHandle : Option String := none
  target : String
deriving Repr, DecidableEq

/-- A flow. -/
structure Definition where
  containers : List Container
  edges : List Edge := []
  /-- Where a conversation begins; without it, the first container that no edge leads to. -/
  startContainerId : Option String := none
  /-- Data of the author that no rule looks at. -/
  settings : Json := .null
deriving Repr

/-- A named exit of a node. -/
inductive Handle
  | button (nodeId buttonId : String)
  | fallback (nodeId : String)
  | group (nodeId groupId : String)
  | otherwise (nodeId : String)
deriving Repr, DecidableEq

namespace Handle

/-- The written form of a handle, by which edges name it. -/
def text : Handle → String
  | button nodeId buttonId => nodeId ++ "-btn-" ++ buttonId
  | fallback nodeId => nodeId ++ "-default"
  | group nodeId groupId => nodeId ++ "-cond-" ++ groupId
  | otherwise nodeId => nodeId ++ "-else"

end Handle

/-- The handles of a node: one per button and one for any other answer, or one per group and one
for when no group holds. -/
def Node.handles (node : Node) : List Handle :=
  match node.kind with
  | .buttons buttons => buttons.map (fun b => .button node.id b.id) ++ [.fallback node.id]
  | .condition groups => groups.map (fun g => .group node.id g.id) ++ [.otherwise node.id]
  | _ => []

end Dialogue.Flow
