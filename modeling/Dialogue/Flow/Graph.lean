import Dialogue.Flow.Definition

namespace Dialogue.Flow

/-!
# The graph of a flow

An index over a definition by which the engine finds containers, nodes and the targets of exits.
References that lead nowhere are errors; nothing is guessed.

* `Graph.ofDefinition`: builds the index.
* `Graph.container`, `Graph.nodeAt`: look up a container, a node.
* `Graph.startContainer`: where a conversation begins.
* `Graph.resolve`: where an exit leads.
-/

/-- How a container is left: by a handle of one of its nodes, or past its last node. -/
abbrev Exit := Option String

/-- How an exit is named in messages. -/
def Exit.name : Exit → String
  | some handle => handle
  | none => "fall-through"

/-- Why a flow cannot be followed. -/
inductive GraphError
  | unknownContainer (id : String)
  | ambiguousEdge (container : String) (exit : Exit) (count : Nat)
  | noStartContainer
  | cursorMismatch (container : String) (index : Nat)
  | traversalLimit (limit : Nat)
deriving Repr, DecidableEq

namespace GraphError

/-- The error in words. -/
def message : GraphError → String
  | unknownContainer id => "Unknown container: " ++ id
  | ambiguousEdge container exit count =>
    "Ambiguous edge: " ++ toString count ++ " edges leave container " ++ container ++ " via " ++
      exit.name
  | noStartContainer => "Flow has no start container"
  | cursorMismatch container index =>
    "Session cursor " ++ container ++ "[" ++ toString index ++
      "] does not point at the pending input"
  | traversalLimit limit =>
    "Traversal exceeded " ++ toString limit ++ " hops without reaching a suspension point"

end GraphError

/-- The targets of the edges that leave one container, in the order of the edges. -/
structure Exits where
  fallThrough : List String := []
  handles : Dictionary (List String) := .empty

namespace Exits

/-- The targets of an exit. -/
def targets (e : Exits) : Exit → List String
  | none => e.fallThrough
  | some handle => (e.handles.get? handle).getD []

/-- Adds a target after the ones an exit has. -/
def add (e : Exits) (exit : Exit) (target : String) : Exits :=
  match exit with
  | none => { e with fallThrough := e.fallThrough ++ [target] }
  | some handle => { e with handles := e.handles.insert handle (e.targets exit ++ [target]) }

theorem targets_add (e : Exits) (exit other : Exit) (target : String) :
    (e.add exit target).targets other =
      if other = exit then e.targets exit ++ [target] else e.targets other := by
  cases exit with
  | none => cases other <;> simp [add, targets]
  | some handle =>
    cases other with
    | none => simp [add, targets]
    | some other =>
      by_cases h : other = handle <;> simp [add, targets, h]

end Exits

/-- A definition with an index over its containers and edges. -/
structure Graph where
  definition : Definition
  containers : Dictionary Container
  exits : Dictionary Exits

namespace Graph

/-- Adds a container, unless its id is taken. -/
def addContainer (index : Dictionary Container) (c : Container) : Dictionary Container :=
  match index.get? c.id with
  | some _ => index
  | none => index.insert c.id c

/-- The containers by id. Of two containers with one id the first one counts. -/
def indexContainers (containers : List Container) : Dictionary Container :=
  containers.foldl addContainer .empty

/-- Adds an edge to the exits of its source. -/
def addEdge (index : Dictionary Exits) (e : Edge) : Dictionary Exits :=
  index.insert e.source (((index.get? e.source).getD {}).add e.sourceHandle e.target)

/-- Builds the index. -/
def ofDefinition (definition : Definition) : Graph where
  definition := definition
  containers := indexContainers definition.containers
  exits := definition.edges.foldl addEdge .empty

/-- The container of an id. -/
def container (g : Graph) (id : String) : Except GraphError Container :=
  match g.containers.get? id with
  | some c => .ok c
  | none => .error (.unknownContainer id)

/-- The node at a place; none past the last node. -/
def nodeAt (g : Graph) (id : String) (index : Nat) : Except GraphError (Option Node) :=
  (g.container id).map fun c => c.nodes[index]?

/-- The first container that is the target of no edge. -/
def firstUntargeted (definition : Definition) : Option Container :=
  definition.containers.find? fun c => !definition.edges.any (·.target == c.id)

/-- Where a conversation begins. -/
def startContainer (g : Graph) : Except GraphError Container :=
  match g.definition.startContainerId with
  | some id => g.container id
  | none =>
    match firstUntargeted g.definition with
    | some c => .ok c
    | none => .error .noStartContainer

/-- Where an exit of a container leads; none when no edge leaves it. -/
def resolve (g : Graph) (id : String) (exit : Exit) : Except GraphError (Option Container) :=
  match ((g.exits.get? id).getD {}).targets exit with
  | [] => .ok none
  | [target] => (g.container target).map some
  | targets => .error (.ambiguousEdge id exit targets.length)

/-- Where a handle leads. -/
def handleTarget (g : Graph) (id : String) (handle : Handle) :
    Except GraphError (Option Container) :=
  g.resolve id (some handle.text)

/-- Where the end of a container leads. -/
def fallThroughTarget (g : Graph) (id : String) : Except GraphError (Option Container) :=
  g.resolve id none

end Graph

end Dialogue.Flow
