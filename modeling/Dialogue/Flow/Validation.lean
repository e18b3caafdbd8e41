import Dialogue.Flow.Graph
import Dialogue.Pattern.Engine
import Dialogue.Script.Run
import Dialogue.Text.Search

namespace Dialogue.Flow

/-!
# Checks before publishing

A flow with errors is not published. Warnings are for its author: what they are about does no harm
to a conversation.

* `Problem`: what can be wrong, with its severity and wording.
* `Definition.issues`: all that is wrong with a flow, in the order of the flow.
* `Definition.isPublishable`: whether there are no errors.
-/

/-- Whether a problem keeps a flow from being published. -/
inductive Severity
  | error
  | warning
deriving Repr, DecidableEq

/-- What is wrong with a flow. -/
inductive Problem
  | duplicateContainer (id : String)
  | duplicateNode (id : String)
  | unknownEnd (id : String)
  | unknownHandle (handle container : String)
  | doubledExit (container : String) (exit : Exit)
  | unknownStart (id : String)
  | noStart
  | noVariableName
  | valueUnreadable (e : Script.Failure)
  | scriptUnreadable (e : Script.Failure)
  | noValue (comparison variableName : String)
  | patternUnusable (pattern : String) (reason : String)
deriving Repr, DecidableEq

namespace Problem

/-- The severity of a problem. -/
def severity : Problem → Severity
  | valueUnreadable _ | scriptUnreadable _ | noValue _ _ | patternUnusable _ _ => .warning
  | _ => .error

/-- The problem in words. -/
def message : Problem → String
  | duplicateContainer id => "Duplicate container id '" ++ id ++ "'"
  | duplicateNode id => "Duplicate node id '" ++ id ++ "'"
  | unknownEnd id => "Edge references unknown container '" ++ id ++ "'"
  | unknownHandle handle container =>
    "Handle '" ++ handle ++ "' does not name a button or condition exit in container '" ++
      container ++ "'"
  | doubledExit container exit =>
    "More than one edge leaves container '" ++ container ++ "' via " ++ exit.name
  | unknownStart id => "Unknown start container '" ++ id ++ "'"
  | noStart => "No start container: every container has an incoming edge"
  | noVariableName => "set-variable node has no variable name"
  | valueUnreadable e => "Value script does not parse: " ++ e.message
  | scriptUnreadable e => "Script does not parse: " ++ e.message
  | noValue comparison variableName =>
    "Comparison '" ++ comparison ++ "' on '" ++ variableName ++
      "' has no value to compare against"
  | patternUnusable pattern reason =>
    "Pattern '" ++ pattern ++ "' does not compile and will never match: " ++ reason

end Problem

/-- A problem with the container and the node that it is found in. -/
structure Issue where
  problem : Problem
  containerId : Option String := none
  nodeId : Option String := none
deriving Repr, DecidableEq

/-! ### Nodes -/

/-- The problem of a script that cannot be read. -/
def unreadable (problem : Script.Failure → Problem) (source : String) : List Problem :=
  match Script.program source with
  | .ok _ => []
  | .error e => [problem e]

/-- The problem of a comparison that lacks its other side. -/
def Comparison.problems (c : Comparison) : List Problem :=
  if c.operator.takesValue ∧ c.value = none then [.noValue c.id c.variableName] else []

/-- The pattern of a comparison that can be checked: one without tokens of variables. -/
def Comparison.fixedPattern? (c : Comparison) : Option String :=
  if c.operator.takesPattern then
    -- A pattern with a token is known only when the flow runs.
    c.value.filter fun pattern => !Text.contains pattern "\x7b\x7b"
  else none

/-- The problem of a pattern that cannot be used. No limit on its size is set. -/
def patternProblems (patterns : Pattern.Engine) (pattern : String) : List Problem :=
  match patterns.build none pattern with
  | .ok _ => []
  | .error reason => [.patternUnusable pattern reason]

/-- What is wrong with a node by itself. -/
def Node.Kind.problems (patterns : Pattern.Engine) : Node.Kind → List Problem
  | .assignment a =>
    (if Text.isBlankText a.variableName then [.noVariableName] else []) ++
      (if a.executeOnClient ∧ a.source = .custom then unreadable .valueUnreadable a.value else [])
  | .script s => unreadable .scriptUnreadable s.code
  | .condition groups =>
    let comparisons := groups.flatMap Group.comparisons
    comparisons.flatMap Comparison.problems ++
      (comparisons.filterMap Comparison.fixedPattern?).flatMap (patternProblems patterns)
  | _ => []

/-- What is wrong with nodes of a container; `seen` holds the ids of the nodes before them. -/
def nodesIssues (patterns : Pattern.Engine) (container : String) (seen : List String) :
    List Node → List Issue
  | [] => []
  | n :: rest =>
    (if n.id ∈ seen then [⟨.duplicateNode n.id, some container, some n.id⟩] else []) ++
      (n.kind.problems patterns).map (fun p => ⟨p, some container, some n.id⟩) ++
      nodesIssues patterns container (n.id :: seen) rest

/-- What is wrong with containers; `seen` and `seenNodes` hold the ids before them. -/
def containersIssues (patterns : Pattern.Engine) (seen seenNodes : List String) :
    List Container → List Issue
  | [] => []
  | c :: rest =>
    (if c.id ∈ seen then [⟨.duplicateContainer c.id, some c.id, none⟩] else []) ++
      nodesIssues patterns c.id seenNodes c.nodes ++
      containersIssues patterns (c.id :: seen) (c.nodes.map Node.id ++ seenNodes) rest

/-! ### Edges and start -/

/-- Whether a flow has a container. -/
def Definition.hasContainer (d : Definition) (id : String) : Bool :=
  d.containers.any (·.id == id)

/-- Whether a node of a container has a handle. -/
def Definition.hasHandle (d : Definition) (container handle : String) : Bool :=
  d.containers.any fun c =>
    c.id == container && c.nodes.any fun n => n.handles.any fun h => h.text == handle

/-- What is wrong with an edge; `seen` holds the edges before it. -/
def Edge.problems (d : Definition) (seen : List Edge) (e : Edge) : List Problem :=
  ([e.source, e.target].filter fun id => !d.hasContainer id).map .unknownEnd ++
    (match e.sourceHandle with
      | some handle => if d.hasHandle e.source handle then [] else [.unknownHandle handle e.source]
      | none => []) ++
    (if seen.any fun o => o.source == e.source && o.sourceHandle == e.sourceHandle then
      [.doubledExit e.source e.sourceHandle] else [])

/-- What is wrong with edges. -/
def edgesIssues (d : Definition) (seen : List Edge) : List Edge → List Issue
  | [] => []
  | e :: rest =>
    (e.problems d seen).map (fun p => ⟨p, some e.source, none⟩) ++ edgesIssues d (e :: seen) rest

/-- What is wrong with the start. -/
def startIssues (d : Definition) : List Issue :=
  match d.startContainerId with
  | some id => if d.hasContainer id then [] else [⟨.unknownStart id, some id, none⟩]
  | none => if (Graph.firstUntargeted d).isSome then [] else [⟨.noStart, none, none⟩]

namespace Definition

/-- All that is wrong with a flow. -/
def issues (d : Definition) (patterns : Pattern.Engine) : List Issue :=
  containersIssues patterns [] [] d.containers ++ edgesIssues d [] d.edges ++ startIssues d

/-- The problems that keep a flow from being published. -/
def errors (d : Definition) (patterns : Pattern.Engine) : List Issue :=
  (d.issues patterns).filter fun i => i.problem.severity = .error

/-- The problems that do not. -/
def warnings (d : Definition) (patterns : Pattern.Engine) : List Issue :=
  (d.issues patterns).filter fun i => i.problem.severity = .warning

/-- Whether a flow can be published. -/
def isPublishable (d : Definition) (patterns : Pattern.Engine) : Bool :=
  (d.errors patterns).isEmpty

end Definition

end Dialogue.Flow
