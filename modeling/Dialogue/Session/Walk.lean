import Dialogue.Flow.Condition
import Dialogue.Session.Turn

namespace Dialogue.Session

open Dialogue.Flow

/-!
# Walking through a flow

The nodes of a container are executed one after the other, until the session rests or the container
is left. A turn goes from container to container as long as it has hops left.

* `Turn.execute`: executes a node.
* `Turn.visit`: executes the nodes of a container from the cursor on.
* `Visit.follow`, `Turn.walk`, `Step.follow`: go on until the session rests.
-/

namespace Turn

/-! ### Scripts and variables -/

/-- Runs a script; none if it fails and is to be passed over. -/
def runScript (env : Environment) (nodeId code : String) (mode : Script.Mode) (t : Turn) :
    Except Abort (Option Script.Outcome) :=
  match env.sandbox t.runs code t.state.vars mode env.client, env.policy with
  | .ok outcome, _ => .ok (some outcome)
  | .error _, .skip => .ok none
  | .error failure, .retry => .error ⟨.script nodeId failure, t.drawn⟩

/-- Counts a script that was run. -/
def ran (t : Turn) : Turn :=
  { t with runs := t.runs + 1 }

/-- Goes on with the next node, or sends the user to another page and rests at the node. -/
def leaveScript (env : Environment) (redirectUrl : Option String) (t : Turn) : Step :=
  match redirectUrl with
  | some url => .done (.rest (t.redirect env url))
  | none => .next t.advance

/-- The value of an assignment that runs no script. -/
def assigned (env : Environment) (a : Assignment) (t : Turn) : String :=
  match a.source with
  | .custom => t.fill a.value
  | .empty => ""
  | .now => String.ofList (env.now.textWith .offset)
  | .today => env.dateText 0
  | .yesterday => env.dateText (-1)
  | .tomorrow => env.dateText 1
  | .random => env.token t.drawn

/-- Counts the token that an assignment draws. -/
def draw (source : ValueSource) (t : Turn) : Turn :=
  match source with
  | .random => { t with drawn := t.drawn + 1 }
  | _ => t

/-- Sets the variable of an assignment, and the result if it is to be kept. -/
def record (a : Assignment) (value : String) (t : Turn) : Turn :=
  let t := t.set a.variableName value
  if a.saveInResults then
    { t with state.results := t.state.results.insert a.variableName value }
  else t

/-- Executes an assignment whose value a script makes. -/
def assignByScript (env : Environment) (nodeId : String) (a : Assignment) (t : Turn) :
    Except Abort Step := do
  match ← t.runScript env nodeId a.value .client with
  | some outcome =>
    -- The writes of the script come first, so a script that writes its own variable is overruled.
    return ((t.ran.apply outcome).record a (outcome.result.getD "")).leaveScript env
      outcome.redirectUrl
  -- A script that is passed over leaves its variable as it was.
  | none => return .next t.ran.advance

/-- Executes an assignment. -/
def assign (env : Environment) (nodeId : String) (a : Assignment) (t : Turn) :
    Except Abort Step :=
  if a.source = .custom ∧ a.executeOnClient then t.assignByScript env nodeId a
  else .ok (.next ((t.draw a.source).record a (t.assigned env a)).advance)

/-- Executes a script node. -/
def script (env : Environment) (nodeId : String) (s : ScriptNode) (t : Turn) :
    Except Abort Step := do
  let mode : Script.Mode := if s.executeOnServer then .server else .client
  match ← t.runScript env nodeId s.code mode with
  | some outcome => return (t.ran.apply outcome).leaveScript env outcome.redirectUrl
  | none => return .next t.ran.advance

/-! ### Nodes -/

/-- The handle by which a condition is left. -/
def branch (env : Environment) (nodeId : String) (groups : List Group) (t : Turn) : Handle :=
  match firstHolding env.patterns groups t.state.vars with
  | some group => .group nodeId group.id
  | none => .otherwise nodeId

/-- Executes a node. -/
def execute (g : Graph) (env : Environment) (node : Node) (t : Turn) : Except Abort Step :=
  match node.kind with
  | .textBubble content | .numberBubble content => .ok (.next (t.sayText env content).advance)
  | .mediaBubble kind url alt => .ok (.next (t.showMedia env kind url alt).advance)
  | .input kind i => .ok (.done (.rest ((t.ask env i).await (.input kind))))
  | .buttons buttons => .ok (.done (.rest ((t.offer buttons).await .buttons)))
  | .condition groups => t.followExit g (t.branch env node.id groups)
  | .assignment a => t.assign env node.id a
  | .script s => t.script env node.id s

/-! ### Containers -/

/-- Executes nodes, and leaves their container by its end. -/
def visitNodes (g : Graph) (env : Environment) : List Node → Turn → Except Abort Visit
  | [], t => do
    match ← t.lift (g.fallThroughTarget t.state.containerId) with
    | some target => return .leave t target
    | none => return .rest t.close
  | node :: rest, t => do
    match ← t.execute g env node with
    | .next t => visitNodes g env rest t
    | .done v => return v

/-- Executes the nodes of the current container, from the cursor on. -/
def visit (g : Graph) (env : Environment) (t : Turn) : Except Abort Visit := do
  let c ← t.lift (g.container t.state.containerId)
  visitNodes g env (c.nodes.drop t.state.nodeIndex) t

end Turn

/-- Goes from container to container, with so many hops left, until the session rests. -/
def Visit.follow (g : Graph) (env : Environment) : Nat → Visit → Except Abort Turn
  | _, .rest t => .ok t
  | 0, .leave t _ => t.lift (.error (.traversalLimit env.maxHops))
  | hops + 1, .leave t target => do
    Visit.follow g env hops (← (t.enter target).visit g env)

/-- Goes on from the cursor until the session rests. -/
def Turn.walk (g : Graph) (env : Environment) (t : Turn) : Except Abort Turn := do
  (← t.visit g env).follow g env env.maxHops

/-- Goes on after a node until the session rests. -/
def Step.follow (g : Graph) (env : Environment) : Step → Except Abort Turn
  | .next t => t.walk g env
  | .done v => v.follow g env env.maxHops

end Dialogue.Session
