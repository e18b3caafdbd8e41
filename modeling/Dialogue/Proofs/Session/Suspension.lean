import Dialogue.Proofs.Flow.Index
import Dialogue.Proofs.Session.Course
import Mathlib.Control.Monad.Basic

namespace Dialogue

/-!
# Where a turn comes to rest

A turn goes on until it waits for an answer, sends the user away or ends the conversation. In each
case the cursor, the status, what is awaited and what is offered belong together.

* `Waits`, `Yields`, `Closes`: the three ways to rest.
* `State.Settled`: a session is new or rests; every turn may start from such a session only.
* `Turn.run_ends`: a turn from a settled session comes to rest, or fails in a foreseen way.
* `rests_in_one_way`: after every turn of every conversation exactly one of the three holds.
-/

namespace Flow

/-- What a node waits for, if it is an input. -/
def Node.Kind.awaits : Node.Kind → Option Session.Awaited
  | .input kind _ => some (.input kind)
  | .buttons _ => some .buttons
  | _ => none

/-- Whether a node runs a script that may send the user to another page. -/
def Node.Kind.mayRedirect : Node.Kind → Bool
  | .script _ => true
  | .assignment a => a.source = .custom && a.executeOnClient
  | _ => false

/-- The buttons that a node offers, with the variables filled into their labels. -/
def Node.Kind.offers (vars : Dictionary String) : Node.Kind → List Session.ButtonOption
  | .buttons options => options.map fun b => ⟨b.id, Text.interpolate vars b.label⟩
  | _ => []

end Flow

namespace Session

open Dialogue.Flow

/-! ### The ways to rest -/

/-- The turn waits for an answer: the cursor is at the input that asks for it. -/
structure Waits (g : Graph) (t : Turn) : Prop where
  status : t.state.status = .active
  node : ∃ node w, g.nodeAt t.state.containerId t.state.nodeIndex = .ok (some node) ∧
    node.kind.awaits = some w ∧ t.state.waitingFor = some w ∧
    t.output.buttons = node.kind.offers t.state.vars
  redirect : t.output.redirectUrl = none

/-- The turn sent the user away: the cursor is at the node whose script did so. -/
structure Yields (g : Graph) (t : Turn) : Prop where
  status : t.state.status = .yielded
  waitingFor : t.state.waitingFor = none
  node : ∃ node, g.nodeAt t.state.containerId t.state.nodeIndex = .ok (some node) ∧
    node.kind.mayRedirect
  redirect : ∃ url, t.output.redirectUrl = some url
  buttons : t.output.buttons = []

/-- The conversation is over: the cursor is past the last node of its container. -/
structure Closes (g : Graph) (t : Turn) : Prop where
  status : t.state.status = .ended
  waitingFor : t.state.waitingFor = none
  past : ∃ c, g.container t.state.containerId = .ok c ∧ t.state.nodeIndex = c.nodes.length
  redirect : t.output.redirectUrl = none
  buttons : t.output.buttons = []

/-- The turn rests. -/
inductive AtRest (g : Graph) (t : Turn) : Prop
  | waits (h : Waits g t)
  | yields (h : Yields g t)
  | closes (h : Closes g t)

/-- A session between two turns: it is new, or the last turn rests. -/
inductive State.Settled (g : Graph) (s : State) : Prop
  | fresh (status : s.status = .active) (waitingFor : s.waitingFor = none)
    (place : ∃ c, g.container s.containerId = .ok c ∧ s.nodeIndex ≤ c.nodes.length)
  | waits (status : s.status = .active)
    (node : ∃ node w, g.nodeAt s.containerId s.nodeIndex = .ok (some node) ∧
      node.kind.awaits = some w ∧ s.waitingFor = some w)
  | yields (status : s.status = .yielded) (waitingFor : s.waitingFor = none)
    (node : ∃ node, g.nodeAt s.containerId s.nodeIndex = .ok (some node))
  | closes (status : s.status = .ended) (waitingFor : s.waitingFor = none)
    (past : ∃ c, g.container s.containerId = .ok c ∧ s.nodeIndex = c.nodes.length)

/-- The failures that the settings of a turn allow for. -/
inductive Error.Tolerated (env : Environment) : Error → Prop
  | hops : Tolerated env (.graph (.traversalLimit env.maxHops))
  | script (h : env.policy = .retry) (nodeId : String) (failure : Script.Failure) :
    Tolerated env (.script nodeId failure)

/-- The failures of a turn that starts from a settled session: on a graph whose exits resolve only
the tolerated ones are left. -/
def Error.Foreseen (g : Graph) (env : Environment) (e : Error) : Prop :=
  g.Resolves → e.Tolerated env

/-- The sessions that successful turns lead to from the beginning of a conversation. -/
inductive Reachable (g : Graph) : State → Prop
  | start {sessionId flowId : String} {flowVersion : Int} {now : Time.Instant} {s : State}
    (h : State.begin g sessionId flowId flowVersion now = .ok s) : Reachable g s
  | turn {env : Environment} {drawn : Nat} {inbound : Option Inbound} {s : State} {t : Turn}
    (hs : Reachable g s) (h : Turn.run g env drawn s inbound = .ok t) : Reachable g t.state

variable {g : Graph} {env : Environment} {t : Turn} {id : String} {index : Nat} {c : Container}

/-- A look-up that fails on no graph whose exits resolve. -/
theorem foreseen_of_resolve {exit : Exit} {e : GraphError} (h : g.resolve id exit = .error e) :
    Error.Foreseen g env (.graph e) := by
  intro hg
  obtain ⟨target, htarget⟩ := hg id exit
  rw [h] at htarget
  cases htarget

/-! ### One node -/

/-- What a node leads to from a place. -/
inductive Executed (g : Graph) (id : String) (index : Nat) : Step → Prop
  | next {t : Turn} (h : t.At id (index + 1)) : Executed g id index (.next t)
  | rest {t : Turn} (h : AtRest g t) : Executed g id index (.done (.rest t))
  | leave {t : Turn} {exit : Exit} {target : Container} (h : t.At id index)
    (htarget : g.resolve id exit = .ok (some target)) :
    Executed g id index (.done (.leave t target))

/-- Past the last node the conversation may be closed. -/
theorem closes_close (h : t.At id index) (hc : g.container id = .ok c)
    (hindex : index = c.nodes.length) : Closes g t.close where
  status := rfl
  waitingFor := rfl
  past := ⟨c, by rw [← hc, ← h.containerId]; rfl, by rw [← hindex, ← h.nodeIndex]; rfl⟩
  redirect := h.redirectUrl
  buttons := h.buttons

/-- An exit is left, or the turn goes on behind the node. -/
theorem Turn.followExit_ends (handle : Handle) (h : t.At id index) (hc : g.container id = .ok c)
    (hindex : index < c.nodes.length) :
    Ends (Error.Foreseen g env) (Executed g id index) (t.followExit g handle) := by
  unfold followExit handleTarget
  rw [h.containerId]
  have hlook : Ends (Error.Foreseen g env)
      (fun target => g.resolve id (some handle.text) = .ok target)
      (t.lift (g.handleTarget id handle)) :=
    Ends.lift t (fun _ ha => ha) fun _ he => foreseen_of_resolve he
  refine hlook.bind fun target htarget => ?_
  cases target with
  | some target => exact Executed.leave h htarget
  | none =>
    -- Without a target the turn falls through to the next node, if there is one.
    have hnext := h.advance
    have hnode : t.advance.node? g = .ok c.nodes[index + 1]? := by
      unfold node?
      rw [hnext.containerId, hnext.nodeIndex, Graph.nodeAt_of_container hc]
      rfl
    rw [hnode]
    cases hget : c.nodes[index + 1]? with
    | some node => exact Executed.next hnext
    | none =>
      have hlast := List.getElem?_eq_none_iff.1 hget
      exact Executed.rest (.closes (closes_close hnext hc (by omega)))

/-- A script that redirects leaves the turn at its node. -/
theorem Turn.leaveScript_ends {node : Node} (url : Option String) (h : t.At id index)
    (hnode : g.nodeAt id index = .ok (some node)) (hmay : node.kind.mayRedirect) :
    Executed g id index (t.leaveScript env url) := by
  cases url with
  | none => exact Executed.next h.advance
  | some url =>
    have hat : g.nodeAt t.state.containerId t.state.nodeIndex = .ok (some node) := by
      rw [h.containerId, h.nodeIndex, hnode]
    exact Executed.rest (.yields ⟨rfl, h.waitingFor, ⟨node, hat, hmay⟩, ⟨url, rfl⟩, h.buttons⟩)

/-- A script that fails fails the turn only where scripts are to be tried again. -/
theorem Turn.runScript_ends (nodeId code : String) (mode : Script.Mode) :
    Ends (Error.Foreseen g env) (fun _ => True) (t.runScript env nodeId code mode) := by
  unfold runScript
  split
  · trivial
  · trivial
  · rename_i failure _ hretry
    exact fun _ => .script hretry nodeId failure

/-- An assignment goes on to the next node, or yields when its script asks for a redirect. -/
theorem Turn.assign_ends {node : Node} {a : Assignment} (h : t.At id index)
    (hnode : g.nodeAt id index = .ok (some node)) (hkind : node.kind = .assignment a) :
    Ends (Error.Foreseen g env) (Executed g id index) (t.assign env node.id a) := by
  unfold assign
  split
  · rename_i hscript
    have hmay : node.kind.mayRedirect := by
      rw [hkind]
      simp [Node.Kind.mayRedirect, hscript.1, hscript.2]
    refine Ends.bind (Turn.runScript_ends node.id a.value .client) fun outcome _ => ?_
    cases outcome with
    | none => exact Executed.next h.ran.advance
    | some outcome =>
      exact Turn.leaveScript_ends outcome.redirectUrl (h.of_course (by simp)) hnode hmay
  · refine Executed.next (Turn.At.advance (h.of_course ?_))
    simp

/-- A script node goes on likewise; a script that fails is skipped unless the node retries it. -/
theorem Turn.script_ends {node : Node} {s : ScriptNode} (h : t.At id index)
    (hnode : g.nodeAt id index = .ok (some node)) (hkind : node.kind = .script s) :
    Ends (Error.Foreseen g env) (Executed g id index) (t.script env node.id s) := by
  have hmay : node.kind.mayRedirect := by rw [hkind]; rfl
  refine Ends.bind (Turn.runScript_ends node.id s.code _) fun outcome _ => ?_
  cases outcome with
  | none => exact Executed.next h.ran.advance
  | some outcome =>
    exact Turn.leaveScript_ends outcome.redirectUrl (h.of_course (by simp)) hnode hmay

/-- An input that asks leaves the turn waiting at its node. -/
theorem waits_of_course {node : Node} {w : Awaited}
    (hnode : g.nodeAt id index = .ok (some node)) (hw : node.kind.awaits = some w)
    (h : t.course = { containerId := id, nodeIndex := index, waitingFor := some w,
                      buttons := node.kind.offers t.state.vars }) : Waits g t where
  status := congrArg Course.status h
  node := by
    have hid : t.state.containerId = id := congrArg Course.containerId h
    have hindex : t.state.nodeIndex = index := congrArg Course.nodeIndex h
    exact ⟨node, w, by rw [hid, hindex, hnode], hw, congrArg Course.waitingFor h,
      congrArg Course.buttons h⟩
  redirect := congrArg Course.redirectUrl h

/-- What executing a node leads to, whatever the node. -/
theorem Turn.execute_ends {node : Node} (h : t.At id index) (hc : g.container id = .ok c)
    (hget : c.nodes[index]? = some node) :
    Ends (Error.Foreseen g env) (Executed g id index) (t.execute g env node) := by
  have hnode : g.nodeAt id index = .ok (some node) := by
    rw [Graph.nodeAt_of_container hc, hget]
  unfold execute
  -- One case per kind: bubbles go on, questions wait, the others have their own lemma.
  cases hkind : node.kind with
  | textBubble content => exact Executed.next (Turn.At.advance (h.of_course (by simp)))
  | numberBubble content => exact Executed.next (Turn.At.advance (h.of_course (by simp)))
  | mediaBubble kind url alt => exact Executed.next (Turn.At.advance (h.of_course (by simp)))
  | input kind i =>
    refine Executed.rest (.waits (waits_of_course hnode (w := .input kind) (by rw [hkind]; rfl) ?_))
    rw [course_await, course_ask, h, hkind]
    rfl
  | buttons buttons =>
    refine Executed.rest (.waits (waits_of_course hnode (w := .buttons) (by rw [hkind]; rfl) ?_))
    rw [course_await, course_offer, h, hkind]
    rfl
  | condition groups =>
    exact Turn.followExit_ends _ h hc (List.getElem?_eq_some_iff.1 hget).1
  | assignment a => exact Turn.assign_ends h hnode hkind
  | script s => exact Turn.script_ends h hnode hkind

/-! ### Containers -/

/-- How a visit of a container ends. -/
inductive Visited (g : Graph) : Visit → Prop
  | rest {t : Turn} (h : AtRest g t) : Visited g (.rest t)
  | leave {t : Turn} {id : String} {index : Nat} {target : Container} (h : t.At id index)
    (htarget : g.container target.id = .ok target) : Visited g (.leave t target)

/-- A step that ends the walk over the nodes leaves a visit whose target, if any, is there. -/
theorem Executed.visited (hg : g.Coherent) {v : Visit} (h : Executed g id index (.done v)) :
    Visited g v := by
  cases h with
  | rest h => exact .rest h
  | leave h htarget => exact .leave h (hg.target htarget)

/-- Visiting the nodes from the cursor on rests or leaves the container. `hnodes` ties the recursion
over the list to the cursor. -/
theorem Turn.visitNodes_ends (hg : g.Coherent) (hc : g.container id = .ok c) (nodes : List Node)
    (h : t.At id index) (hindex : index ≤ c.nodes.length) (hnodes : c.nodes.drop index = nodes) :
    Ends (Error.Foreseen g env) (Visited g) (visitNodes g env nodes t) := by
  induction nodes generalizing t index with
  | nil =>
    have hlast := List.drop_eq_nil_iff.1 hnodes
    unfold visitNodes
    rw [h.containerId]
    have hlook : Ends (Error.Foreseen g env) (fun target => g.resolve id none = .ok target)
        (t.lift (g.fallThroughTarget id)) :=
      Ends.lift t (fun _ ha => ha) fun _ he => foreseen_of_resolve he
    refine hlook.bind fun target htarget => ?_
    cases target with
    | some target => exact Visited.leave h (hg.target htarget)
    | none => exact Visited.rest (.closes (closes_close h hc (by omega)))
  | cons node rest ih =>
    have hget : c.nodes[index]? = some node := by
      have hzero : (c.nodes.drop index)[0]? = c.nodes[index + 0]? := List.getElem?_drop
      rwa [hnodes, Nat.add_zero, List.getElem?_cons_zero, eq_comm] at hzero
    have htail : c.nodes.drop (index + 1) = rest := by
      rw [← List.tail_drop, hnodes, List.tail_cons]
    have hlt := (List.getElem?_eq_some_iff.1 hget).1
    unfold visitNodes
    refine (Turn.execute_ends h hc hget).bind fun step hstep => ?_
    cases step with
    | next t =>
      cases hstep with
      | next hnext => exact ih hnext (by omega) htail
    | done v => exact hstep.visited hg

/-- A visit that starts anywhere in an existing container. -/
theorem Turn.visit_ends (hg : g.Coherent) (hc : g.container id = .ok c) (h : t.At id index)
    (hindex : index ≤ c.nodes.length) :
    Ends (Error.Foreseen g env) (Visited g) (t.visit g env) := by
  unfold visit
  rw [h.containerId, hc, h.nodeIndex]
  exact Turn.visitNodes_ends hg hc _ h hindex rfl

/-! ### Walks -/

/-- A walk comes to rest, or runs out of hops. -/
theorem Visit.follow_ends (hg : g.Coherent) (hops : Nat) {v : Visit} (h : Visited g v) :
    Ends (Error.Foreseen g env) (AtRest g) (v.follow g env hops) := by
  -- On the hops that are left: each one enters a container that exists and visits it from its first
  -- node.
  induction hops generalizing v with
  | zero =>
    cases h with
    | rest h => exact h
    | leave h htarget => exact fun _ => .hops
  | succ hops ih =>
    cases h with
    | rest h => exact h
    | @leave t id index target h htarget =>
      have hstart : (t.enter target).At target.id 0 := by
        unfold Turn.At at *
        rw [Turn.course_enter, h]
      exact (Turn.visit_ends hg htarget hstart (Nat.zero_le _)).bind fun v hv => ih hv

/-- A walk from the cursor rests, whatever number of hops it takes. -/
theorem Turn.walk_ends (hg : g.Coherent) (hc : g.container id = .ok c) (h : t.At id index)
    (hindex : index ≤ c.nodes.length) :
    Ends (Error.Foreseen g env) (AtRest g) (t.walk g env) :=
  (Turn.visit_ends hg hc h hindex).bind fun _ hv => Visit.follow_ends hg env.maxHops hv

/-- What follows a step: the walk goes on behind the node, or the hops of a finished visit. -/
theorem Step.follow_ends (hg : g.Coherent) (hc : g.container id = .ok c)
    (hindex : index < c.nodes.length) {step : Step} (h : Executed g id index step) :
    Ends (Error.Foreseen g env) (AtRest g) (step.follow g env) := by
  cases step with
  | next t =>
    cases h with
    | next h => exact Turn.walk_ends hg hc h (by omega)
  | done v => exact Visit.follow_ends hg env.maxHops (h.visited hg)

/-! ### Answers -/

section Answers

variable {node : Node} {w : Awaited}

/-- The course of a turn that starts at an input. -/
def pendingCourse (id : String) (index : Nat) (w : Awaited) : Course :=
  { containerId := id, nodeIndex := index, waitingFor := some w }

/-- An input that asks again waits for the same answer as before. -/
theorem waits_of_input {kind : InputKind} {i : Input} (hnode : g.nodeAt id index = .ok (some node))
    (hkind : node.kind = .input kind i) (h : t.course = pendingCourse id index (.input kind)) :
    Waits g t := by
  refine waits_of_course hnode (w := .input kind) (by rw [hkind]; rfl) ?_
  rw [h, hkind]
  rfl

/-- A choice that is made leads on by an exit; no choice leads on as well. -/
theorem Turn.choose_ends (nodeId : String) (buttons : List Button) (payload : Inbound)
    (hc : g.container id = .ok c) (hindex : index < c.nodes.length)
    (h : t.course = pendingCourse id index .buttons) :
    Ends (Error.Foreseen g env) (Executed g id index) (t.choose g nodeId buttons payload) := by
  unfold choose
  -- The choice itself moves nothing, so the exit is looked up at the node that was asked.
  have hat : (t.answered.keepChoice (chosen? buttons payload)).At id index := by
    unfold At
    rw [course_keepChoice, course_answered, h]
    rfl
  -- Only the edge table can fail here, and only in ways that are foreseen.
  have hhandle : Ends (Error.Foreseen g env) (fun _ => True)
      ((t.answered.keepChoice (chosen? buttons payload)).choiceHandle g nodeId
        (chosen? buttons payload)) := by
    unfold choiceHandle
    cases chosen? buttons payload with
    | none => trivial
    | some b =>
      refine Ends.bind (Ends.lift _ (fun _ _ => trivial) fun _ he => foreseen_of_resolve he)
        fun target _ => ?_
      cases target <;> trivial
  exact hhandle.bind fun handle _ => Turn.followExit_ends handle hat hc hindex

/-- An answer that is not accepted is asked for again. -/
theorem Turn.fillIn_ends {kind : InputKind} {i : Input} (payload : Inbound)
    (hnode : g.nodeAt id index = .ok (some node)) (hkind : node.kind = .input kind i)
    (h : t.course = pendingCourse id index (.input kind)) :
    Executed g id index (t.fillIn env kind i payload) := by
  simp only [fillIn]
  split
  · refine Executed.next ?_
    unfold At
    rw [course_advance, course_answered, course_setOptional, h]
    rfl
  · exact Executed.rest (.waits (waits_of_input hnode hkind (by simpa using h)))

/-- An answer at a waiting node executes it: the reply goes through the node's own exits. -/
theorem Turn.answer_ends (payload : Inbound) (hc : g.container id = .ok c)
    (hget : c.nodes[index]? = some node) (hw : node.kind.awaits = some w)
    (h : t.course = pendingCourse id index w) :
    Ends (Error.Foreseen g env) (Executed g id index) (t.answer g env payload) := by
  have hlookup : g.nodeAt id index = .ok (some node) := by
    rw [Graph.nodeAt_of_container hc, hget]
  have hnode : t.node? g = .ok (some node) := by
    unfold node?
    rw [show t.state.containerId = id from congrArg Course.containerId h,
      show t.state.nodeIndex = index from congrArg Course.nodeIndex h, hlookup]
    rfl
  -- The cursor names the node that was looked up; after that only the two kinds that wait remain.
  unfold answer atQuestion
  rw [hnode]
  obtain ⟨nodeId, kind⟩ := node
  cases kind with
  | input kind i =>
    cases hw
    exact Turn.fillIn_ends payload hlookup rfl h
  | buttons buttons =>
    cases hw
    exact Turn.choose_ends nodeId buttons payload hc (List.getElem?_eq_some_iff.1 hget).1 h
  | _ => cases hw

/-- Asking again rests where the turn stood, with the same prompt or the same buttons. -/
theorem Turn.askAgain_ends (hlookup : g.nodeAt id index = .ok (some node))
    (hw : node.kind.awaits = some w) (h : t.course = pendingCourse id index w) :
    Ends (Error.Foreseen g env) (AtRest g) (t.askAgain g env) := by
  have hnode : t.node? g = .ok (some node) := by
    unfold node?
    rw [show t.state.containerId = id from congrArg Course.containerId h,
      show t.state.nodeIndex = index from congrArg Course.nodeIndex h, hlookup]
    rfl
  unfold askAgain atQuestion
  rw [hnode]
  obtain ⟨nodeId, kind⟩ := node
  cases kind with
  | input kind i =>
    cases hw
    exact AtRest.waits (waits_of_input hlookup rfl (by simpa using h))
  | buttons buttons =>
    cases hw
    refine AtRest.waits (waits_of_course hlookup (w := .buttons) rfl ?_)
    rw [course_offer, h]
    rfl
  | _ => cases hw

end Answers

/-! ### Turns -/

/-- The stamp at the end moves nothing. -/
theorem AtRest.finish (h : AtRest g t) : AtRest g (t.finish env) := by
  cases h with
  | waits h => exact .waits ⟨h.status, h.node, h.redirect⟩
  | yields h => exact .yields ⟨h.status, h.waitingFor, h.node, h.redirect, h.buttons⟩
  | closes h => exact .closes ⟨h.status, h.waitingFor, h.past, h.redirect, h.buttons⟩

/-- Where a turn rests the next one may start. -/
theorem AtRest.settled (h : AtRest g t) : t.state.Settled g := by
  cases h with
  | waits h =>
    obtain ⟨node, w, hnode, hawaits, hw, -⟩ := h.node
    exact .waits h.status ⟨node, w, hnode, hawaits, hw⟩
  | yields h =>
    obtain ⟨node, hnode, -⟩ := h.node
    exact .yields h.status h.waitingFor ⟨node, hnode⟩
  | closes h => exact .closes h.status h.waitingFor h.past

/-- A node that is looked up stands in a container. -/
theorem exists_container_of_nodeAt {node : Node} (h : g.nodeAt id index = .ok (some node)) :
    ∃ c, g.container id = .ok c ∧ c.nodes[index]? = some node := by
  unfold Graph.nodeAt at h
  cases hc : g.container id with
  | error e => rw [hc] at h; cases h
  | ok c =>
    rw [hc] at h
    exact ⟨c, rfl, Except.ok.inj h⟩

/-- What a turn does with a settled session that has not ended. -/
theorem Turn.react_ends (hg : g.Coherent) {s : State} (hs : s.Settled g) (hne : s.status ≠ .ended)
    (inbound : Option Inbound)
    (h : t.course = { containerId := s.containerId, nodeIndex := s.nodeIndex, status := s.status,
                      waitingFor := s.waitingFor }) :
    Ends (Error.Foreseen g env) (AtRest g) (t.react g env inbound) := by
  unfold react
  rw [show t.state.status = s.status from congrArg Course.status h,
    show t.state.waitingFor = s.waitingFor from congrArg Course.waitingFor h]
  cases hs with
  | fresh status waitingFor place =>
    obtain ⟨c, hc, hindex⟩ := place
    rw [status, waitingFor] at h ⊢
    exact Turn.walk_ends hg hc h hindex
  | waits status node =>
    -- Without an answer the input asks again; an answer goes to the node at the cursor.
    obtain ⟨node, w, hnode, hawaits, hw⟩ := node
    obtain ⟨c, hc, hget⟩ := exists_container_of_nodeAt hnode
    rw [status, hw] at h ⊢
    cases inbound with
    | none => exact Turn.askAgain_ends hnode hawaits h
    | some payload =>
      exact (Turn.answer_ends payload hc hget hawaits h).bind fun step hstep =>
        Step.follow_ends hg hc (List.getElem?_eq_some_iff.1 hget).1 hstep
  | yields status waitingFor node =>
    -- The script that sent the user away is not run again: the turn goes on behind its node.
    obtain ⟨node, hnode⟩ := node
    obtain ⟨c, hc, hget⟩ := exists_container_of_nodeAt hnode
    rw [status, waitingFor] at h
    rw [status]
    have hlt := (List.getElem?_eq_some_iff.1 hget).1
    have hat : t.resume.At s.containerId (s.nodeIndex + 1) := by
      unfold At
      rw [course_resume, h]
    exact Turn.walk_ends hg hc hat (by omega)
  | closes status => exact absurd status hne

/-- A turn from a settled session comes to rest, or fails in a foreseen way. -/
theorem Turn.run_ends (hg : g.Coherent) {s : State} (hs : s.Settled g) (drawn : Nat)
    (inbound : Option Inbound) :
    Ends (Error.Foreseen g env) (AtRest g) (Turn.run g env drawn s inbound) := by
  unfold run
  have hcourse : (receive env (inbound.filter (!·.isEmpty)) { state := s, drawn }).course =
      { containerId := s.containerId, nodeIndex := s.nodeIndex, status := s.status,
        waitingFor := s.waitingFor } := by
    rw [course_receive]
    rfl
  cases hstatus : s.status with
  | active =>
    exact (Turn.react_ends hg hs (by simp [hstatus]) _ hcourse).map fun _ h => h.finish
  | yielded =>
    exact (Turn.react_ends hg hs (by simp [hstatus]) _ hcourse).map fun _ h => h.finish
  | ended =>
    -- Nothing is done for a session that has ended, and of the settled ones only a closed one has.
    cases hs with
    | closes _ waitingFor past => exact AtRest.closes ⟨hstatus, waitingFor, past, rfl, rfl⟩
    | fresh status => rw [status] at hstatus; cases hstatus
    | waits status => rw [status] at hstatus; cases hstatus
    | yields status => rw [status] at hstatus; cases hstatus

/-! ### Conversations -/

/-- Between two turns every session is settled. -/
theorem settled_of_reachable (hg : g.Coherent) {s : State} (hs : Reachable g s) : s.Settled g := by
  induction hs with
  | start h =>
    -- A fresh session stands at the head of its first container; a turn settles what it leaves.
    obtain ⟨first, hstart, rfl⟩ := State.begin_eq_ok_iff.1 h
    obtain ⟨c, hc⟩ := hg.start hstart
    exact .fresh rfl rfl ⟨c, hc, Nat.zero_le _⟩
  | turn _ h ih => exact ((Turn.run_ends hg ih _ _).ok h).settled

/-- A turn that waits has another status than one that yields. -/
theorem Waits.not_yields (h : Waits g t) : ¬Yields g t := by
  intro hy
  have := h.status.symm.trans hy.status
  cases this

/-- A turn that waits has another status than one that closes. -/
theorem Waits.not_closes (h : Waits g t) : ¬Closes g t := by
  intro hc
  have := h.status.symm.trans hc.status
  cases this

/-- A turn that yields has another status than one that closes. -/
theorem Yields.not_closes (h : Yields g t) : ¬Closes g t := by
  intro hc
  have := h.status.symm.trans hc.status
  cases this

/-- Buttons are offered exactly where they are awaited. -/
theorem AtRest.buttons (h : AtRest g t) :
    (t.state.waitingFor = some .buttons → ∃ nodeId buttons,
      g.nodeAt t.state.containerId t.state.nodeIndex = .ok (some ⟨nodeId, .buttons buttons⟩) ∧
      t.output.buttons = buttons.map fun b => ⟨b.id, Text.interpolate t.state.vars b.label⟩) ∧
    (t.state.waitingFor ≠ some .buttons → t.output.buttons = []) := by
  -- Buttons are shown in one case only, so the other two answer by the value of `waitingFor`.
  cases h with
  | yields h =>
    rw [h.waitingFor]
    exact ⟨fun hw => absurd hw (by simp), fun _ => h.buttons⟩
  | closes h =>
    rw [h.waitingFor]
    exact ⟨fun hw => absurd hw (by simp), fun _ => h.buttons⟩
  | waits h =>
    obtain ⟨⟨nodeId, kind⟩, w, hnode, hawaits, hw, hbuttons⟩ := h.node
    rw [hw]
    cases kind with
    | input kind i =>
      cases hawaits
      exact ⟨fun hb => absurd hb (by simp), fun _ => hbuttons⟩
    | buttons buttons =>
      cases hawaits
      exact ⟨fun _ => ⟨nodeId, buttons, hnode, hbuttons⟩, fun hb => absurd rfl hb⟩
    | _ => cases hawaits

/-! ### A short conversation -/

namespace Invitation

/-- A flow that greets, offers two buttons, and asks those who accept for their name. -/
def flow : Definition where
  containers :=
    [⟨"door", [⟨"hello", .textBubble "Hello"⟩,
        ⟨"choice", .buttons [⟨"yes", "Yes, \x7b\x7bname\x7d\x7d", none⟩, ⟨"no", "No", none⟩]⟩]⟩,
      ⟨"hall", [⟨"name", .input .text { prompt := some "Your name?", saveVariable := some "name" }⟩,
        ⟨"page", .script { code := "redirect()" }⟩]⟩]
  edges := [⟨"door", some "choice-btn-yes", "hall"⟩]

/-- Scripts send the user to one page. -/
def setting : Environment where
  now := ⟨0, 0⟩
  patterns := .refusing
  sandbox := fun _ _ _ _ _ => .ok { redirectUrl := some "/next" }
  token := fun _ => ""

/-- The session as it begins. -/
def begun : State where
  sessionId := "s"
  flowId := "f"
  flowVersion := 1
  containerId := "door"
  createdAt := setting.now
  updatedAt := setting.now

/-- The turn that offers the buttons. -/
def offering : Turn where
  state :=
    { begun with
      nodeIndex := 1
      log := [.outbound (.ofText "Hello") setting.now]
      waitingFor := some .buttons }
  messages := [.ofText "Hello"]
  buttons := [⟨"yes", "Yes, \x7b\x7bname\x7d\x7d"⟩, ⟨"no", "No"⟩]

/-- The turn that asks for the name of who accepts. -/
def asking : Turn where
  state :=
    { begun with
      containerId := "hall"
      log := [.outbound (.ofText "Hello") setting.now,
        .inbound { buttonId := some "yes" } setting.now,
        .outbound (.ofText "Your name?") setting.now]
      waitingFor := some (.input .text) }
  messages := [.ofText "Your name?"]

/-- The session that shows the buttons of the invitation is reachable. -/
theorem reachable_offering : Reachable (Graph.ofDefinition flow) offering.state := by
  have hbegin : State.begin (Graph.ofDefinition flow) "s" "f" 1 setting.now = .ok begun := rfl
  have hrun : Turn.run (Graph.ofDefinition flow) setting 0 begun none = .ok offering := by
    decide +kernel
  exact .turn (.start hbegin) hrun

end Invitation

/-! ### The three ways exclude each other -/

/-- After every turn of every conversation the session rests in exactly one of three ways, and the
reply shows how: it waits at the input that asks, it yields at the script that redirects, or it is
closed past the last node of a container. Buttons are offered exactly where they are awaited. -/
theorem rests_in_one_way (d : Definition) {env : Environment} {drawn : Nat}
    {inbound : Option Inbound} {s : State} {t : Turn} (hs : Reachable (Graph.ofDefinition d) s)
    (h : Turn.run (Graph.ofDefinition d) env drawn s inbound = .ok t) :
    let g := Graph.ofDefinition d
    ((Waits g t ∧ ¬Yields g t ∧ ¬Closes g t) ∨ (¬Waits g t ∧ Yields g t ∧ ¬Closes g t) ∨
        (¬Waits g t ∧ ¬Yields g t ∧ Closes g t)) ∧
      t.output.status = t.state.status ∧ t.output.waitingFor = t.state.waitingFor ∧
      (t.state.waitingFor = some .buttons → ∃ nodeId buttons,
        g.nodeAt t.state.containerId t.state.nodeIndex = .ok (some ⟨nodeId, .buttons buttons⟩) ∧
        t.output.buttons = buttons.map fun b => ⟨b.id, Text.interpolate t.state.vars b.label⟩) ∧
      (t.state.waitingFor ≠ some .buttons → t.output.buttons = []) := by
  have hg := Graph.coherent_ofDefinition d
  have hrest := (Turn.run_ends hg (settled_of_reachable hg hs) drawn inbound).ok h
  -- The status tells the three ways apart, so the one found excludes the other two.
  refine ⟨?_, rfl, rfl, hrest.buttons⟩
  cases hrest with
  | waits h => exact .inl ⟨h, h.not_yields, h.not_closes⟩
  | yields h => exact .inr (.inl ⟨fun hw => hw.not_yields h, h, h.not_closes⟩)
  | closes h =>
    exact .inr (.inr ⟨fun hw => hw.not_closes h, fun hy => hy.not_closes h, h⟩)

/-- Whoever accepts the invitation is asked for a name. -/
theorem rests_in_one_way_invitation :
    Reachable (Graph.ofDefinition Invitation.flow) Invitation.offering.state ∧
      Turn.run (Graph.ofDefinition Invitation.flow) Invitation.setting 0 Invitation.offering.state
        (some { buttonId := some "yes" }) = .ok Invitation.asking ∧
      Waits (Graph.ofDefinition Invitation.flow) Invitation.asking := by
  have hrun : Turn.run (Graph.ofDefinition Invitation.flow) Invitation.setting 0
      Invitation.offering.state (some { buttonId := some "yes" }) = .ok Invitation.asking := by
    decide +kernel
  -- The other two ways leave another status than the one this turn has.
  obtain ⟨hwaits | hyields | hcloses, -⟩ :=
    rests_in_one_way Invitation.flow Invitation.reachable_offering hrun
  · exact ⟨Invitation.reachable_offering, hrun, hwaits.1⟩
  · have := hyields.2.1.status
    cases this
  · have := hcloses.2.2.status
    cases this

end Session

end Dialogue
