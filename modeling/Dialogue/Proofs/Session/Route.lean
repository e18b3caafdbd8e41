import Dialogue.Proofs.Session.Path
import Dialogue.Proofs.Session.Suspension
import Mathlib.Data.List.Chain

namespace Dialogue

/-!
# The walk of a turn is a walk of the definition

A turn goes from container to container along edges, and by nothing else. Which exit it takes is
told by the nodes: buttons by the answer, conditions by the variables, and the end of a container
by its fall-through. That the fall-through is never taken behind buttons or a condition is checked
nowhere; it holds because a turn gets behind such a node only when another node follows.

* `Leads`, `LeavesBy`, `FallsThrough`: one edge leaves by an exit; what follows when none does.
* `BranchesBy`, `AnsweredBy`: the handle of a condition, of buttons that are answered.
* `Placed`: the cursor is at a node, or behind a last node that has no handles.
* `Opens`, `Pass.Follows`: what a turn begins with, and each pass of it, follow the definition.
* `turn_walks_the_definition`: so does the whole turn, and its moves are edges.
-/

namespace Flow

/-- Whether a node is left by handles. -/
def Node.Kind.isFork : Node.Kind → Bool
  | .buttons _ | .condition _ => true
  | _ => false

/-- No handles lead on behind the last node of a container, if it has nodes at all. -/
def Container.EndsPlainly (c : Container) : Prop :=
  ∀ last, c.nodes.getLast? = some last → last.kind.isFork = false

/-- One edge leaves a container by an exit, and no other one; it leads to a target. -/
def Definition.Leads (d : Definition) (source : String) (exit : Exit) (target : String) : Prop :=
  ∃ e, d.leaving source exit = [e] ∧ e.target = target

end Flow

namespace Session

open Dialogue.Flow

/-! ### Exits -/

/-- What leaving a node by a handle leads to: its edge is followed; without one the next node
follows, and without a next node the conversation ends. -/
inductive LeavesBy (d : Definition) (handle : Handle) (t : Turn) : Step → Prop
  | edge {target : Container} (h : d.Leads t.state.containerId (some handle.text) target.id)
    (htarget : (Graph.ofDefinition d).container target.id = .ok target) :
    LeavesBy d handle t (.done (.leave t target))
  | next {node : Node} (h : d.leaving t.state.containerId (some handle.text) = [])
    (hnode : t.advance.node? (Graph.ofDefinition d) = .ok (some node)) :
    LeavesBy d handle t (.next t.advance)
  | close (h : d.leaving t.state.containerId (some handle.text) = [])
    (hnode : t.advance.node? (Graph.ofDefinition d) = .ok none) :
    LeavesBy d handle t (.done (.rest t.advance.close))

/-- What the end of a container leads to: its edge is followed; without one the conversation
ends. -/
inductive FallsThrough (d : Definition) (t : Turn) : Step → Prop
  | edge {target : Container} (h : d.Leads t.state.containerId none target.id)
    (htarget : (Graph.ofDefinition d).container target.id = .ok target) :
    FallsThrough d t (.done (.leave t target))
  | close (h : d.leaving t.state.containerId none = []) : FallsThrough d t (.done (.rest t.close))

/-- The handle by which a condition is left: the one of the first group that holds, or the one for
when none holds. -/
inductive BranchesBy (patterns : Pattern.Engine) (nodeId : String) (vars : Dictionary String) :
    List Group → Handle → Prop
  | first {before after : List Group} {group : Group}
    (hbefore : ∀ other ∈ before, other.holds patterns vars = false)
    (h : group.holds patterns vars) :
    BranchesBy patterns nodeId vars (before ++ group :: after) (.group nodeId group.id)
  | otherwise {groups : List Group} (h : ∀ group ∈ groups, group.holds patterns vars = false) :
    BranchesBy patterns nodeId vars groups (.otherwise nodeId)

/-- The handle by which answered buttons are left: the one of the button that is chosen if an edge
leaves by it, and else the one for any other answer. -/
inductive AnsweredBy (d : Definition) (id nodeId : String) : Option Button → Handle → Prop
  | own {b : Button} (h : d.leaving id (some (Handle.button nodeId b.id).text) ≠ []) :
    AnsweredBy d id nodeId (some b) (.button nodeId b.id)
  | unconnected {b : Button} (h : d.leaving id (some (Handle.button nodeId b.id).text) = []) :
    AnsweredBy d id nodeId (some b) (.fallback nodeId)
  | unrecognized : AnsweredBy d id nodeId none (.fallback nodeId)

variable {d : Definition} {env : Environment} {t : Turn} {step : Step} {id : String} {index : Nat}

/-- Where the graph resolves an exit, an edge of the flow leads there. -/
theorem leads_of_resolve {exit : Exit} {c : Container}
    (h : (Graph.ofDefinition d).resolve id exit = .ok (some c)) : d.Leads id exit c.id := by
  obtain ⟨e, he, hc⟩ := Graph.resolve_eq_ok_iff.1 h
  exact ⟨e, he, (Graph.id_of_container hc).symm⟩

/-- What is looked up for a turn was looked up in the graph. -/
theorem eq_of_lift {α : Type} {look : Except GraphError α} {a : α} (h : t.lift look = .ok a) :
    look = .ok a := by
  cases look with
  | ok b => cases h; rfl
  | error e => cases h

/-- Following an exit is leaving the node by its handle: by the edge, to the next node, or to the
end. -/
theorem leavesBy_followExit (handle : Handle) :
    Ends (fun _ => True) (LeavesBy d handle t) (t.followExit (Graph.ofDefinition d) handle) := by
  refine Ends.found fun target htarget => ?_
  have hresolve := eq_of_lift htarget
  cases target with
  | some target =>
    exact LeavesBy.edge (leads_of_resolve hresolve) (Graph.container_of_resolve hresolve)
  | none =>
    have hunconnected := Graph.resolve_eq_ok_iff.1 hresolve
    refine Ends.found fun node hnode => ?_
    cases node with
    | some node => exact LeavesBy.next hunconnected hnode
    | none => exact LeavesBy.close hunconnected hnode

/-- The handle that a condition is left by is the one of the first group that holds. -/
theorem branchesBy_branch (nodeId : String) (groups : List Group) :
    BranchesBy env.patterns nodeId t.state.vars groups (t.branch env nodeId groups) := by
  unfold Turn.branch firstHolding
  cases hfind : groups.find? (·.holds env.patterns t.state.vars) with
  | none => exact .otherwise (by simpa using List.find?_eq_none.1 hfind)
  | some group =>
    obtain ⟨hholds, before, after, rfl, hbefore⟩ := List.find?_eq_some_iff_append.1 hfind
    exact .first (by simpa using hbefore) hholds

/-- A choice is answered by the handle of its button if that has an edge, else by the button alone.
-/
theorem answeredBy_choiceHandle (nodeId : String) (choice : Option Button) :
    Ends (fun _ => True) (AnsweredBy d t.state.containerId nodeId choice)
      (t.choiceHandle (Graph.ofDefinition d) nodeId choice) := by
  cases choice with
  | none => exact AnsweredBy.unrecognized
  | some b =>
    refine Ends.found fun target htarget => ?_
    have hresolve := eq_of_lift htarget
    cases target with
    | none => exact AnsweredBy.unconnected (Graph.resolve_eq_ok_iff.1 hresolve)
    | some target =>
      obtain ⟨e, he, -⟩ := leads_of_resolve hresolve
      exact AnsweredBy.own (by rw [he]; exact List.cons_ne_nil e [])

/-! ### Where the cursor is -/

/-- The cursor is at a node, or behind the last one if that has no handles. -/
def PlacedAt (g : Graph) (id : String) (index : Nat) : Prop :=
  ∃ c, g.container id = .ok c ∧ index ≤ c.nodes.length ∧
    (index = c.nodes.length → c.EndsPlainly)

/-- The cursor of a turn is at a node, or behind a last one that has no handles. -/
def Placed (g : Graph) (t : Turn) : Prop :=
  PlacedAt g t.state.containerId t.state.nodeIndex

variable {g : Graph}

/-- Where a turn goes on after a step the cursor is well placed. -/
abbrev Lands (g : Graph) (step : Step) : Prop :=
  step.Meets (Placed g) (fun _ => True)

/-- A container is entered at its first node; if it has none, no handles are left behind. -/
theorem placedAt_zero {c : Container} (hc : g.container id = .ok c) : PlacedAt g id 0 := by
  refine ⟨c, hc, Nat.zero_le _, fun hzero last hlast => ?_⟩
  rw [List.length_eq_zero_iff.1 hzero.symm] at hlast
  cases hlast

/-- A node that is found is a place in a container. -/
theorem placedAt_of_nodeAt {node : Node} (h : g.nodeAt id index = .ok (some node)) :
    PlacedAt g id index := by
  obtain ⟨c, hc, hget⟩ := exists_container_of_nodeAt h
  have hlt := (List.getElem?_eq_some_iff.1 hget).1
  exact ⟨c, hc, hlt.le, fun hend => absurd hend hlt.ne⟩

/-- Going on behind a node without handles. -/
theorem placedAt_succ {node : Node} (h : g.nodeAt id index = .ok (some node))
    (hfork : node.kind.isFork = false) : PlacedAt g id (index + 1) := by
  obtain ⟨c, hc, hget⟩ := exists_container_of_nodeAt h
  have hlt := (List.getElem?_eq_some_iff.1 hget).1
  refine ⟨c, hc, hlt, fun hend last hlast => ?_⟩
  rw [List.getLast?_eq_getElem?, ← hend, Nat.add_sub_cancel, hget] at hlast
  cases hlast
  exact hfork

/-- Whoever leaves by a handle gets behind the node only when another node follows. -/
theorem LeavesBy.meets {handle : Handle} (h : LeavesBy d handle t step) :
    Lands (Graph.ofDefinition d) step := by
  cases h with
  | edge _ htarget => exact .leave (placedAt_zero htarget)
  | next _ hnode => exact .next (placedAt_of_nodeAt (eq_of_lift hnode))
  | close => exact .rest trivial

/-- Who falls through a container lands at the start of another one, or the conversation is closed.
-/
theorem FallsThrough.meets (h : FallsThrough d t step) :
    Lands (Graph.ofDefinition d) step := by
  cases h with
  | edge _ htarget => exact .leave (placedAt_zero htarget)
  | close => exact .rest trivial

/-! ### Passes follow the definition -/

/-- The turn goes on with the next node, or rests at the node. -/
inductive Stays (t : Turn) : Step → Prop
  | next {t' : Turn} (hid : t'.state.containerId = t.state.containerId)
    (hindex : t'.state.nodeIndex = t.state.nodeIndex + 1) : Stays t (.next t')
  | rest {t' : Turn} (hid : t'.state.containerId = t.state.containerId)
    (hindex : t'.state.nodeIndex = t.state.nodeIndex) : Stays t (.done (.rest t'))

/-- What a pass does: a condition is left by its branch, every other node leads to the next one or
is where the turn rests, and the end of a container is left by its fall-through. -/
inductive Pass.Follows (d : Definition) (patterns : Pattern.Engine) : Pass → Prop
  | branches {t : Turn} {step : Step} {nodeId : String} {groups : List Group} {handle : Handle}
    (hnode : t.node? (Graph.ofDefinition d) = .ok (some ⟨nodeId, .condition groups⟩))
    (hhandle : BranchesBy patterns nodeId t.state.vars groups handle)
    (h : LeavesBy d handle t step) : Pass.Follows d patterns ⟨t, step⟩
  | stays {t : Turn} {step : Step} {node : Node}
    (hnode : t.node? (Graph.ofDefinition d) = .ok (some node))
    (hcondition : ∀ groups, node.kind ≠ .condition groups) (h : Stays t step) :
    Pass.Follows d patterns ⟨t, step⟩
  | falls {t : Turn} {step : Step} {c : Container}
    (hc : (Graph.ofDefinition d).container t.state.containerId = .ok c)
    (hpast : t.state.nodeIndex = c.nodes.length) (hlast : c.EndsPlainly)
    (h : FallsThrough d t step) : Pass.Follows d patterns ⟨t, step⟩

/-- A turn that has only moved the cursor on stays in its container. -/
theorem stays_next {t' : Turn} (h : t'.course = t.advance.course) : Stays t (.next t') :=
  .next (congrArg Course.containerId h) (congrArg Course.nodeIndex h)

/-- Leaving a script does not leave the container. -/
theorem stays_leaveScript {t' : Turn} (url : Option String) (h : t'.course = t.course) :
    Stays t (t'.leaveScript env url) := by
  cases url with
  | none => exact stays_next (by rw [Turn.course_advance, Turn.course_advance, h])
  | some url => exact .rest (congrArg Course.containerId h) (congrArg Course.nodeIndex h)

/-- A node that is no condition does not leave its container. -/
theorem stays_execute (node : Node) (hcondition : ∀ groups, node.kind ≠ .condition groups) :
    Ends (fun _ => True) (Stays t) (t.execute g env node) := by
  unfold Turn.execute
  -- Branches are the only nodes with exits of their own; all others move the cursor on, or rest.
  cases hkind : node.kind with
  | textBubble content => exact stays_next (by simp)
  | numberBubble content => exact stays_next (by simp)
  | mediaBubble kind url alt => exact stays_next (by simp)
  | input kind i =>
    have hask : (t.ask env i).course = t.course := Turn.course_ask i
    exact Stays.rest (congrArg Course.containerId hask) (congrArg Course.nodeIndex hask)
  | buttons options => exact Stays.rest rfl rfl
  | condition groups => exact absurd hkind (hcondition groups)
  | assignment a =>
    dsimp only [Turn.assign]
    split
    · refine Ends.look fun outcome => ?_
      cases outcome with
      | none => exact stays_next rfl
      | some outcome => exact stays_leaveScript _ (by simp)
    · exact stays_next (by simp)
  | script s =>
    refine Ends.look fun outcome => ?_
    cases outcome with
    | none => exact stays_next rfl
    | some outcome => exact stays_leaveScript _ (by simp)

/-- What stays at a node without handles, or rests there, is well placed. -/
theorem Stays.meets {node : Node} (h : Stays t step)
    (hnode : t.node? g = .ok (some node)) (hfork : node.kind.isFork = false) :
    Lands g step := by
  cases h with
  | next hid hindex =>
    refine .next ?_
    unfold Placed
    rw [hid, hindex]
    exact placedAt_succ (eq_of_lift hnode) hfork
  | rest => exact .rest trivial

/-- A pass from a well placed cursor follows the definition, and leads to such a cursor. -/
theorem follows_pass (h : Placed (Graph.ofDefinition d) t) :
    Ends (fun _ => True)
      (fun step => Pass.Follows d env.patterns ⟨t, step⟩ ∧ Lands (Graph.ofDefinition d) step)
      (t.pass (Graph.ofDefinition d) env) := by
  refine Ends.found fun node hnode => ?_
  cases node with
  | none =>
    -- There is no node only at the end, and there the cursor is only behind a plain one.
    obtain ⟨c, hc, hle, hplain⟩ := h
    have hget : c.nodes[t.state.nodeIndex]? = none := by
      rw [Turn.node?_of_container hc] at hnode
      exact Except.ok.inj hnode
    have hpast : t.state.nodeIndex = c.nodes.length :=
      hle.antisymm (List.getElem?_eq_none_iff.1 hget)
    refine Ends.found fun target htarget => ?_
    have hresolve := eq_of_lift htarget
    cases target with
    | some target =>
      have hfalls : FallsThrough d t (.done (.leave t target)) :=
        .edge (leads_of_resolve hresolve) (Graph.container_of_resolve hresolve)
      exact ⟨.falls hc hpast (hplain hpast) hfalls, hfalls.meets⟩
    | none =>
      have hfalls : FallsThrough d t (.done (.rest t.close)) :=
        .close (Graph.resolve_eq_ok_iff.1 hresolve)
      exact ⟨.falls hc hpast (hplain hpast) hfalls, hfalls.meets⟩
  | some node =>
    obtain ⟨nodeId, kind⟩ := node
    cases kind with
    | condition groups =>
      exact (leavesBy_followExit (t.branch env nodeId groups)).mono (fun _ _ => trivial)
        fun step h => ⟨.branches hnode (branchesBy_branch nodeId groups) h, h.meets⟩
    | buttons options => exact ⟨.stays hnode (by simp) (.rest rfl rfl), .rest trivial⟩
    | _ =>
      exact (stays_execute _ (by simp)).mono (fun _ _ => trivial) fun step h =>
        ⟨.stays hnode (by simp) h, h.meets hnode rfl⟩

/-! ### Openings follow the definition -/

/-- What a turn begins with: buttons that are answered are left by the handle of the answer; in
every other case the turn stays in its container. -/
inductive Opens (d : Definition) (inbound : Option Inbound) (t : Turn) : Step → Prop
  | chooses {nodeId : String} {buttons : List Button} {payload : Inbound} {handle : Handle}
    {step : Step} (hwaiting : t.state.waitingFor = some .buttons)
    (hinbound : inbound = some payload)
    (hnode : t.node? (Graph.ofDefinition d) = .ok (some ⟨nodeId, .buttons buttons⟩))
    (hhandle : AnsweredBy d t.state.containerId nodeId (chosen? buttons payload) handle)
    (h : LeavesBy d handle (t.answered.keepChoice (chosen? buttons payload)) step) :
    Opens d inbound t step
  | begins (hwaiting : t.state.waitingFor = none) : Opens d inbound t (.next t)
  | stays {step : Step} (hchoice : t.state.waitingFor ≠ some .buttons ∨ inbound = none)
    (h : Stays t step) : Opens d inbound t step

/-- A session that a turn may find: it is new, or it is where a turn rests. -/
inductive State.Poised (g : Graph) (s : State) : Prop
  | begun (hstatus : s.status = .active) (hwaiting : s.waitingFor = none)
    (hplaced : PlacedAt g s.containerId s.nodeIndex)
  | waits {node : Node} {w : Awaited} (hstatus : s.status = .active)
    (hwaiting : s.waitingFor = some w)
    (hnode : g.nodeAt s.containerId s.nodeIndex = .ok (some node))
    (hawaits : node.kind.awaits = some w)
  | yields {node : Node} (hstatus : s.status = .yielded) (hwaiting : s.waitingFor = none)
    (hnode : g.nodeAt s.containerId s.nodeIndex = .ok (some node))
    (hmay : node.kind.mayRedirect)
  | ended (hstatus : s.status = .ended)

/-- A session at rest is poised: it waits, has yielded or has ended where it stands. -/
theorem AtRest.poised (h : AtRest g t) : t.state.Poised g := by
  cases h with
  | waits h =>
    obtain ⟨node, w, hnode, hawaits, hw, -⟩ := h.node
    exact .waits h.status hw hnode hawaits
  | yields h =>
    obtain ⟨node, hnode, hmay⟩ := h.node
    exact .yields h.status h.waitingFor hnode hmay
  | closes h => exact .ended h.status

/-- Between two turns of a conversation the next one may begin. -/
theorem poised_of_reachable (hg : g.Coherent) {s : State} (hs : Reachable g s) : s.Poised g := by
  cases hs with
  | start h =>
    -- A session that has just begun stands before the first node of the start container.
    obtain ⟨first, hstart, rfl⟩ := State.begin_eq_ok_iff.1 h
    obtain ⟨c, hc⟩ := hg.start hstart
    exact .begun rfl rfl (placedAt_zero hc)
  | turn hs h => exact ((Turn.run_ends hg (settled_of_reachable hg hs) _ _).ok h).poised

/-- What the user sends does not move a poised session. -/
theorem State.Poised.received {drawn : Nat} {s : State} {inbound : Option Inbound}
    (h : s.Poised g) : (Turn.received env drawn s inbound).state.Poised g := by
  unfold Turn.received Turn.receive
  split
  · cases h with
    | begun hstatus hwaiting hplaced => exact .begun hstatus hwaiting hplaced
    | waits hstatus hwaiting hnode hawaits => exact .waits hstatus hwaiting hnode hawaits
    | yields hstatus hwaiting hnode hmay => exact .yields hstatus hwaiting hnode hmay
    | ended hstatus => exact .ended hstatus
  · exact h

/-- A node that may redirect is no fork. -/
theorem isFork_of_mayRedirect {kind : Node.Kind} (h : kind.mayRedirect) : kind.isFork = false := by
  cases kind <;> first | rfl | cases h

/-- An input is answered where it stands: the cursor moves on, or it asks again. -/
theorem stays_fillIn (kind : InputKind) (i : Input) (payload : Inbound) :
    Stays t (t.fillIn env kind i payload) := by
  simp only [Turn.fillIn]
  split
  · have hkeep : (t.setOptional i.saveVariable
        (Text.trimmed (payload.text.getD ""))).course = t.course := Turn.course_setOptional _ _
    exact .next (congrArg Course.containerId hkeep)
      (congrArg (fun c : Course => c.nodeIndex + 1) hkeep)
  · have hask : ((t.sayOptional env i.retryMessage).ask env i).course = t.course := by simp
    exact .rest (congrArg Course.containerId hask) (congrArg Course.nodeIndex hask)

/-- Asking again does not move the cursor. -/
theorem stays_askAgain :
    Ends (fun _ => True) (fun t' => Stays t (.done (.rest t'))) (t.askAgain g env) := by
  refine .atQuestion (fun _ _ _ => Stays.rest rfl rfl) fun _ _ i _ => ?_
  have hask : (t.ask env i).course = t.course := Turn.course_ask i
  exact Stays.rest (congrArg Course.containerId hask) (congrArg Course.nodeIndex hask)

/-- Taking an answer in moves the cursor nowhere. -/
theorem containerId_keepChoice (choice : Option Button) :
    (t.answered.keepChoice choice).state.containerId = t.state.containerId := by
  have hcourse : (t.answered.keepChoice choice).course = t.answered.course :=
    Turn.course_keepChoice choice
  exact congrArg Course.containerId hcourse

/-- A choice opens a turn by leaving the buttons, and lands where a walk can go on. -/
theorem opens_choose {nodeId : String} {buttons : List Button} {payload : Inbound}
    (hwaiting : t.state.waitingFor = some .buttons)
    (hnode : t.node? (Graph.ofDefinition d) = .ok (some ⟨nodeId, .buttons buttons⟩)) :
    Ends (fun _ => True)
      (fun step => Opens d (some payload) t step ∧ Lands (Graph.ofDefinition d) step)
      (t.choose (Graph.ofDefinition d) nodeId buttons payload) := by
  -- The handle is the answer to the choice, and following it leaves the node.
  refine Ends.found fun handle hhandle => ?_
  have hanswered := (answeredBy_choiceHandle nodeId (chosen? buttons payload)).ok hhandle
  rw [containerId_keepChoice] at hanswered
  exact (leavesBy_followExit handle).mono (fun _ _ => trivial) fun step h =>
    ⟨.chooses hwaiting rfl hnode hanswered h, h.meets⟩

/-- What a turn begins with follows the definition, and leads to a well placed cursor. -/
theorem opens_opening (h : t.state.Poised (Graph.ofDefinition d))
    (hne : t.state.status ≠ .ended) (inbound : Option Inbound) :
    Ends (fun _ => True)
      (fun step => Opens d inbound t step ∧ Lands (Graph.ofDefinition d) step)
      (t.opening (Graph.ofDefinition d) env inbound) := by
  unfold Turn.opening
  cases h with
  | begun hstatus hwaiting hplaced =>
    rw [hstatus, hwaiting]
    exact ⟨.begins hwaiting, .next hplaced⟩
  | yields hstatus hwaiting hnode hmay =>
    rw [hstatus]
    refine ⟨.stays (.inl (by simp [hwaiting])) (.next rfl rfl), .next ?_⟩
    exact placedAt_succ hnode (isFork_of_mayRedirect hmay)
  | ended hstatus => exact absurd hstatus hne
  | @waits node w hstatus hwaiting hat hawaits =>
    have hnode : t.node? (Graph.ofDefinition d) = .ok (some node) := by
      unfold Turn.node?
      rw [hat]
      rfl
    rw [hstatus, hwaiting]
    cases inbound with
    | none => exact stays_askAgain.map fun t' h => ⟨.stays (.inr rfl) h, .rest trivial⟩
    | some payload =>
      show Ends _ _ (t.answer (Graph.ofDefinition d) env payload)
      unfold Turn.answer Turn.atQuestion
      rw [hnode]
      obtain ⟨nodeId, kind⟩ := node
      -- Only buttons and inputs await an answer.
      cases kind with
      | buttons options =>
        cases hawaits
        exact opens_choose hwaiting hnode
      | input kind i =>
        cases hawaits
        have hstays : Stays t (t.fillIn env kind i payload) := stays_fillIn kind i payload
        exact ⟨.stays (.inl (by simp [hwaiting])) hstays, hstays.meets hnode rfl⟩
      | _ => cases hawaits

/-! ### Routes -/

/-- The container that a step leads to, if it leaves one. -/
def Step.target? : Step → Option String
  | .done (.leave _ target) => some target.id
  | _ => none

/-- The containers that the cursor moves through, beginning with the one where it stands. -/
def routeOf (start : String) (steps : List Step) : List String :=
  start :: steps.filterMap Step.target?

/-- A step from a container stays there, or follows the one edge of an exit. -/
inductive Departs (d : Definition) (id : String) : Step → Prop
  | next {t : Turn} (h : t.state.containerId = id) : Departs d id (.next t)
  | rest {t : Turn} (h : t.state.containerId = id) : Departs d id (.done (.rest t))
  | leave {t : Turn} {exit : Exit} {target : Container} (h : d.Leads id exit target.id) :
    Departs d id (.done (.leave t target))

/-- Who leaves a node by a handle departs by an exit of its container, or rests. -/
theorem LeavesBy.departs {handle : Handle} (h : LeavesBy d handle t step) :
    Departs d t.state.containerId step := by
  cases h with
  | edge h => exact .leave h
  | next => exact .next rfl
  | close => exact .rest rfl

/-- Who stays in a container departs from it nowhere. -/
theorem Stays.departs (h : Stays t step) : Departs d t.state.containerId step := by
  cases h with
  | next hid => exact .next hid
  | rest hid => exact .rest hid

/-- A pass over a container departs by one of its exits, or rests. -/
theorem Pass.Follows.departs {patterns : Pattern.Engine} {p : Pass} (h : p.Follows d patterns) :
    Departs d p.turn.state.containerId p.step := by
  cases h with
  | branches _ _ h => exact h.departs
  | stays _ _ h => exact h.departs
  | falls _ _ _ h =>
    cases h with
    | edge h => exact .leave h
    | close => exact .rest rfl

/-- An opening departs from the container of the cursor, or rests. -/
theorem Opens.departs {inbound : Option Inbound} (h : Opens d inbound t step) :
    Departs d t.state.containerId step := by
  cases h with
  | chooses _ _ _ _ h =>
    rw [← containerId_keepChoice]
    exact h.departs
  | begins => exact .next rfl
  | stays _ h => exact h.departs

/-- A path whose steps depart along edges has a route of edges, to where it rests. -/
theorem Path.route {passes : List Pass} {last : Turn} (hpath : Path g env step passes last)
    (hstep : Departs d id step)
    (hpasses : ∀ p ∈ passes, Departs d p.turn.state.containerId p.step) :
    (routeOf id (step :: passes.map Pass.step)).IsChain (fun a b => ∃ exit, d.Leads a exit b) ∧
      (routeOf id (step :: passes.map Pass.step)).getLast? = some last.state.containerId := by
  induction hpath generalizing id with
  | rest t =>
    cases hstep with
    | rest h => exact ⟨.singleton id, by rw [h]; rfl⟩
  | @pass step next t last passes ht hpass hpath ih =>
    have hnext : Departs d t.state.containerId next := hpasses ⟨t, next⟩ (by simp)
    obtain ⟨hchain, hlast⟩ := ih hnext fun p hp => hpasses p (by simp [hp])
    -- A step that stays leaves the route as it is; one that leaves puts its container in front.
    cases hstep with
    | next h =>
      cases ht
      rw [h] at hchain hlast
      exact ⟨hchain, hlast⟩
    | rest => cases ht
    | @leave t' exit target h =>
      cases ht
      exact ⟨.cons_cons ⟨exit, h⟩ hchain, hlast⟩

/-- A step puts one container in front of a route if it leaves one. -/
theorem length_routeOf_cons (step : Step) (steps : List Step) :
    (routeOf id (step :: steps)).length = step.hops + (routeOf id steps).length := by
  match step with
  | .next _ => exact (Nat.zero_add _).symm
  | .done (.rest _) => exact (Nat.zero_add _).symm
  | .done (.leave _ _) => exact Nat.add_comm _ 1

/-- A route has one container more than the passes leave. -/
theorem length_routeOf (passes : List Pass) :
    (routeOf id (passes.map Pass.step)).length = hopsOf passes + 1 := by
  induction passes with
  | nil => rfl
  | cons p rest ih => rw [List.map_cons, length_routeOf_cons, ih, hopsOf, Nat.add_assoc]

/-! ### The whole turn -/

/-- The walk of a turn is a walk of the definition. A session that has ended stays where it is. Any
other turn is a path: it opens with the answer, if buttons are answered, and each of its passes
follows the definition. The containers that it moves through begin with the one of the session and
end with the one where the turn rests; each of them is the target of the one edge that leaves the
container before it by an exit; and there are no more moves than hops are allowed. -/
theorem turn_walks_the_definition (d : Definition) {env : Environment} {drawn : Nat}
    {inbound : Option Inbound} {s : State} {t : Turn} (hs : Reachable (Graph.ofDefinition d) s)
    (h : Turn.run (Graph.ofDefinition d) env drawn s inbound = .ok t) :
    (s.status = .ended ∧ t.state.containerId = s.containerId ∧
      t.state.nodeIndex = s.nodeIndex) ∨
    ∃ opening passes last, Path (Graph.ofDefinition d) env opening passes last ∧
      t = last.finish env ∧
      Opens d (inbound.filter (!·.isEmpty)) (Turn.received env drawn s inbound) opening ∧
      (∀ p ∈ passes, p.Follows d env.patterns) ∧
      let route := routeOf s.containerId (opening :: passes.map Pass.step)
      route.IsChain (fun source target => ∃ exit, d.Leads source exit target) ∧
        route.getLast? = some t.state.containerId ∧ route.length ≤ env.maxHops + 1 := by
  by_cases hended : s.status = .ended
  · unfold Turn.run at h
    rw [hended] at h
    cases h
    exact .inl ⟨hended, rfl, rfl⟩
  · obtain ⟨opening, passes, last, hopening, hpath, hhops, rfl⟩ :=
      (Turn.run_eq_ok_iff hended).1 h
    have hpoised : (Turn.received env drawn s inbound).state.Poised (Graph.ofDefinition d) :=
      (poised_of_reachable (Graph.coherent_ofDefinition d) hs).received
    -- Writing down what came in moves the cursor nowhere, so the route begins at the session.
    have hcourse : (Turn.received env drawn s inbound).course =
        (Turn.course { state := s, drawn }) := Turn.course_receive _
    have hstatus : (Turn.received env drawn s inbound).state.status = s.status :=
      congrArg Course.status hcourse
    have hid : (Turn.received env drawn s inbound).state.containerId = s.containerId :=
      congrArg Course.containerId hcourse
    obtain ⟨hopens, hmeets⟩ :=
      (opens_opening hpoised (by rwa [hstatus]) (inbound.filter (!·.isEmpty))).ok hopening
    -- Each pass follows the definition from a well placed cursor, which the pass before led to.
    obtain ⟨-, hpasses⟩ :=
      hpath.keeps (fun t step ht hpass => ((follows_pass ht).ok hpass).2) hmeets
    have hfollows : ∀ p ∈ passes, p.Follows d env.patterns := by
      intro p hp
      obtain ⟨hplaced, hpass⟩ := hpasses p hp
      exact ((follows_pass hplaced).ok hpass).1
    have hdeparts : Departs d s.containerId opening := hid ▸ hopens.departs
    obtain ⟨hchain, hlast⟩ := hpath.route hdeparts fun p hp => (hfollows p hp).departs
    refine .inr ⟨opening, passes, last, hpath, rfl, hopens, hfollows, hchain, hlast, ?_⟩
    rw [length_routeOf_cons, length_routeOf]
    exact Nat.succ_le_succ hhops

/-- Whoever accepts the invitation goes from the door to the hall, along the edge of the button. -/
theorem turn_walks_the_definition_invitation :
    Reachable (Graph.ofDefinition Invitation.flow) Invitation.offering.state ∧
      Turn.run (Graph.ofDefinition Invitation.flow) Invitation.setting 0 Invitation.offering.state
        (some { buttonId := some "yes" }) = .ok Invitation.asking ∧
      ∃ route : List String, route.head? = some "door" ∧ route.getLast? = some "hall" ∧
        route.IsChain (fun source target => ∃ exit, Invitation.flow.Leads source exit target) ∧
        route.length ≤ 65 := by
  have hrun : Turn.run (Graph.ofDefinition Invitation.flow) Invitation.setting 0
      Invitation.offering.state (some { buttonId := some "yes" }) = .ok Invitation.asking := by
    decide +kernel
  refine ⟨Invitation.reachable_offering, hrun, ?_⟩
  rcases turn_walks_the_definition Invitation.flow Invitation.reachable_offering hrun with
    ⟨hended, -⟩ | ⟨opening, passes, last, -, -, -, -, hchain, hlast, hlength⟩
  · cases hended
  · exact ⟨_, rfl, hlast, hchain, hlength⟩

end Session

end Dialogue
