import Dialogue.Proofs.Session.Path
import Dialogue.Proofs.Session.Suspension
import Mathlib.Data.List.MinMax
import Mathlib.Data.List.Perm.Subperm

namespace Dialogue

/-!
# The stops of a turn

A turn goes from container to container, and in each of them from node to node. As far as the flow
goes this may last for ever: edges may lead in circles. What ends it is that each pass moves the
cursor on in its container or takes one of the hops that are left. So a turn makes no more stops
than it has hops and one, and no stop executes a node twice.

* `Stop`, `Stop.InOrder`: a visit of a container, which executes nodes from first to last.
* `Tour`: passes that follow one another until the session rests or the turn fails, with the stops.
* `exists_tour`, `Tour.unique`, `Tour.followWith_eq`: from every step there is one tour, and it is
  what the turn does.
* `Tour.exhausted`, `Tour.exhausts`: a tour lacks hops exactly when it would make more stops.
* `every_turn_ends`: all of this for whole turns, on every flow and from every session.
-/

namespace Flow

/-- How many nodes the containers have at most. -/
def Definition.longest (d : Definition) : Nat :=
  (d.containers.map fun c => c.nodes.length).foldr max 0

/-- No container of a flow has more nodes than the longest one. -/
theorem Definition.length_le_longest {d : Definition} {c : Container} (h : c ∈ d.containers) :
    c.nodes.length ≤ d.longest :=
  List.le_max_of_le' 0 (List.mem_map_of_mem h) (Nat.le_refl _)

end Flow

namespace Session

open Dialogue.Flow

/-! ### Tours -/

/-- A visit of a container. The nodes that are executed there are told by their places. -/
structure Stop where
  containerId : String
  executed : List Nat

namespace Turn

/-- The stop that a turn makes where its cursor stands. -/
def stop (t : Turn) (executed : List Nat) : Stop := ⟨t.state.containerId, executed⟩

/-- The place of the node that a pass executes; none where no node is left. -/
def places (g : Graph) (t : Turn) : List Nat :=
  match t.node? g with
  | .ok (some _) => [t.state.nodeIndex]
  | _ => []

end Turn

/-- Passes that follow one another from a step on, with so many hops left, until the session rests
or the turn fails: the stops that are made, and what comes of the turn. -/
inductive Tour (g : Graph) (env : Environment) :
    Nat → Step → List Stop → Except Abort Turn → Prop
  | rest (left : Nat) (t : Turn) : Tour g env left (.done (.rest t)) [t.stop []] (.ok t)
  | limit (t : Turn) (target : Container) :
    Tour g env 0 (.done (.leave t target)) [t.stop []]
      (.error ⟨.graph (.traversalLimit env.maxHops), t.drawn⟩)
  | leave {left : Nat} {t : Turn} {target : Container} {stops : List Stop}
    {out : Except Abort Turn} (htour : Tour g env left (.next (t.enter target)) stops out) :
    Tour g env (left + 1) (.done (.leave t target)) (t.stop [] :: stops) out
  | fails {left : Nat} {t : Turn} {a : Abort} (h : t.pass g env = .error a) :
    Tour g env left (.next t) [t.stop (t.places g)] (.error a)
  | pass {left : Nat} {t : Turn} {next : Step} {stop : Stop} {stops : List Stop}
    {out : Except Abort Turn} (h : t.pass g env = .ok next)
    (htour : Tour g env left next (stop :: stops) out) :
    Tour g env left (.next t) (t.stop (t.places g ++ stop.executed) :: stops) out

variable {g : Graph} {env : Environment} {t : Turn} {step : Step} {left : Nat} {stop : Stop}
  {stops : List Stop} {out : Except Abort Turn}

/-- What a tour comes to is what the turn comes to. -/
theorem Tour.followWith_eq (h : Tour g env left step stops out) :
    step.followWith g env left = out := by
  -- A tour is built by the same cases as the function, so each of its steps is one unfolding.
  induction h with
  | rest left t => exact Visit.follow_rest t left
  | limit t target => rfl
  | leave htour ih => exact ih
  | fails h =>
    rw [Step.followWith, Turn.visit_follow_eq, h]
    rfl
  | pass h htour ih =>
    rw [Step.followWith, Turn.visit_follow_eq, h]
    exact ih

/-- There is one tour at most. -/
theorem Tour.unique (h : Tour g env left step stops out) {stops' : List Stop}
    {out' : Except Abort Turn} (h' : Tour g env left step stops' out') :
    stops' = stops ∧ out' = out := by
  -- At each step what the node does, or what is left of the hops, admits one way only.
  induction h generalizing stops' out' with
  | rest left t =>
    cases h'
    exact ⟨rfl, rfl⟩
  | limit t target =>
    cases h'
    exact ⟨rfl, rfl⟩
  | leave htour ih =>
    cases h' with
    | leave htour' =>
      obtain ⟨rfl, rfl⟩ := ih htour'
      exact ⟨rfl, rfl⟩
  | fails h =>
    cases h' with
    | fails h' =>
      cases h.symm.trans h'
      exact ⟨rfl, rfl⟩
    | pass h' => cases h.symm.trans h'
  | pass h htour ih =>
    cases h' with
    | fails h' => cases h.symm.trans h'
    | pass h' htour' =>
      cases h.symm.trans h'
      obtain ⟨hstops, rfl⟩ := ih htour'
      cases hstops
      exact ⟨rfl, rfl⟩

/-! ### There is always a tour -/

/-- A tour makes a stop where it begins. -/
theorem Tour.exists_cons (h : Tour g env left step stops out) :
    ∃ stop rest, stops = stop :: rest := by
  cases h <;> exact ⟨_, _, rfl⟩

/-- From where a pass is made there is a tour when there is one from what the pass leads to. -/
theorem exists_tour_of_onward (hdone : ∀ v, ∃ stops out, Tour g env left (.done v) stops out)
    (honward : ∀ t', t.pass g env = .ok (.next t') →
      ∃ stops out, Tour g env left (.next t') stops out) :
    ∃ stops out, Tour g env left (.next t) stops out := by
  -- Either the node fails, or it goes on and the rest of the tour comes behind its stop.
  cases hpass : t.pass g env with
  | error a => exact ⟨_, _, .fails hpass⟩
  | ok next =>
    have hnext : ∃ stops out, Tour g env left next stops out := by
      cases next with
      | next t' => exact honward t' hpass
      | done v => exact hdone v
    obtain ⟨stops, out, htour⟩ := hnext
    obtain ⟨stop, rest, rfl⟩ := htour.exists_cons
    exact ⟨_, _, .pass hpass htour⟩

/-- A tour goes on through the nodes of a container when one goes on from the end of the visit. -/
theorem exists_tour_next (nodes : Nat) (t : Turn)
    (hnodes : ∀ c, g.container t.state.containerId = .ok c →
      c.nodes.length ≤ t.state.nodeIndex + nodes)
    (hdone : ∀ v, ∃ stops out, Tour g env left (.done v) stops out) :
    ∃ stops out, Tour g env left (.next t) stops out := by
  -- The induction is on the number of nodes that are left behind the cursor at most.
  induction nodes generalizing t with
  | zero =>
    refine exists_tour_of_onward hdone fun t' hpass => ?_
    -- The cursor would have to be at a node, but none is left.
    obtain ⟨-, c, node, hc, hget, -⟩ := Turn.exists_node_of_pass hpass
    have hlt := (List.getElem?_eq_some_iff.1 hget).1
    have hle := hnodes c hc
    omega
  | succ nodes ih =>
    refine exists_tour_of_onward hdone fun t' hpass => ?_
    obtain ⟨hid, hindex⟩ := Turn.cursor_of_pass hpass
    refine ih t' fun c hc => ?_
    rw [hid] at hc
    have hle := hnodes c hc
    omega

/-- From every step there is a tour, on every graph: a step that stays in its container leaves fewer
nodes there, and one that leaves it has fewer hops left. -/
theorem exists_tour (g : Graph) (env : Environment) (left : Nat) (step : Step) :
    ∃ stops out, Tour g env left step stops out := by
  -- A container is gone through node by node, and after the last one a hop is taken or none is
  -- left. So the outer induction is on the hops, and the inner one on the nodes that are left.
  have hnext : ∀ left t, (∀ v, ∃ stops out, Tour g env left (.done v) stops out) →
      ∃ stops out, Tour g env left (.next t) stops out := by
    intro left t hdone
    cases hc : g.container t.state.containerId with
    | ok c =>
      refine exists_tour_next c.nodes.length t (fun c' hc' => ?_) hdone
      cases hc.symm.trans hc'
      exact Nat.le_add_left _ _
    | error e => exact exists_tour_next 0 t (fun c' hc' => by cases hc.symm.trans hc') hdone
  have hdone : ∀ v, ∃ stops out, Tour g env left (.done v) stops out := by
    induction left with
    | zero =>
      intro v
      cases v with
      | rest t => exact ⟨_, _, .rest 0 t⟩
      | leave t target => exact ⟨_, _, .limit t target⟩
    | succ left ih =>
      intro v
      cases v with
      | rest t => exact ⟨_, _, .rest _ t⟩
      | leave t target =>
        obtain ⟨stops, out, htour⟩ := hnext left (t.enter target) ih
        exact ⟨_, _, .leave htour⟩
  cases step with
  | next t => exact hnext left t hdone
  | done v => exact hdone v

/-! ### How many stops there are, and how long they are -/

/-- Each stop but the first one takes a hop. -/
theorem Tour.length_le (h : Tour g env left step stops out) : stops.length ≤ left + 1 := by
  induction h with
  | rest => simp
  | limit => simp
  | leave _ ih => exact Nat.succ_le_succ ih
  | fails => simp
  | pass _ _ ih => simpa using ih

/-- The nodes of a stop are executed one after the other, each of them once. -/
structure Stop.InOrder (g : Graph) (stop : Stop) : Prop where
  increasing : stop.executed.Pairwise (· < ·)
  nodes : ∀ index ∈ stop.executed, ∃ node, g.nodeAt stop.containerId index = .ok (some node)

/-- A pass executes the node of the cursor, or none. -/
theorem Turn.places_cases (g : Graph) (t : Turn) :
    t.places g = [] ∨ t.places g = [t.state.nodeIndex] ∧
      ∃ node, g.nodeAt t.state.containerId t.state.nodeIndex = .ok (some node) := by
  unfold places node?
  cases g.nodeAt t.state.containerId t.state.nodeIndex with
  | error e => exact .inl rfl
  | ok node =>
    cases node with
    | none => exact .inl rfl
    | some node => exact .inr ⟨rfl, node, rfl⟩

/-- A stop at the place of the cursor is in order. -/
theorem Turn.inOrder_stop_places (g : Graph) (t : Turn) : (t.stop (t.places g)).InOrder g := by
  obtain hnone | ⟨hplaces, hnode⟩ := t.places_cases g
  · rw [hnone]
    exact ⟨.nil, by simp [Turn.stop]⟩
  · rw [hplaces]
    exact ⟨List.pairwise_singleton _ _, by simpa [Turn.stop] using hnode⟩

/-- The first stop of a tour is the visit that a step goes on with. -/
def Stop.GoesOn (step : Step) (stop : Stop) : Prop :=
  match step with
  | .next t => stop.containerId = t.state.containerId ∧
    ∀ index ∈ stop.executed, t.state.nodeIndex ≤ index
  | .done _ => stop.executed = []

/-- A place that is executed is not before the cursor. -/
theorem Turn.le_of_mem_places {index : Nat} (h : index ∈ t.places g) :
    t.state.nodeIndex ≤ index := by
  obtain hnone | ⟨hplaces, -⟩ := t.places_cases g
  · rw [hnone] at h
    cases h
  · rw [hplaces, List.mem_singleton] at h
    exact h.ge

/-- The visit that a pass goes on with begins with the pass. -/
theorem Stop.GoesOn.pass {next : Step} (hpass : t.pass g env = .ok next) (h : stop.GoesOn next) :
    (t.stop (t.places g ++ stop.executed)).GoesOn (.next t) := by
  refine ⟨rfl, fun index hindex => ?_⟩
  rcases List.mem_append.1 hindex with hplace | hlater
  · exact Turn.le_of_mem_places hplace
  · cases next with
    | done v => rw [h] at hlater; cases hlater
    | next t' =>
      have hnext := (Turn.cursor_of_pass hpass).2
      have hle := h.2 index hlater
      omega

/-- A pass executes a node in front of those of the visit that it goes on with. -/
theorem Stop.InOrder.pass {next : Step} (hpass : t.pass g env = .ok next) (hon : stop.GoesOn next)
    (h : stop.InOrder g) : (t.stop (t.places g ++ stop.executed)).InOrder g := by
  -- What follows either leaves the container, so nothing of it is executed later, or goes on behind
  -- the node.
  cases next with
  | done v =>
    rw [show stop.executed = [] from hon, List.append_nil]
    exact t.inOrder_stop_places g
  | next t' =>
    obtain ⟨hid, hle⟩ := hon
    obtain ⟨hid', hindex⟩ := Turn.cursor_of_pass hpass
    have hplaces := t.inOrder_stop_places g
    constructor
    -- The place of the node is before all places that are executed later.
    · refine List.pairwise_append.2 ⟨hplaces.increasing, h.increasing, fun i hi j hj => ?_⟩
      have hj' := hle j hj
      obtain hnone | ⟨heq, -⟩ := t.places_cases g
      · rw [hnone] at hi
        cases hi
      · rw [heq, List.mem_singleton] at hi
        omega
    · intro index hmem
      rcases List.mem_append.1 hmem with hplace | hlater
      · exact hplaces.nodes index hplace
      · have hnode := h.nodes index hlater
        rwa [hid, hid'] at hnode

/-- The stops of a tour are in order, and the first one is where the tour begins. -/
theorem Tour.inOrder (h : Tour g env left step stops out) :
    (∀ stop ∈ stops, stop.InOrder g) ∧ ∀ stop ∈ stops.head?, stop.GoesOn step := by
  have hempty : ∀ t : Turn, (t.stop []).InOrder g := fun t => ⟨.nil, by simp [Turn.stop]⟩
  -- Where a tour ends nothing is executed; each pass puts its place in front of the others.
  induction h with
  | rest left t => exact ⟨by simpa using hempty t, by simp [Stop.GoesOn, Turn.stop]⟩
  | limit t target => exact ⟨by simpa using hempty t, by simp [Stop.GoesOn, Turn.stop]⟩
  | @leave left t target stops out htour ih =>
    exact ⟨by simpa using ⟨hempty t, ih.1⟩, by simp [Stop.GoesOn, Turn.stop]⟩
  | @fails left t a h =>
    refine ⟨by simpa using t.inOrder_stop_places g, ?_⟩
    simpa [Stop.GoesOn, Turn.stop] using fun index => Turn.le_of_mem_places
  | pass h htour ih =>
    obtain ⟨hstops, hfirst⟩ := ih
    rw [List.forall_mem_cons] at hstops
    have hon := hfirst _ rfl
    refine ⟨List.forall_mem_cons.2 ⟨hstops.1.pass h hon, hstops.2⟩, ?_⟩
    rintro _ ⟨⟩
    exact hon.pass h

/-- How many nodes are executed at stops. -/
def executions : List Stop → Nat
  | [] => 0
  | stop :: rest => stop.executed.length + executions rest

/-- If each stop executes at most so many nodes, all of them together do at most that many times the
stops. -/
theorem executions_le {most : Nat} (h : ∀ stop ∈ stops, stop.executed.length ≤ most) :
    executions stops ≤ stops.length * most := by
  induction stops with
  | nil => exact Nat.zero_le _
  | cons stop rest ih =>
    obtain ⟨hstop, hrest⟩ := List.forall_mem_cons.1 h
    have hle := ih hrest
    rw [executions, List.length_cons, Nat.succ_mul]
    omega

/-- A stop executes no more nodes than a container has. -/
theorem Stop.InOrder.length_le {d : Definition} (h : stop.InOrder (Graph.ofDefinition d)) :
    stop.executed.length ≤ d.longest := by
  have hnodup : stop.executed.Nodup := h.increasing.imp fun hlt => hlt.ne
  have hsub : stop.executed ⊆ List.range d.longest := by
    intro index hindex
    obtain ⟨node, hnode⟩ := h.nodes index hindex
    obtain ⟨c, hc, hget⟩ := exists_container_of_nodeAt hnode
    have hmem : c ∈ d.containers := List.mem_of_find?_eq_some (Graph.container_eq_ok_iff.1 hc)
    have hlt := (List.getElem?_eq_some_iff.1 hget).1
    exact List.mem_range.2 (hlt.trans_le (Definition.length_le_longest hmem))
  simpa using (List.subperm_of_subset hnodup hsub).length_le

/-! ### Running out of hops -/

/-- A failure that says that the hops are used up. -/
def Error.IsLimit (e : Error) : Prop := ∃ limit, e = .graph (.traversalLimit limit)

/-- A step of a turn that may fail, but not for want of hops. -/
abbrev HopFree {α : Type} (step : Except Abort α) : Prop :=
  Ends (fun e => ¬e.IsLimit) (fun _ => True) step

/-- A result is no failure for want of hops. -/
theorem HopFree.ok {α : Type} (a : α) : HopFree (.ok a) := trivial

/-- Steps that do not fail for want of hops do not do so one after the other. -/
theorem HopFree.bind {α β : Type} {first : Except Abort α} {next : α → Except Abort β}
    (h : HopFree first) (hnext : ∀ a, HopFree (next a)) : HopFree (first >>= next) :=
  Ends.bind h fun a _ => hnext a

/-- Nothing is said of hops where something is looked up in a graph. -/
theorem hopFree_resolve (t : Turn) (id : String) (exit : Exit) :
    HopFree (t.lift (g.resolve id exit)) := by
  -- Resolving an exit may fail, but only for an edge that is doubled or leads nowhere.
  refine Ends.lift t (fun _ _ => trivial) fun e he => ?_
  rintro ⟨limit, hlimit⟩
  cases hlimit
  unfold Graph.resolve at he
  split at he
  · cases he
  · rename_i target _
    unfold Graph.container at he
    cases hget : g.containers.get? target <;> rw [hget] at he <;> cases he
  · cases he

/-- Looking up the node at the cursor takes no hops. -/
theorem hopFree_node? (t : Turn) : HopFree (t.node? g) := by
  refine Ends.lift t (fun _ _ => trivial) fun e he => ?_
  rintro ⟨limit, hlimit⟩
  cases hlimit
  unfold Graph.nodeAt Graph.container at he
  cases hget : g.containers.get? t.state.containerId <;> rw [hget] at he <;> cases he

/-- An answer where none is awaited fails for another reason. -/
theorem hopFree_mismatch {α : Type} (t : Turn) : HopFree (t.mismatch : Except Abort α) := by
  rintro ⟨limit, hlimit⟩
  cases hlimit

/-- Following an exit only looks up where it leads; the hop is taken later. -/
theorem hopFree_followExit (handle : Handle) : HopFree (t.followExit g handle) := by
  refine (hopFree_resolve t _ _).bind fun target => ?_
  cases target with
  | some target => exact .ok _
  | none => exact (hopFree_node? t.advance).bind fun node => by cases node <;> exact .ok _

/-- A script fails as a script. -/
theorem hopFree_runScript (nodeId code : String) (mode : Script.Mode) :
    HopFree (t.runScript env nodeId code mode) := by
  unfold Turn.runScript
  split
  · exact .ok _
  · exact .ok _
  · rintro ⟨limit, hlimit⟩
    cases hlimit

/-- No node fails for want of hops. -/
theorem hopFree_execute (node : Node) : HopFree (t.execute g env node) := by
  unfold Turn.execute
  -- Only branches and scripts can fail at all.
  cases node.kind with
  | condition groups => exact hopFree_followExit _
  | assignment a =>
    dsimp only [Turn.assign]
    split
    · exact (hopFree_runScript node.id a.value .client).bind fun outcome => by
        cases outcome <;> exact .ok _
    · exact .ok _
  | script s =>
    exact (hopFree_runScript node.id s.code _).bind fun outcome => by cases outcome <;> exact .ok _
  | _ => exact .ok _

/-- A pass over a container does not fail for want of hops. -/
theorem hopFree_pass : HopFree (t.pass g env) := by
  refine (hopFree_node? t).bind fun node => ?_
  cases node with
  | some node => exact hopFree_execute node
  | none =>
    exact (hopFree_resolve t _ none).bind fun target => by cases target <;> exact .ok _

/-- The handle of a choice is looked up without hops. -/
theorem hopFree_choiceHandle (nodeId : String) (choice : Option Button) :
    HopFree (t.choiceHandle g nodeId choice) := by
  cases choice with
  | none => exact .ok _
  | some b => exact (hopFree_resolve t _ _).bind fun target => by cases target <;> exact .ok _

/-- Where an answer is awaited, hops matter only if they do at buttons or at an input. -/
theorem hopFree_atQuestion {α : Type} {atButtons : String → List Button → Except Abort α}
    {atInput : InputKind → Input → Except Abort α}
    (hbuttons : ∀ id buttons, HopFree (atButtons id buttons))
    (hinput : ∀ kind i, HopFree (atInput kind i)) :
    HopFree (t.atQuestion g atButtons atInput) := by
  refine (hopFree_node? t).bind fun node => ?_
  match node with
  | some ⟨id, .buttons buttons⟩ => exact hbuttons id buttons
  | some ⟨_, .input kind i⟩ => exact hinput kind i
  | none => exact hopFree_mismatch t
  | some ⟨_, .textBubble _⟩ | some ⟨_, .numberBubble _⟩ | some ⟨_, .mediaBubble _ _ _⟩
  | some ⟨_, .condition _⟩ | some ⟨_, .assignment _⟩ | some ⟨_, .script _⟩ =>
    exact hopFree_mismatch t

/-- Taking an answer in takes no hops. -/
theorem hopFree_answer (payload : Inbound) : HopFree (t.answer g env payload) :=
  hopFree_atQuestion
    (fun id _ => (hopFree_choiceHandle id _).bind fun handle => hopFree_followExit handle)
    fun _ _ => .ok _

/-- Neither does asking again. -/
theorem hopFree_askAgain : HopFree (t.askAgain g env) :=
  hopFree_atQuestion (fun _ _ => .ok _) fun _ _ => .ok _

/-- An opening of a turn takes no hops. -/
theorem hopFree_opening (inbound : Option Inbound) : HopFree (t.opening g env inbound) := by
  unfold Turn.opening
  split
  · exact .ok _
  · exact .ok _
  · exact hopFree_askAgain.map fun _ _ => trivial
  · exact hopFree_answer _

/-- What a pass does has nothing to do with the hops that are allowed. -/
theorem Turn.pass_withHops (more : Nat) :
    t.pass g { env with maxHops := more } = t.pass g env := rfl

/-- Who would make more stops than the hops allow runs out of hops. -/
theorem Tour.exhausts {more : Nat} {left' : Nat}
    (h : Tour g { env with maxHops := more } left' step stops out)
    (hmore : left + 1 < stops.length) :
    ∃ stops' drawn,
      Tour g env left step stops' (.error ⟨.graph (.traversalLimit env.maxHops), drawn⟩) := by
  -- The same passes are made with fewer hops, up to where the next container would be entered.
  induction h generalizing left with
  | rest => simp at hmore
  | limit => simp at hmore
  | fails => simp at hmore
  | @leave left' t target stops out htour ih =>
    cases left with
    | zero => exact ⟨_, _, .limit t target⟩
    | succ left =>
      have hleft : left + 1 < stops.length := by simpa using hmore
      obtain ⟨stops', drawn, htour'⟩ := ih hleft
      exact ⟨_, drawn, .leave htour'⟩
  | pass hpass htour ih =>
    rw [Turn.pass_withHops] at hpass
    obtain ⟨stops', drawn, htour'⟩ := ih (by simpa using hmore)
    obtain ⟨stop', rest', rfl⟩ := htour'.exists_cons
    exact ⟨_, drawn, .pass hpass htour'⟩

/-- A tour that ran out of hops has taken all of them, and would go on with one more. -/
theorem Tour.exhausted {a : Abort} (h : Tour g env left step stops (.error a))
    (ha : a.error.IsLimit) :
    a.error = .graph (.traversalLimit env.maxHops) ∧ stops.length = left + 1 ∧
      ∀ more, ∃ stops' out', Tour g { env with maxHops := more } (left + 1) step stops' out' ∧
        stops'.length = left + 2 := by
  generalize hout : Except.error a = out at h
  induction h with
  | rest => cases hout
  | limit t target =>
    cases hout
    refine ⟨rfl, rfl, fun more => ?_⟩
    -- The hop that was missing leads to one more stop, whatever comes of the turn there.
    obtain ⟨stops', out', htour⟩ :=
      exists_tour g { env with maxHops := more } 0 (.next (t.enter target))
    obtain ⟨stop, rest, rfl⟩ := htour.exists_cons
    have hlength := htour.length_le
    refine ⟨_, _, .leave htour, ?_⟩
    simp only [List.length_cons] at hlength ⊢
    omega
  | leave htour ih =>
    obtain ⟨herror, hlength, hmore⟩ := ih hout
    refine ⟨herror, congrArg (· + 1) hlength, fun more => ?_⟩
    obtain ⟨stops', out', htour', hlength'⟩ := hmore more
    exact ⟨_, _, .leave htour', congrArg (· + 1) hlength'⟩
  | fails hpass =>
    cases hout
    exact absurd ha (hopFree_pass.error hpass)
  | pass hpass htour ih =>
    obtain ⟨herror, hlength, hmore⟩ := ih hout
    refine ⟨herror, by simpa using hlength, fun more => ?_⟩
    obtain ⟨stops', out', htour', hlength'⟩ := hmore more
    obtain ⟨stop', rest', rfl⟩ := htour'.exists_cons
    exact ⟨_, _, .pass hpass htour', by simpa using hlength'⟩

/-! ### Whole turns -/

/-- A whole turn of a session: the stops that it makes, and what comes of it. A turn that does not
get under way stops where the session is. -/
inductive Trip (g : Graph) (env : Environment) (drawn : Nat) (s : State)
    (inbound : Option Inbound) : List Stop → Except Abort Turn → Prop
  | ended (hs : s.status = .ended) :
    Trip g env drawn s inbound [⟨s.containerId, []⟩] (.ok (Turn.finish env { state := s, drawn }))
  | fails {a : Abort} (hs : s.status ≠ .ended)
    (h : (Turn.received env drawn s inbound).opening g env (inbound.filter (!·.isEmpty)) =
      .error a) :
    Trip g env drawn s inbound [⟨s.containerId, []⟩] (.error a)
  | tours {step : Step} {stops : List Stop} {out : Except Abort Turn} (hs : s.status ≠ .ended)
    (h : (Turn.received env drawn s inbound).opening g env (inbound.filter (!·.isEmpty)) =
      .ok step)
    (htour : Tour g env env.maxHops step stops out) :
    Trip g env drawn s inbound stops (Turn.finish env <$> out)

variable {drawn : Nat} {s : State} {inbound : Option Inbound}

/-- What a trip comes to is what the turn comes to. -/
theorem Trip.run_eq (h : Trip g env drawn s inbound stops out) :
    Turn.run g env drawn s inbound = out := by
  -- The three ways of a trip are the three ways of a turn.
  cases h with
  | ended hs =>
    unfold Turn.run
    rw [hs]
  | fails hs h =>
    rw [Turn.run_eq_opening hs, h]
    rfl
  | tours hs h htour =>
    rw [Turn.run_eq_opening hs, h, ← htour.followWith_eq, ← Step.follow_eq_followWith]
    rfl

/-- A session and what is sent to it make one trip only. -/
theorem Trip.unique (h : Trip g env drawn s inbound stops out) {stops' : List Stop}
    {out' : Except Abort Turn} (h' : Trip g env drawn s inbound stops' out') :
    stops' = stops ∧ out' = out := by
  have hout : out' = out := h'.run_eq.symm.trans h.run_eq
  refine ⟨?_, hout⟩
  cases h with
  | ended hs =>
    cases h' with
    | ended => rfl
    | fails hs' => exact absurd hs hs'
    | tours hs' => exact absurd hs hs'
  | fails hs h =>
    cases h' with
    | ended hs' => exact absurd hs' hs
    | fails => rfl
    | tours _ h' => cases h.symm.trans h'
  | tours hs h htour =>
    cases h' with
    | ended hs' => exact absurd hs' hs
    | fails _ h' => cases h.symm.trans h'
    | tours _ h' htour' =>
      cases h.symm.trans h'
      exact (htour.unique htour').1

/-- Every turn is a trip. -/
theorem exists_trip (g : Graph) (env : Environment) (drawn : Nat) (s : State)
    (inbound : Option Inbound) : ∃ stops out, Trip g env drawn s inbound stops out := by
  by_cases hs : s.status = .ended
  · exact ⟨_, _, .ended hs⟩
  · cases h : (Turn.received env drawn s inbound).opening g env (inbound.filter (!·.isEmpty)) with
    | error a => exact ⟨_, _, .fails hs h⟩
    | ok step =>
      obtain ⟨stops, out, htour⟩ := exists_tour g env env.maxHops step
      exact ⟨_, _, .tours hs h htour⟩

/-- A trip stops no more often than there are hops, and once more at its beginning. -/
theorem Trip.length_le (h : Trip g env drawn s inbound stops out) :
    stops.length ≤ env.maxHops + 1 := by
  cases h with
  | ended => simp
  | fails => simp
  | tours _ _ htour => exact htour.length_le

/-- At every stop of a trip the nodes are executed in order. -/
theorem Trip.inOrder (h : Trip g env drawn s inbound stops out) :
    ∀ stop ∈ stops, stop.InOrder g := by
  have hempty : (⟨s.containerId, []⟩ : Stop).InOrder g := ⟨.nil, by simp⟩
  cases h with
  | ended => simpa using hempty
  | fails => simpa using hempty
  | tours _ _ htour => exact htour.inOrder.1

/-- A trip runs out of hops on a tour from what the turn begins with. -/
theorem Trip.exists_tour {a : Abort} (h : Trip g env drawn s inbound stops (.error a))
    (ha : a.error.IsLimit) :
    ∃ step, s.status ≠ .ended ∧
      (Turn.received env drawn s inbound).opening g env (inbound.filter (!·.isEmpty)) =
        .ok step ∧
      Tour g env env.maxHops step stops (.error a) := by
  generalize hresult : Except.error a = result at h
  -- A turn that has ended does not fail, and an opening does not fail for want of hops; so the tour
  -- did.
  cases h with
  | ended => cases hresult
  | fails _ hopening =>
    cases hresult
    exact absurd ha ((hopFree_opening _).error hopening)
  | @tours step stops out hs hopening htour =>
    cases out with
    | ok t => cases hresult
    | error a =>
      cases hresult
      exact ⟨step, hs, hopening, htour⟩

/-- A turn runs out of hops exactly when it would make more stops if it had more of them. -/
theorem Trip.exhausted_iff (h : Trip g env drawn s inbound stops out) :
    (∃ n, out = .error ⟨.graph (.traversalLimit env.maxHops), n⟩) ↔
      ∃ more stops' out', Trip g { env with maxHops := more } drawn s inbound stops' out' ∧
        env.maxHops + 1 < stops'.length := by
  constructor
  -- A trip that was cut off goes on further when it has more hops.
  · rintro ⟨n, rfl⟩
    obtain ⟨step, hs, hopening, htour⟩ := h.exists_tour ⟨_, rfl⟩
    obtain ⟨-, -, hmore⟩ := htour.exhausted ⟨_, rfl⟩
    obtain ⟨stops', out', htour', hlength⟩ := hmore (env.maxHops + 1)
    exact ⟨env.maxHops + 1, stops', _, .tours hs hopening htour', by omega⟩
  -- A trip that goes on further than there are hops is cut off with fewer of them.
  · rintro ⟨more, stops', out', h', hlength⟩
    cases h' with
    | ended => simp at hlength
    | fails => simp at hlength
    | tours hs hopening htour' =>
      obtain ⟨stops₂, n, htour⟩ := htour'.exhausts hlength
      exact ⟨n, (h.unique (.tours hs hopening htour)).2.symm⟩

/-- Every turn ends, on every flow, from every session and with any number of hops allowed. From
where it begins there is one trip, and it is the turn. A trip makes one stop more than it takes
hops, and it takes no more of them than it may; at each stop it executes nodes of the container from
first to last, none of them twice; so at each stop it executes at most as many nodes as the longest
container has. It fails for want of hops, and names their number, exactly when it would make more
stops if it had more hops. -/
theorem every_turn_ends (d : Definition) (env : Environment) (drawn : Nat) (s : State)
    (inbound : Option Inbound) :
    let g := Graph.ofDefinition d
    ∃ stops out, Trip g env drawn s inbound stops out ∧
      (∀ stops' out', Trip g env drawn s inbound stops' out' → stops' = stops ∧ out' = out) ∧
      Turn.run g env drawn s inbound = out ∧
      stops.length ≤ env.maxHops + 1 ∧
      (∀ stop ∈ stops, stop.InOrder g) ∧
      executions stops ≤ (env.maxHops + 1) * d.longest ∧
      ((∃ n, out = .error ⟨.graph (.traversalLimit env.maxHops), n⟩) ↔
        ∃ more stops' out', Trip g { env with maxHops := more } drawn s inbound stops' out' ∧
          env.maxHops + 1 < stops'.length) := by
  -- What remains is the bound on the nodes, which are at most those of the longest container at
  -- each stop.
  obtain ⟨stops, out, h⟩ := exists_trip (Graph.ofDefinition d) env drawn s inbound
  refine ⟨stops, out, h, fun _ _ h' => h.unique h', h.run_eq, h.length_le, h.inOrder, ?_,
    h.exhausted_iff⟩
  calc executions stops
      ≤ stops.length * d.longest := executions_le fun stop hstop => (h.inOrder stop hstop).length_le
    _ ≤ (env.maxHops + 1) * d.longest := Nat.mul_le_mul_right _ h.length_le

end Session

end Dialogue
