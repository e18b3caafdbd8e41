import Dialogue.Proofs.Session.Acts
import Dialogue.Proofs.Session.Route
import Dialogue.Proofs.Session.Stops
import Mathlib.Data.List.Duplicate
import Mathlib.Data.List.Dedup
import Mathlib.Logic.Relation

namespace Dialogue

/-!
# Only cycles use up the hops

The number of hops bounds how long a turn may go on without resting. A flow without cycles never
notices it, as long as it is no smaller than the number of containers: a turn that fails for want of
hops has made one stop more than that, each of them in a container of the flow, so it has been in
one of them twice, and the edges that it followed in between are a cycle.

* `Definition.Connects`, `Definition.ids`: an edge between two containers; the ids of containers.
* `Moves`: a step stays in its container, or leaves it along an edge.
* `Tour.chain`, `Tour.known`: the stops of a tour follow edges, and are made in containers.
* `only_cycles_use_up_the_hops`: who runs out of hops has been in one container twice.
-/

namespace Flow

/-- An edge leads from one container to another, by whatever exit. -/
def Definition.Connects (d : Definition) (source target : String) : Prop :=
  ∃ e ∈ d.edges, e.source = source ∧ e.target = target

/-- The ids of the containers, each of them once. -/
def Definition.ids (d : Definition) : List String :=
  (d.containers.map Container.id).dedup

variable {d : Definition}

/-- An edge that leads somewhere connects the two containers. -/
theorem Definition.Leads.connects {source target : String} {exit : Exit}
    (h : d.Leads source exit target) : d.Connects source target := by
  obtain ⟨e, hleaving, htarget⟩ := h
  have hmem : e ∈ d.leaving source exit := by rw [hleaving]; exact List.mem_singleton_self e
  have hfilter := List.mem_filter.1 hmem
  have hsource : e.source = source := by simpa using (Bool.and_eq_true_iff.1 hfilter.2).1
  exact ⟨e, hfilter.1, hsource, htarget⟩

/-- A container that is there is one of the definition's. -/
theorem Definition.mem_ids {id : String} {c : Container}
    (h : (Graph.ofDefinition d).container id = .ok c) : id ∈ d.ids := by
  have hmem : c ∈ d.containers := List.mem_of_find?_eq_some (Graph.container_eq_ok_iff.1 h)
  have hid : id ∈ d.containers.map Container.id :=
    List.mem_map.2 ⟨c, hmem, Graph.id_of_container h⟩
  exact List.mem_dedup.2 hid

end Flow

namespace Session

open Dialogue.Flow

variable {d : Definition} {env : Environment} {t : Turn} {step : Step} {id : String} {left : Nat}
  {stops : List Stop} {out : Except Abort Turn}

/-! ### One step -/

/-- A step stays in its container, or leaves it along an edge. -/
structure Moves (d : Definition) (id : String) (step : Step) : Prop where
  here : step.turn.state.containerId = id
  departs : Departs d id step

/-- Leaving by an exit is a move along an edge. -/
theorem LeavesBy.moves {handle : Handle} (h : LeavesBy d handle t step) :
    Moves d t.state.containerId step := by
  refine ⟨?_, h.departs⟩
  cases h <;> rfl

/-- Staying is no move. -/
theorem Stays.moves (h : Stays t step) : Moves d t.state.containerId step := by
  refine ⟨?_, h.departs⟩
  cases h with
  | next hid => exact hid
  | rest hid => exact hid

/-- A pass moves in this way wherever the cursor stands. -/
theorem moves_pass :
    Ends (fun _ => True) (Moves d t.state.containerId) (t.pass (Graph.ofDefinition d) env) := by
  -- Only a condition leaves by an exit of its own, and the end of the container by the
  -- fall-through.
  refine Ends.found fun node _ => ?_
  cases node with
  | none =>
    refine Ends.found fun target htarget => ?_
    cases target with
    | some target =>
      have hresolve := eq_of_lift htarget
      exact Moves.mk rfl (.leave (leads_of_resolve hresolve))
    | none => exact Moves.mk rfl (.rest rfl)
  | some node =>
    obtain ⟨nodeId, kind⟩ := node
    cases kind with
    | condition groups =>
      exact (leavesBy_followExit _).mono (fun _ _ => trivial) fun _ h => h.moves
    | _ => exact (stays_execute _ (by simp)).mono (fun _ _ => trivial) fun _ h => h.moves

/-- An answer leaves by the exit of the chosen button, or stays. -/
theorem moves_answer (payload : Inbound) :
    Ends (fun _ => True) (Moves d t.state.containerId)
      (t.answer (Graph.ofDefinition d) env payload) := by
  refine Ends.look fun node => ?_
  match node with
  | some ⟨nodeId, .buttons buttons⟩ =>
    refine Ends.look fun handle => (leavesBy_followExit handle).mono (fun _ _ => trivial) ?_
    intro step h
    have hmoves := h.moves
    rwa [containerId_keepChoice] at hmoves
  | some ⟨_, .input kind i⟩ => exact (stays_fillIn kind i payload).moves
  | none => trivial
  | some ⟨_, .textBubble _⟩ | some ⟨_, .numberBubble _⟩ | some ⟨_, .mediaBubble _ _ _⟩
  | some ⟨_, .condition _⟩ | some ⟨_, .assignment _⟩ | some ⟨_, .script _⟩ => trivial

/-- The opening of a turn moves along an edge at most. -/
theorem moves_opening (inbound : Option Inbound) :
    Ends (fun _ => True) (Moves d t.state.containerId)
      (t.opening (Graph.ofDefinition d) env inbound) := by
  unfold Turn.opening
  split
  · exact Moves.mk rfl (.next rfl)
  · exact Moves.mk rfl (.next rfl)
  · exact stays_askAgain.map fun _ h => h.moves
  · exact moves_answer _

/-! ### The containers of the stops -/

/-- A container is found under its id. -/
def Known (d : Definition) (id : String) : Prop :=
  ∃ c, (Graph.ofDefinition d).container id = .ok c

/-- Where a node was looked up, the container is known. -/
theorem known_of_node? {node : Option Node} (h : t.node? (Graph.ofDefinition d) = .ok node) :
    Known d t.state.containerId := by
  have hat := eq_of_lift h
  unfold Graph.nodeAt at hat
  cases hc : (Graph.ofDefinition d).container t.state.containerId with
  | ok c => exact ⟨c, hc⟩
  | error e => rw [hc] at hat; cases hat

/-- What begins by looking up the node of the cursor is in a container that is found. -/
theorem known_of_look {α : Type} {next : Option Node → Except Abort α} {a : α}
    (h : (t.node? (Graph.ofDefinition d) >>= next) = .ok a) : Known d t.state.containerId := by
  cases hnode : t.node? (Graph.ofDefinition d) with
  | ok node => exact known_of_node? hnode
  | error e => rw [hnode] at h; cases h

/-- A turn that rests or leaves with its opening has looked up where the session is. -/
theorem known_of_opening {inbound : Option Inbound} {v : Visit}
    (h : t.opening (Graph.ofDefinition d) env inbound = .ok (.done v)) :
    Known d t.state.containerId := by
  unfold Turn.opening at h
  split at h
  · cases h
  · cases h
  · cases hask : t.askAgain (Graph.ofDefinition d) env with
    | ok t' => exact known_of_look hask
    | error a => rw [hask] at h; cases h
  · exact known_of_look h

/-- The first stop of a tour is where it begins. -/
theorem Tour.head_eq {g : Graph} (h : Tour g env left step stops out) :
    (stops.map Stop.containerId).head? = some step.turn.state.containerId := by
  cases h with
  | rest => rfl
  | limit => rfl
  | leave => rfl
  | fails => rfl
  | pass => rfl

/-- Each stop of a tour is made where an edge leads from the stop before it. -/
theorem Tour.chain (h : Tour (Graph.ofDefinition d) env left step stops out)
    (hstep : Departs d step.turn.state.containerId step) :
    (stops.map Stop.containerId).IsChain d.Connects := by
  induction h with
  | rest => exact .singleton _
  | limit => exact .singleton _
  | fails => exact .singleton _
  | @leave left t target stops out htour ih =>
    refine List.isChain_cons.2 ⟨fun next hnext => ?_, ih (.next rfl)⟩
    rw [htour.head_eq] at hnext
    cases hnext
    cases hstep with
    | leave hleads => exact hleads.connects
  | @pass left t next stop stops out hpass htour ih =>
    have hmoves := moves_pass.ok hpass
    have hhead : stop.containerId = next.turn.state.containerId := Option.some.inj htour.head_eq
    have hchain := ih (hmoves.here ▸ hmoves.departs)
    -- The stop goes on with the pass, so it is made in the same container.
    rwa [List.map_cons, hhead, hmoves.here] at hchain

/-- A tour that runs out of hops has made its stops in containers that are found. -/
theorem Tour.known {a : Abort} (h : Tour (Graph.ofDefinition d) env left step stops (.error a))
    (ha : a.error.IsLimit) (hstep : ∀ v, step = .done v → Known d step.turn.state.containerId) :
    ∀ id ∈ stops.map Stop.containerId, Known d id := by
  -- On the tour: each stop is at a container that is known, as it was entered or looked into.
  generalize hout : Except.error a = out at h
  induction h with
  | rest => cases hout
  | limit t target => exact List.forall_mem_singleton.2 (hstep _ rfl)
  | @leave left t target stops out htour ih =>
    have hstops := ih (by rintro v ⟨⟩) hout
    exact List.forall_mem_cons.2 ⟨hstep _ rfl, hstops⟩
  | fails hpass =>
    cases hout
    exact absurd ha (hopFree_pass.error hpass)
  | @pass left t next stop stops out hpass htour ih =>
    have hknown : Known d t.state.containerId := known_of_look hpass
    have hstops := ih (fun v _ => (moves_pass.ok hpass).here ▸ hknown) hout
    exact List.forall_mem_cons.2 ⟨hknown, (List.forall_mem_cons.1 hstops).2⟩

/-! ### Whole turns -/

variable {drawn : Nat} {s : State} {inbound : Option Inbound}

/-- Writing down what came in moves the cursor nowhere. -/
theorem Turn.containerId_received :
    (received env drawn s inbound).state.containerId = s.containerId := by
  have hcourse : (received env drawn s inbound).course = (course { state := s, drawn }) :=
    course_receive _
  exact congrArg Course.containerId hcourse

/-- A trip begins in the container of the session, and goes on along edges. -/
theorem Trip.route (h : Trip (Graph.ofDefinition d) env drawn s inbound stops out) :
    (stops.map Stop.containerId).head? = some s.containerId ∧
      (stops.map Stop.containerId).IsChain d.Connects := by
  cases h with
  | ended => exact ⟨rfl, .singleton _⟩
  | fails => exact ⟨rfl, .singleton _⟩
  | tours _ hopening htour =>
    have hmoves := (moves_opening _).ok hopening
    refine ⟨?_, htour.chain (hmoves.here ▸ hmoves.departs)⟩
    rw [htour.head_eq, hmoves.here, Turn.containerId_received]

/-- A trip that runs out of hops has made one stop more than it may take hops, and each of them in a
container of the flow. -/
theorem Trip.stops_of_isLimit {a : Abort}
    (h : Trip (Graph.ofDefinition d) env drawn s inbound stops (.error a))
    (ha : a.error.IsLimit) :
    stops.length = env.maxHops + 1 ∧ ∀ id ∈ stops.map Stop.containerId, id ∈ d.ids := by
  obtain ⟨step, -, hopening, htour⟩ := h.exists_tour ha
  -- A turn that is cut off took all its hops, one stop each.
  refine ⟨(htour.exhausted ha).2.1, fun id hid => ?_⟩
  have hdone : ∀ v, step = .done v → Known d step.turn.state.containerId := by
    rintro v rfl
    rw [((moves_opening _).ok hopening).here]
    exact known_of_opening hopening
  obtain ⟨c, hc⟩ := htour.known ha hdone id hid
  exact Definition.mem_ids hc

/-- A walk that comes to a place twice has gone round a cycle. -/
theorem exists_cycle {α : Type} {r : α → α → Prop} {places : List α} {a : α}
    (hchain : places.IsChain r) (ha : places.Duplicate a) : Relation.TransGen r a a := by
  have hpairs : places.Pairwise (Relation.TransGen r) :=
    List.isChain_iff_pairwise.1 (hchain.imp fun _ _ h => .single h)
  have htwo := hpairs.sublist (List.duplicate_iff_sublist.1 ha)
  exact List.pairwise_pair.1 htwo

/-- Only cycles use up the hops, if there are as many of them as containers. Whatever the session
and the answer are, a turn that fails for want of hops has stopped in one container twice, counting
the one where it began; each of its stops was made along an edge, so the edges lead from that
container back to it. On a flow whose edges have no cycle no turn ever fails in this way. -/
theorem only_cycles_use_up_the_hops (d : Definition) {env : Environment}
    (hhops : d.ids.length ≤ env.maxHops) :
    let g := Graph.ofDefinition d
    (∀ drawn s inbound limit n,
      Turn.run g env drawn s inbound = .error ⟨.graph (.traversalLimit limit), n⟩ →
      ∃ stops, Trip g env drawn s inbound stops (.error ⟨.graph (.traversalLimit limit), n⟩) ∧
        (stops.map Stop.containerId).head? = some s.containerId ∧
        (stops.map Stop.containerId).IsChain d.Connects ∧
        ∃ id, 2 ≤ (stops.map Stop.containerId).count id ∧
          Relation.TransGen d.Connects id id) ∧
    ((∀ id, ¬Relation.TransGen d.Connects id id) → ∀ drawn s inbound limit n,
      Turn.run g env drawn s inbound ≠ .error ⟨.graph (.traversalLimit limit), n⟩) := by
  have hcycle : ∀ drawn s inbound limit n,
      Turn.run (Graph.ofDefinition d) env drawn s inbound =
        .error ⟨.graph (.traversalLimit limit), n⟩ →
      ∃ stops, Trip (Graph.ofDefinition d) env drawn s inbound stops
          (.error ⟨.graph (.traversalLimit limit), n⟩) ∧
        (stops.map Stop.containerId).head? = some s.containerId ∧
        (stops.map Stop.containerId).IsChain d.Connects ∧
        ∃ id, 2 ≤ (stops.map Stop.containerId).count id ∧
          Relation.TransGen d.Connects id id := by
    intro drawn s inbound limit n hrun
    obtain ⟨stops, out, htrip⟩ := exists_trip (Graph.ofDefinition d) env drawn s inbound
    obtain rfl : out = .error ⟨.graph (.traversalLimit limit), n⟩ := htrip.run_eq.symm.trans hrun
    obtain ⟨hlength, hids⟩ := htrip.stops_of_isLimit ⟨limit, rfl⟩
    obtain ⟨hhead, hchain⟩ := htrip.route
    -- There are more stops than containers to make them in.
    have hrepeats : ¬(stops.map Stop.containerId).Nodup := by
      intro hnodup
      have hle := (List.subperm_of_subset hnodup hids).length_le
      rw [List.length_map] at hle
      omega
    obtain ⟨id, hid⟩ := List.exists_duplicate_iff_not_nodup.2 hrepeats
    exact ⟨stops, htrip, hhead, hchain, id, List.duplicate_iff_two_le_count.1 hid,
      exists_cycle hchain hid⟩
  refine ⟨hcycle, fun hacyclic drawn s inbound limit n hrun => ?_⟩
  obtain ⟨stops, -, -, -, id, -, hid⟩ := hcycle drawn s inbound limit n hrun
  exact hacyclic id hid

/-! ### A flow that goes round -/

namespace Carousel

/-- Two containers that lead to each other; the first one says something each time. -/
def flow : Definition where
  containers := [⟨"front", [⟨"turn", .textBubble "Round we go"⟩]⟩, ⟨"back", []⟩]
  edges := [⟨"front", none, "back"⟩, ⟨"back", none, "front"⟩]

/-- As many hops are allowed as there are containers. -/
def setting : Environment := { Invitation.setting with maxHops := 2 }

/-- The session as it begins. -/
def begun : State := { Invitation.begun with containerId := "front" }

end Carousel

/-- A turn on the carousel is at the front twice. -/
theorem only_cycles_use_up_the_hops_carousel :
    Carousel.flow.ids.length ≤ Carousel.setting.maxHops ∧
      Turn.run (Graph.ofDefinition Carousel.flow) Carousel.setting 0 Carousel.begun none =
        .error ⟨.graph (.traversalLimit 2), 0⟩ ∧
      ∃ id, Relation.TransGen Carousel.flow.Connects id id := by
  have hhops : Carousel.flow.ids.length ≤ Carousel.setting.maxHops := by decide
  have hrun : Turn.run (Graph.ofDefinition Carousel.flow) Carousel.setting 0 Carousel.begun none =
      .error ⟨.graph (.traversalLimit 2), 0⟩ := by decide +kernel
  obtain ⟨stops, -, -, -, id, -, hcycle⟩ :=
    (only_cycles_use_up_the_hops Carousel.flow hhops).1 0 Carousel.begun none 2 0 hrun
  exact ⟨hhops, hrun, id, hcycle⟩

end Session

end Dialogue
