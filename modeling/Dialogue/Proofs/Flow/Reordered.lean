import Dialogue.Proofs.Flow.WellFormed
import Mathlib.Data.List.Perm.Basic

namespace Dialogue.Flow

/-!
# Flows in another order

The containers and the edges of a flow stand in an order, and the index is built in this order: the
first one of two containers with one id counts, targets are listed as their edges are, and without a
named start the first container that no edge leads to is looked for. Where ids differ and exits are
not shared, nothing of this shows: a flow in another order can be published as well, and its graph
answers alike.

* `Definition.Reorders`: a flow with its edges, and where its start is named its containers, in
  another order.
* `Reorders.isPublishable`: it can be published as well.
* `Graph.SameAnswers`: graphs that find the same containers and follow exits alike.
* `Reorders.sameAnswers`, `Reorders.startContainer_eq`: so do the graphs of both flows.
-/

/-- A flow in another order. The order of the containers is kept where the start is not named: it
tells where a conversation begins. -/
structure Definition.Reorders (d d' : Definition) : Prop where
  edges : d'.edges.Perm d.edges
  containers : d'.containers = d.containers ∨
    d.startContainerId.isSome ∧ d'.containers.Perm d.containers
  start : d'.startContainerId = d.startContainerId

/-- The graphs find the same containers, and their exits lead to the same containers. -/
structure Graph.SameAnswers (g g' : Graph) : Prop where
  container : ∀ id, g'.container id = g.container id
  resolve : ∀ id exit, g'.resolve id exit = g.resolve id exit

/-- Graphs with the same answers have the same nodes. -/
theorem Graph.SameAnswers.nodeAt {g g' : Graph} (h : g.SameAnswers g') (id : String)
    (index : Nat) : g'.nodeAt id index = g.nodeAt id index := by
  unfold Graph.nodeAt
  rw [h.container]

/-- Two edges share an exit, whichever of them comes first. -/
theorem Edge.SameExit.symm {e o : Edge} (h : e.SameExit o) : o.SameExit e :=
  ⟨h.1.symm, h.2.symm⟩

/-- Where ids differ a container is found by its id wherever it stands. -/
theorem find?_id_eq_some_iff {containers : List Container}
    (hnodup : (containers.map Container.id).Nodup) {id : String} {c : Container} :
    containers.find? (·.id == id) = some c ↔ c ∈ containers ∧ c.id = id := by
  constructor
  · intro h
    exact ⟨List.mem_of_find?_eq_some h, by simpa using List.find?_some h⟩
  · rintro ⟨hc, rfl⟩
    -- Something is found, and nothing else has the id.
    cases h : containers.find? (·.id == c.id) with
    | none => exact absurd (List.find?_eq_none.1 h c hc) (by simp)
    | some found =>
      have hid : found.id = c.id := by simpa using List.find?_some h
      rw [List.inj_on_of_nodup_map hnodup (List.mem_of_find?_eq_some h) hc hid]

/-- The first container of an id is the same in any order, as ids are not repeated. -/
theorem find?_id_perm {containers containers' : List Container}
    (hperm : containers'.Perm containers) (hnodup : (containers.map Container.id).Nodup)
    (id : String) : containers'.find? (·.id == id) = containers.find? (·.id == id) := by
  have hnodup' : (containers'.map Container.id).Nodup :=
    (hperm.map Container.id).nodup_iff.2 hnodup
  apply Option.ext
  intro c
  show containers'.find? (·.id == id) = some c ↔ containers.find? (·.id == id) = some c
  rw [find?_id_eq_some_iff hnodup', find?_id_eq_some_iff hnodup, hperm.mem_iff]

/-- Where there is no choice there is no order. -/
theorem eq_of_perm_of_length_le_one {α : Type} {xs ys : List α} (hperm : ys.Perm xs)
    (hlength : xs.length ≤ 1) : ys = xs := by
  match xs with
  | [] => exact hperm.eq_nil
  | [x] => exact List.perm_singleton.1 hperm
  | x :: y :: rest => simp at hlength

namespace Definition.Reorders

variable {d d' : Definition} {patterns : Pattern.Engine}

/-- The containers are the same but for their order. -/
theorem containers_perm (h : d.Reorders d') : d'.containers.Perm d.containers := by
  obtain heq | ⟨-, hperm⟩ := h.containers
  · rw [heq]
  · exact hperm

/-- Order has no part in what is well formed. -/
theorem wellFormed (h : d.Reorders d') (hd : d.WellFormed) : d'.WellFormed := by
  have hedges : ∀ {e}, e ∈ d'.edges ↔ e ∈ d.edges := h.edges.mem_iff
  have hcontainers : ∀ {c}, c ∈ d'.containers ↔ c ∈ d.containers := h.containers_perm.mem_iff
  -- Each condition is about all containers or all edges, whose order does not matter.
  refine ⟨?_, ?_, ?_, ?_, ?_, ?_, ?_, ?_⟩
  · exact (h.containers_perm.map Container.id).nodup_iff.2 hd.containers
  · exact (h.containers_perm.flatMap_right _).nodup_iff.2 hd.nodes
  · intro e he
    simpa only [hcontainers] using hd.ends e (hedges.1 he)
  · intro e he
    simpa only [hcontainers] using hd.handles e (hedges.1 he)
  · have hsymm : ∀ {e o : Edge}, ¬e.SameExit o → ¬o.SameExit e := fun hne ho => hne ho.symm
    exact (h.edges.pairwise_iff hsymm).2 hd.exits
  · simpa only [h.start, hcontainers] using hd.start
  · simpa only [h.start, hcontainers, hedges] using hd.begins
  · intro c hc
    exact hd.names c (hcontainers.1 hc)

/-- A flow that can be published can be published in another order. -/
theorem isPublishable (h : d.Reorders d') (hd : d.isPublishable patterns) :
    d'.isPublishable patterns :=
  isPublishable_iff_wellFormed.2 (h.wellFormed (isPublishable_iff_wellFormed.1 hd))

/-- The graph of a flow that can be published answers alike in another order. -/
theorem sameAnswers (h : d.Reorders d') (hd : d.isPublishable patterns) :
    (Graph.ofDefinition d).SameAnswers (Graph.ofDefinition d') := by
  have hwell := isPublishable_iff_wellFormed.1 hd
  have hcontainer : ∀ id,
      (Graph.ofDefinition d').container id = (Graph.ofDefinition d).container id := by
    intro id
    have hindex : (Graph.ofDefinition d').containers.get? id =
        (Graph.ofDefinition d).containers.get? id := by
      show (Graph.indexContainers d'.containers).get? id =
        (Graph.indexContainers d.containers).get? id
      rw [Graph.get?_indexContainers, Graph.get?_indexContainers]
      exact find?_id_perm h.containers_perm hwell.containers id
    unfold Graph.container
    rw [hindex]
  refine ⟨hcontainer, fun id exit => ?_⟩
  -- At most one edge leaves by an exit, so there is no order that could matter.
  have htargets : d'.targets id exit = d.targets id exit := by
    have hperm : (d'.targets id exit).Perm (d.targets id exit) :=
      (h.edges.filter _).map Edge.target
    exact eq_of_perm_of_length_le_one hperm (targets_length_le_one hwell.exits id exit)
  unfold Graph.resolve
  rw [Graph.targets_ofDefinition, Graph.targets_ofDefinition, htargets]
  split
  · rfl
  · rw [hcontainer]
  · rfl

/-- A conversation begins in the same container. -/
theorem startContainer_eq (h : d.Reorders d') (hd : d.isPublishable patterns) :
    (Graph.ofDefinition d').startContainer = (Graph.ofDefinition d).startContainer := by
  unfold Graph.startContainer
  rw [show (Graph.ofDefinition d').definition = d' from rfl,
    show (Graph.ofDefinition d).definition = d from rfl, h.start]
  cases hid : d.startContainerId with
  | some id => exact (h.sameAnswers hd).container id
  | none =>
    -- The containers stand in their order, and which of them edges lead to is not one of order.
    have hsame : d'.containers = d.containers := by
      obtain heq | ⟨hsome, -⟩ := h.containers
      · exact heq
      · simp [hid] at hsome
    have hfirst : Graph.firstUntargeted d' = Graph.firstUntargeted d := by
      unfold Graph.firstUntargeted
      rw [hsame]
      congr 1
      funext c
      rw [h.edges.any_eq]
    rw [hfirst]

/-- Where the start is not named, a conversation begins in the container that comes first. -/
example :
    let a : Container := ⟨"a", []⟩
    let b : Container := ⟨"b", []⟩
    (Graph.ofDefinition { containers := [a, b] }).startContainer = .ok a ∧
      (Graph.ofDefinition { containers := [b, a] }).startContainer = .ok b := by
  decide +kernel

end Definition.Reorders

end Dialogue.Flow
