import Dialogue.Flow.Graph

namespace Dialogue.Flow

/-!
# The index answers like a search

Looking a container or an exit up in the index of a definition gives what a search through its
lists gives.

* `Graph.container_eq_ok_iff`: a container is found exactly when it is the first one of its id.
* `Graph.targets_ofDefinition`: the targets of an exit, in the order of the edges.
* `Graph.resolve_eq_ok_iff`: an exit leads nowhere exactly when no edge leaves by it, and to a
  container exactly when one edge does, the one that has it as target.
* `Definition.search`, `Definition.follow`, `index_answers_like_search`: the searches, and that the
  index answers like them for every definition.
* `Graph.coherent_ofDefinition`: what an exit leads to, and where a conversation begins, is a
  container that the index finds under its own id.
-/

/-- The edges that leave a container by an exit. -/
def Definition.leaving (d : Definition) (id : String) (exit : Exit) : List Edge :=
  d.edges.filter fun e => e.source == id && e.sourceHandle == exit

/-- The targets of the edges that leave a container by an exit, in the order of the edges. -/
def Definition.targets (d : Definition) (id : String) (exit : Exit) : List String :=
  (d.leaving id exit).map Edge.target

namespace Graph

variable {d : Definition}

/-! ### Containers -/

/-- The first container of an id wins: one that is found already is not replaced. -/
theorem get?_foldl_addContainer (containers : List Container) (index : Dictionary Container)
    (id : String) :
    (containers.foldl addContainer index).get? id =
      (index.get? id).or (containers.find? (·.id == id)) := by
  -- The index that the fold starts from is left open: it holds the containers that came first.
  induction containers generalizing index with
  | nil => simp
  | cons c rest ih =>
    rw [List.foldl_cons, ih, List.find?_cons]
    unfold addContainer
    by_cases hid : c.id = id
    · subst hid
      cases h : index.get? c.id <;> simp [h]
    · have hne : (c.id == id) = false := by simp [hid]
      rw [hne]
      cases h : index.get? c.id with
      | some old => rfl
      | none => simp [Ne.symm hid]

/-- The index holds the first container of each id. -/
theorem get?_indexContainers (containers : List Container) (id : String) :
    (indexContainers containers).get? id = containers.find? (·.id == id) := by
  unfold indexContainers
  rw [get?_foldl_addContainer, Dictionary.get?_empty, Option.none_or]

/-- A container is found exactly when it is the first one of its id. -/
theorem container_eq_ok_iff {id : String} {c : Container} :
    (ofDefinition d).container id = .ok c ↔ d.containers.find? (·.id == id) = some c := by
  have hindex : (ofDefinition d).containers.get? id = d.containers.find? (·.id == id) :=
    get?_indexContainers d.containers id
  unfold container
  rw [hindex]
  cases d.containers.find? (·.id == id) <;> simp

/-- What is found has the id that it is found by. -/
theorem id_of_container {id : String} {c : Container}
    (h : (ofDefinition d).container id = .ok c) : c.id = id := by
  have := List.find?_some (container_eq_ok_iff.1 h)
  simpa using this

/-- A container that a definition has is found, or another one of its id is. -/
theorem exists_container {id : String} (h : ∃ c ∈ d.containers, c.id = id) :
    ∃ c, (ofDefinition d).container id = .ok c := by
  obtain ⟨c, hc, hid⟩ := h
  cases hfind : d.containers.find? (·.id == id) with
  | some first => exact ⟨first, container_eq_ok_iff.2 hfind⟩
  | none => exact absurd (List.find?_eq_none.1 hfind c hc) (by simp [hid])

/-- What the index finds is found again under its own id. -/
theorem container_id {id : String} {c : Container} (h : (ofDefinition d).container id = .ok c) :
    (ofDefinition d).container c.id = .ok c := by
  rwa [id_of_container h]

/-! ### Exits -/

/-- The edges that are added to an index are appended to the targets that it has already. -/
theorem targets_foldl_addEdge (edges : List Edge) (index : Dictionary Exits) (id : String)
    (exit : Exit) :
    (((edges.foldl addEdge index).get? id).getD {}).targets exit =
      ((index.get? id).getD {}).targets exit ++
        (edges.filter fun e => e.source == id && e.sourceHandle == exit).map Edge.target := by
  induction edges generalizing index with
  | nil => simp
  | cons e rest ih =>
    rw [List.foldl_cons, ih]
    unfold addEdge
    rw [Dictionary.get?_insert]
    -- An edge counts only for its own source, and there only for its own exit.
    by_cases hid : id = e.source
    · subst hid
      by_cases hexit : exit = e.sourceHandle
      · simp [Exits.targets_add, hexit]
      · simp [Exits.targets_add, hexit, Ne.symm hexit]
    · simp [hid, Ne.symm hid]

/-- The targets that the index has for an exit are those of the edges that leave by it. -/
theorem targets_ofDefinition (id : String) (exit : Exit) :
    (((ofDefinition d).exits.get? id).getD {}).targets exit = d.targets id exit := by
  have h := targets_foldl_addEdge d.edges .empty id exit
  rw [Dictionary.get?_empty] at h
  cases exit <;> exact h

/-- Where an exit leads, by the edges that leave by it. -/
theorem resolve_ofDefinition (id : String) (exit : Exit) :
    (ofDefinition d).resolve id exit =
      match d.leaving id exit with
      | [] => .ok none
      | [e] => ((ofDefinition d).container e.target).map some
      | edges => .error (.ambiguousEdge id exit edges.length) := by
  unfold resolve
  rw [targets_ofDefinition, show d.targets id exit = (d.leaving id exit).map Edge.target from rfl]
  match d.leaving id exit with
  | [] => rfl
  | [e] => rfl
  | e :: e' :: rest => simp

/-- An exit leads nowhere exactly when no edge leaves by it, and to a container exactly when one
edge and no other does, to that container. -/
theorem resolve_eq_ok_iff {id : String} {exit : Exit} {target : Option Container} :
    (ofDefinition d).resolve id exit = .ok target ↔
      match target with
      | none => d.leaving id exit = []
      | some c => ∃ e, d.leaving id exit = [e] ∧ (ofDefinition d).container e.target = .ok c := by
  rw [resolve_ofDefinition]
  match d.leaving id exit with
  | [] => cases target <;> simp
  | [e] => cases h : (ofDefinition d).container e.target <;> cases target <;> simp [h, Except.map]
  | e :: e' :: rest => cases target <;> simp

/-- An exit leads to a container that the index finds under its own id. -/
theorem container_of_resolve {id : String} {exit : Exit} {c : Container}
    (h : (ofDefinition d).resolve id exit = .ok (some c)) :
    (ofDefinition d).container c.id = .ok c := by
  unfold resolve at h
  split at h
  · cases h
  · rename_i target _
    cases hc : (ofDefinition d).container target with
    | error e => rw [hc] at h; cases h
    | ok found =>
      rw [hc] at h
      cases h
      exact container_id hc
  · cases h

/-- A conversation begins in a container that the index finds under its id. -/
theorem container_of_startContainer {c : Container}
    (h : (ofDefinition d).startContainer = .ok c) :
    ∃ found, (ofDefinition d).container c.id = .ok found := by
  unfold startContainer at h
  split at h
  · exact ⟨c, container_id h⟩
  · split at h
    · rename_i first hfirst
      cases h
      exact exists_container ⟨c, List.mem_of_find?_eq_some hfirst, rfl⟩
    · cases h

/-- What a graph leads to can be looked up in it. -/
structure Coherent (g : Graph) : Prop where
  target : ∀ {id : String} {exit : Exit} {c : Container},
    g.resolve id exit = .ok (some c) → g.container c.id = .ok c
  start : ∀ {c : Container}, g.startContainer = .ok c → ∃ found, g.container c.id = .ok found

/-- The index of a definition is coherent. -/
theorem coherent_ofDefinition (d : Definition) : (ofDefinition d).Coherent :=
  ⟨container_of_resolve, container_of_startContainer⟩

/-- Every exit leads to one container or to none. -/
def Resolves (g : Graph) : Prop :=
  ∀ id exit, ∃ target, g.resolve id exit = .ok target

/-- The node at a place is one of the nodes of its container. -/
theorem nodeAt_of_container {g : Graph} {id : String} {c : Container}
    (h : g.container id = .ok c) (index : Nat) : g.nodeAt id index = .ok c.nodes[index]? := by
  unfold nodeAt
  rw [h]
  rfl

end Graph

/-! ### The searches that the index stands for -/

/-- The first container of an id, looked for through all containers. -/
def Definition.search (d : Definition) (id : String) : Except GraphError Container :=
  match d.containers.find? (·.id == id) with
  | some c => .ok c
  | none => .error (.unknownContainer id)

/-- Where an exit of a container leads, looked for through all edges. -/
def Definition.follow (d : Definition) (id : String) (exit : Exit) :
    Except GraphError (Option Container) :=
  match d.targets id exit with
  | [] => .ok none
  | [target] => (d.search target).map some
  | targets => .error (.ambiguousEdge id exit targets.length)

/-- Looking up in the index finds what a search over the containers finds. -/
theorem Graph.container_eq_search (d : Definition) (id : String) :
    (ofDefinition d).container id = d.search id := by
  have hindex : (ofDefinition d).containers.get? id = d.containers.find? (·.id == id) :=
    get?_indexContainers d.containers id
  unfold Graph.container Definition.search
  cases hfound : d.containers.find? (·.id == id) with
  | some c => simp only [hindex, hfound]
  | none => simp only [hindex, hfound]

/-- Following an exit by the index ends as searching the edges does. -/
theorem Graph.resolve_eq_follow (d : Definition) (id : String) (exit : Exit) :
    (ofDefinition d).resolve id exit = d.follow id exit := by
  unfold resolve Definition.follow
  rw [targets_ofDefinition]
  match d.targets id exit with
  | [] => rfl
  | [target] =>
    show ((ofDefinition d).container target).map some = (d.search target).map some
    rw [container_eq_search]
  | target :: target' :: rest => rfl

/-- The graph of a definition answers like a search through the lists of the definition, whatever
the definition is. A container is the first one of its id. An exit leads nowhere if no edge leaves
by it, and to the container of the target if one edge does; of several edges only the number is
told, even if their targets coincide or are unknown. -/
theorem index_answers_like_search (d : Definition) :
    (∀ id, (Graph.ofDefinition d).container id = d.search id) ∧
    (∀ id exit, (Graph.ofDefinition d).resolve id exit = d.follow id exit) ∧
    (∀ id handle, (Graph.ofDefinition d).handleTarget id handle =
      d.follow id (some (Handle.text handle))) ∧
    ∀ id, (Graph.ofDefinition d).fallThroughTarget id = d.follow id none := by
  refine ⟨Graph.container_eq_search d, Graph.resolve_eq_follow d, ?_, ?_⟩
  · intro id handle
    exact Graph.resolve_eq_follow d id (some handle.text)
  · intro id
    exact Graph.resolve_eq_follow d id none

/-- Two edges to one target are two edges. -/
example :
    (Graph.ofDefinition
      { containers := [⟨"a", []⟩, ⟨"b", []⟩]
        edges := [⟨"a", none, "b"⟩, ⟨"a", none, "b"⟩] }).fallThroughTarget "a" =
      .error (.ambiguousEdge "a" none 2) := by
  rfl

end Dialogue.Flow
