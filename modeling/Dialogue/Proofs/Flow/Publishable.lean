import Dialogue.Flow.Validation
import Dialogue.Proofs.Flow.Index
import Mathlib.Data.List.Nodup
import Mathlib.Logic.Basic

namespace Dialogue.Flow

/-!
# What the checks before publishing establish

A definition that passes has a place to begin at, and its edges can be followed: they run between
containers, and no two of them leave by the same exit.

* `Edge.SameExit`: two edges that leave a container by one exit.
* `Definition.WellLinked`: the edges and the start are sound.
* `Fresh`: ids that have not been seen and do not repeat.
* `mem_issues_iff_of_warning`: what warnings are about.
* `edgesIssues_eq_nil_iff`, `noError_containersIssues_iff`: what each of the checks stands for.
* `wellLinked_of_isPublishable`: a definition without errors is well linked.
* `resolves_of_wellLinked`, `exists_start_of_wellLinked`: its graph can be followed.
-/

/-- Two edges leave the same container by the same exit. -/
def Edge.SameExit (e o : Edge) : Prop :=
  e.source = o.source ∧ e.sourceHandle = o.sourceHandle

/-- The edges run between containers, leave by exits that exist and are not shared, and there is a
container to begin at. -/
structure Definition.WellLinked (d : Definition) : Prop where
  ends : ∀ e ∈ d.edges, d.hasContainer e.source ∧ d.hasContainer e.target
  handles : ∀ e ∈ d.edges, ∀ handle, e.sourceHandle = some handle → d.hasHandle e.source handle
  exits : d.edges.Pairwise fun e o => ¬e.SameExit o
  start : startIssues d = []

variable {d : Definition} {patterns : Pattern.Engine}

/-! ### Edges -/

/-- A container is there by its id. -/
theorem hasContainer_iff {id : String} : d.hasContainer id ↔ ∃ c ∈ d.containers, c.id = id := by
  unfold Definition.hasContainer
  rw [List.any_eq_true]
  simp

/-- An edge is in order if it runs between containers, leaves by a handle there is, and no edge
before it leaves by the same exit. -/
theorem problems_eq_nil_iff {seen : List Edge} {e : Edge} :
    e.problems d seen = [] ↔
      (d.hasContainer e.source ∧ d.hasContainer e.target) ∧
      (∀ handle, e.sourceHandle = some handle → d.hasHandle e.source handle) ∧
      ∀ o ∈ seen, ¬o.SameExit e := by
  unfold Edge.problems Edge.SameExit
  rw [List.append_eq_nil_iff, List.append_eq_nil_iff, and_assoc]
  refine and_congr ?_ (and_congr ?_ ?_)
  · simp
  · cases e.sourceHandle <;> simp
  · simp

/-- All edges are in order if each of them is, and shares its exit neither with those before all of
them nor with another one of them. -/
theorem edgesIssues_eq_nil_iff {seen edges : List Edge} :
    edgesIssues d seen edges = [] ↔
      (∀ e ∈ edges, d.hasContainer e.source ∧ d.hasContainer e.target) ∧
      (∀ e ∈ edges, ∀ handle, e.sourceHandle = some handle → d.hasHandle e.source handle) ∧
      (∀ e ∈ edges, ∀ o ∈ seen, ¬o.SameExit e) ∧ edges.Pairwise fun e o => ¬e.SameExit o := by
  -- The edge that is looked at joins those seen before it: what the rest says of it moves over to
  -- what it says of the rest.
  induction edges generalizing seen with
  | nil => simp [edgesIssues]
  | cons e rest ih =>
    unfold edgesIssues
    rw [List.append_eq_nil_iff, List.map_eq_nil_iff, problems_eq_nil_iff, ih]
    simp only [List.forall_mem_cons, List.pairwise_cons]
    constructor
    · rintro ⟨⟨hends, hhandle, hseen⟩, hends', hhandles, hseen', hpair⟩
      exact ⟨⟨hends, hends'⟩, ⟨hhandle, hhandles⟩, ⟨hseen, fun o ho => (hseen' o ho).2⟩,
        fun o ho => (hseen' o ho).1, hpair⟩
    · rintro ⟨⟨hends, hends'⟩, ⟨hhandle, hhandles⟩, ⟨hseen, hseen'⟩, hfirst, hpair⟩
      exact ⟨⟨hends, hhandle, hseen⟩, hends', hhandles,
        fun o ho => ⟨hfirst o ho, hseen' o ho⟩, hpair⟩

/-- Whatever is wrong with an edge keeps the flow from being published. -/
theorem severity_of_mem_problems {seen : List Edge} {e : Edge} {p : Problem}
    (h : p ∈ e.problems d seen) : p.severity = .error := by
  unfold Edge.problems at h
  rw [List.mem_append, List.mem_append] at h
  -- The problems of an edge are its ends, its handle and its exit.
  obtain (h | h) | h := h
  · obtain ⟨id, -, rfl⟩ := List.mem_map.1 h
    rfl
  · split at h
    · split at h
      · cases h
      · rw [List.mem_singleton.1 h]
        rfl
    · cases h
  · split at h
    · rw [List.mem_singleton.1 h]
      rfl
    · cases h

/-- All issues with edges are errors. -/
theorem severity_of_mem_edgesIssues {seen edges : List Edge} {i : Issue}
    (h : i ∈ edgesIssues d seen edges) : i.problem.severity = .error := by
  induction edges generalizing seen with
  | nil => cases h
  | cons e rest ih =>
    unfold edgesIssues at h
    rcases List.mem_append.1 h with h | h
    · obtain ⟨p, hp, rfl⟩ := List.mem_map.1 h
      exact severity_of_mem_problems hp
    · exact ih h

/-- Without a place to begin at a flow cannot be published. -/
theorem severity_of_mem_startIssues {i : Issue} (h : i ∈ startIssues d) :
    i.problem.severity = .error := by
  unfold startIssues at h
  split at h <;> split at h
  · cases h
  · rw [List.mem_singleton.1 h]
    rfl
  · cases h
  · rw [List.mem_singleton.1 h]
    rfl

/-! ### Warnings -/

/-- A warning is not among what is reported as an error, if that is reported at all. -/
theorem not_mem_of_warning {p : Prop} [Decidable p] {i report : Issue}
    (h : i.problem.severity = .warning) (hreport : report.problem.severity = .error) :
    i ∉ if p then [report] else [] := by
  intro hi
  split at hi
  · rw [List.mem_singleton.1 hi, hreport] at h
    cases h
  · cases hi

/-- Among what is said of nodes, a warning is about a problem of one of them. -/
theorem mem_nodesIssues_iff_of_warning {container : String} {seen : List String}
    {nodes : List Node} {i : Issue} (h : i.problem.severity = .warning) :
    i ∈ nodesIssues patterns container seen nodes ↔
      ∃ n ∈ nodes, ∃ p ∈ n.kind.problems patterns, i = ⟨p, some container, some n.id⟩ := by
  induction nodes generalizing seen with
  | nil => simp [nodesIssues]
  | cons n rest ih =>
    -- An id that is used twice is an error, so no warning is about it.
    have hid : i ∉ if n.id ∈ seen then [⟨.duplicateNode n.id, some container, some n.id⟩]
        else [] := not_mem_of_warning h rfl
    unfold nodesIssues
    rw [List.mem_append, List.mem_append, ih, List.mem_map, List.exists_mem_cons_iff]
    simp only [hid, false_or, eq_comm]

/-- A warning is about a problem of a node: whatever else is wrong with a flow is an error. -/
theorem mem_containersIssues_iff_of_warning {seen seenNodes : List String}
    {containers : List Container} {i : Issue} (h : i.problem.severity = .warning) :
    i ∈ containersIssues patterns seen seenNodes containers ↔
      ∃ c ∈ containers, ∃ n ∈ c.nodes, ∃ p ∈ n.kind.problems patterns,
        i = ⟨p, some c.id, some n.id⟩ := by
  induction containers generalizing seen seenNodes with
  | nil => simp [containersIssues]
  | cons c rest ih =>
    have hid : i ∉ if c.id ∈ seen then [⟨.duplicateContainer c.id, some c.id, none⟩]
        else [] := not_mem_of_warning h rfl
    unfold containersIssues
    rw [List.mem_append, List.mem_append, ih, mem_nodesIssues_iff_of_warning h,
      List.exists_mem_cons_iff]
    simp only [hid, false_or]

/-- The warnings of a flow are the problems of its nodes that are none of its errors. -/
theorem mem_issues_iff_of_warning {i : Issue} (h : i.problem.severity = .warning) :
    i ∈ d.issues patterns ↔ ∃ c ∈ d.containers, ∃ n ∈ c.nodes, ∃ p ∈ n.kind.problems patterns,
      i = ⟨p, some c.id, some n.id⟩ := by
  have hedges : i ∉ edgesIssues d [] d.edges := fun hi => by
    cases h.symm.trans (severity_of_mem_edgesIssues hi)
  have hstart : i ∉ startIssues d := fun hi => by
    cases h.symm.trans (severity_of_mem_startIssues hi)
  rw [Definition.issues, List.mem_append, List.mem_append, mem_containersIssues_iff_of_warning h]
  simp only [hedges, hstart, or_false]

/-! ### Ids -/

/-- Ids that differ from each other and from those seen before. -/
def Fresh (seen ids : List String) : Prop := ids.Nodup ∧ ids.Disjoint seen

/-- A list without repetitions has a head that is new and a rest without it. -/
theorem fresh_cons {seen ids : List String} {id : String} :
    Fresh seen (id :: ids) ↔ id ∉ seen ∧ Fresh (id :: seen) ids := by
  unfold Fresh
  rw [List.nodup_cons, List.disjoint_cons_left, List.disjoint_cons_right]
  tauto

/-- Two lists in a row are without repetitions if each is, and the second one knows the first. -/
theorem fresh_append {seen ids more : List String} :
    Fresh seen (ids ++ more) ↔ Fresh seen ids ∧ Fresh (ids ++ seen) more := by
  unfold Fresh
  rw [List.nodup_append', List.disjoint_append_left, List.disjoint_append_right,
    show more.Disjoint ids ↔ ids.Disjoint more from List.disjoint_comm]
  tauto

/-! ### Nodes and containers -/

/-- What is wrong with the script, the comparisons or the patterns of a node does not keep the flow
from being published. A blank name of a variable does. -/
theorem noError_problems_iff {kind : Node.Kind} :
    (∀ p ∈ kind.problems patterns, p.severity ≠ .error) ↔
      ∀ a, kind = .assignment a → Text.isBlankText a.variableName = false := by
  -- A script that cannot be read is a warning.
  have hunreadable : ∀ (problem : Script.Failure → Problem) (source : String),
      (∀ e, (problem e).severity = .warning) →
        ∀ p ∈ unreadable problem source, p.severity ≠ .error := by
    intro problem source hwarning p hp
    unfold unreadable at hp
    split at hp
    · cases hp
    · rw [List.mem_singleton.1 hp, hwarning]
      decide
  cases kind with
  | assignment a =>
    unfold Node.Kind.problems
    rw [List.forall_mem_append]
    constructor
    · rintro ⟨hname, -⟩ _ ⟨⟩
      by_contra hblank
      rw [if_pos (Bool.not_eq_false _ ▸ hblank)] at hname
      exact hname _ (List.mem_singleton_self _) rfl
    · intro hname
      rw [hname a rfl]
      refine ⟨by simp, ?_⟩
      split
      · exact hunreadable _ _ fun _ => rfl
      · exact List.forall_mem_nil _
  | script s =>
    exact iff_of_true (hunreadable _ _ fun _ => rfl) fun _ h => by cases h
  | condition groups =>
    refine iff_of_true ?_ fun _ h => by cases h
    unfold Node.Kind.problems
    rw [List.forall_mem_append]
    constructor
    · intro p hp
      obtain ⟨c, -, hp⟩ := List.mem_flatMap.1 hp
      unfold Comparison.problems at hp
      split at hp
      · rw [List.mem_singleton.1 hp]
        nofun
      · cases hp
    · intro p hp
      obtain ⟨pattern, -, hp⟩ := List.mem_flatMap.1 hp
      unfold patternProblems at hp
      split at hp
      · cases hp
      · rw [List.mem_singleton.1 hp]
        nofun
  | _ => exact iff_of_true (List.forall_mem_nil _) fun _ h => by cases h

/-- Nodes can be published if they have new ids and, where they set variables, names for them. -/
theorem noError_nodesIssues_iff {container : String} {seen : List String} {nodes : List Node} :
    (∀ i ∈ nodesIssues patterns container seen nodes, i.problem.severity ≠ .error) ↔
      Fresh seen (nodes.map Node.id) ∧
      ∀ n ∈ nodes, ∀ a, n.kind = .assignment a → Text.isBlankText a.variableName = false := by
  -- As with edges, the node that is looked at joins those seen before it.
  induction nodes generalizing seen with
  | nil => simp [nodesIssues, Fresh]
  | cons n rest ih =>
    have hfirst : (∀ i ∈ if n.id ∈ seen then [⟨.duplicateNode n.id, some container, some n.id⟩]
        else ([] : List Issue), i.problem.severity ≠ .error) ↔ n.id ∉ seen := by
      split <;> simp_all [Problem.severity]
    unfold nodesIssues
    rw [List.forall_mem_append, List.forall_mem_append, hfirst, List.forall_mem_map,
      noError_problems_iff, ih, List.map_cons, fresh_cons, List.forall_mem_cons]
    exact and_and_and_comm

/-- Containers can be published if they have new ids, and so have all their nodes, and if the nodes
that set variables name them. -/
theorem noError_containersIssues_iff {seen seenNodes : List String}
    {containers : List Container} :
    (∀ i ∈ containersIssues patterns seen seenNodes containers, i.problem.severity ≠ .error) ↔
      Fresh seen (containers.map Container.id) ∧
      Fresh seenNodes (containers.flatMap fun c => c.nodes.map Node.id) ∧
      ∀ c ∈ containers, ∀ n ∈ c.nodes, ∀ a, n.kind = .assignment a →
        Text.isBlankText a.variableName = false := by
  induction containers generalizing seen seenNodes with
  | nil => simp [containersIssues, Fresh]
  -- A container adds its own id, its nodes and their names.
  | cons c rest ih =>
    have hfirst : (∀ i ∈ if c.id ∈ seen then [⟨.duplicateContainer c.id, some c.id, none⟩]
        else ([] : List Issue), i.problem.severity ≠ .error) ↔ c.id ∉ seen := by
      split <;> simp_all [Problem.severity]
    unfold containersIssues
    rw [List.forall_mem_append, List.forall_mem_append, hfirst, noError_nodesIssues_iff, ih,
      List.map_cons, fresh_cons, List.flatMap_cons, fresh_append, List.forall_mem_cons]
    constructor
    · rintro ⟨⟨hnew, hnodes, hnames⟩, hrest, hothers, hnames'⟩
      exact ⟨⟨hnew, hrest⟩, ⟨hnodes, hothers⟩, hnames, hnames'⟩
    · rintro ⟨⟨hnew, hrest⟩, ⟨hnodes, hothers⟩, hnames, hnames'⟩
      exact ⟨⟨hnew, hnodes, hnames⟩, hrest, hothers, hnames'⟩

/-! ### Definitions -/

/-- A definition can be published when none of its problems is an error. -/
theorem isPublishable_iff :
    d.isPublishable patterns ↔ ∀ i ∈ d.issues patterns, i.problem.severity ≠ .error := by
  unfold Definition.isPublishable Definition.errors
  rw [List.isEmpty_iff, List.filter_eq_nil_iff]
  simp

/-- A definition can be published when its containers can, and nothing is wrong with its edges and
its start. -/
theorem isPublishable_iff_parts :
    d.isPublishable patterns ↔
      (∀ i ∈ containersIssues patterns [] [] d.containers, i.problem.severity ≠ .error) ∧
      edgesIssues d [] d.edges = [] ∧ startIssues d = [] := by
  have hnil : ∀ {issues : List Issue}, (∀ i ∈ issues, i.problem.severity = .error) →
      ((∀ i ∈ issues, i.problem.severity ≠ .error) ↔ issues = []) := by
    intro issues herror
    rw [List.eq_nil_iff_forall_not_mem]
    exact forall₂_congr fun i hi => iff_of_false (not_not.2 (herror i hi)) not_false
  rw [isPublishable_iff, Definition.issues, List.forall_mem_append, List.forall_mem_append,
    hnil fun _ => severity_of_mem_edgesIssues, hnil fun _ => severity_of_mem_startIssues, and_assoc]

/-- A definition without errors is well linked. -/
theorem wellLinked_of_isPublishable (h : d.isPublishable patterns) : d.WellLinked := by
  obtain ⟨-, hedges, hstart⟩ := isPublishable_iff_parts.1 h
  obtain ⟨hends, hhandles, -, hexits⟩ := edgesIssues_eq_nil_iff.1 hedges
  exact ⟨hends, hhandles, hexits, hstart⟩

/-- In a definition without errors the containers have different ids, and so have the nodes of each
of them. -/
theorem nodup_of_isPublishable (h : d.isPublishable patterns) :
    (d.containers.map Container.id).Nodup ∧
      ∀ c ∈ d.containers, (c.nodes.map Node.id).Nodup := by
  obtain ⟨⟨hcontainers, -⟩, ⟨hnodes, -⟩, -⟩ :=
    noError_containersIssues_iff.1 (isPublishable_iff_parts.1 h).1
  exact ⟨hcontainers, (List.nodup_flatMap.1 hnodes).1⟩

/-! ### Graphs -/

/-- No two edges leave by one exit, so there is at most one target. -/
theorem targets_length_le_one (h : d.edges.Pairwise fun e o => ¬e.SameExit o) (id : String)
    (exit : Exit) : (d.targets id exit).length ≤ 1 := by
  unfold Definition.targets Definition.leaving
  rw [List.length_map]
  generalize hleft : (d.edges.filter fun e => e.source == id && e.sourceHandle == exit) = left
  match left with
  | [] | [_] => simp
  | e :: o :: rest =>
    -- Two edges that are left would both leave by the exit, in whichever order they stand.
    have hpair : (e :: o :: rest).Pairwise fun e o => ¬e.SameExit o := hleft ▸ h.filter _
    have he : e ∈ e :: o :: rest := List.mem_cons_self
    have ho : o ∈ e :: o :: rest := List.mem_cons_of_mem _ List.mem_cons_self
    rw [← hleft, List.mem_filter] at he ho
    simp only [Bool.and_eq_true, beq_iff_eq] at he ho
    have hne := (List.pairwise_cons.1 hpair).1 o List.mem_cons_self
    exact absurd ⟨he.2.1.trans ho.2.1.symm, he.2.2.trans ho.2.2.symm⟩ hne

/-- Every exit of a well linked definition can be followed. -/
theorem resolves_of_wellLinked (h : d.WellLinked) : (Graph.ofDefinition d).Resolves := by
  intro id exit
  -- There is no edge, or there is one and its target is a container.
  have hlength := targets_length_le_one h.exits id exit
  unfold Graph.resolve
  rw [Graph.targets_ofDefinition]
  cases htargets : d.targets id exit with
  | nil => exact ⟨none, rfl⟩
  | cons target rest =>
    rw [htargets, List.length_cons] at hlength
    obtain rfl := List.eq_nil_of_length_eq_zero (show rest.length = 0 by omega)
    have hmem : target ∈ d.targets id exit := by
      rw [htargets]
      exact List.mem_singleton_self target
    obtain ⟨e, he, rfl⟩ := List.mem_map.1 hmem
    obtain ⟨c, hc⟩ := Graph.exists_container
      (hasContainer_iff.1 (h.ends e (List.mem_filter.1 he).1).2)
    refine ⟨some c, ?_⟩
    show ((Graph.ofDefinition d).container e.target).map some = .ok (some c)
    rw [hc]
    rfl

/-- A well linked definition has a container to begin at. -/
theorem exists_start_of_wellLinked (h : d.WellLinked) :
    ∃ c, (Graph.ofDefinition d).startContainer = .ok c := by
  have hstart := h.start
  unfold startIssues at hstart
  unfold Graph.startContainer
  rw [show (Graph.ofDefinition d).definition = d from rfl]
  -- The start is named and there, or one is found that no edge leads to.
  cases hid : d.startContainerId with
  | some id =>
    rw [hid] at hstart
    by_cases hc : d.hasContainer id
    · exact Graph.exists_container (hasContainer_iff.1 hc)
    · simp [hc] at hstart
  | none =>
    rw [hid] at hstart
    cases hfirst : Graph.firstUntargeted d with
    | some c => exact ⟨c, rfl⟩
    | none => simp [hfirst] at hstart

end Dialogue.Flow
