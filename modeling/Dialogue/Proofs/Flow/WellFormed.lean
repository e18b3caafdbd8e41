import Dialogue.Proofs.Flow.Publishable
import Mathlib.Data.List.TakeWhile
import Mathlib.Tactic.MkIffOfInductiveProp

namespace Dialogue

/-!
# What can be published is what is well formed

The checks before publishing report an error exactly where a flow is not well formed. What they warn
of has no part in that.

* `Flow.Definition.WellFormed`: a flow whose ids, edges, start and variables are in order.
* `Flow.isPublishable_iff_wellFormed`: those are the flows that can be published.
* `Flow.Definition.bare`: a flow without all that the checks warn of.
* `Flow.publishable_is_wellFormed`: it can be published if and only if the flow can.
-/

/-! ### Blank texts -/

namespace Text

/-- Nothing is left of a text at its end exactly if all of it is blank. -/
theorem trimEnd_eq_nil_iff {cs : List Char} : trimEnd cs = [] ↔ ∀ c ∈ cs, Unicode.isBlank c := by
  unfold trimEnd
  rw [List.reverse_eq_nil_iff, List.dropWhile_eq_nil_iff]
  simp

/-- Nothing is left of a text exactly if all of it is blank. -/
theorem trim_eq_nil_iff {cs : List Char} : trim cs = [] ↔ ∀ c ∈ cs, Unicode.isBlank c := by
  unfold trim trimStart
  rw [trimEnd_eq_nil_iff]
  constructor
  · intro h
    -- what the start loses is blank, and so is what it keeps
    rw [← List.takeWhile_append_dropWhile (p := Unicode.isBlank) (l := cs), List.forall_mem_append]
    exact ⟨fun _ => List.mem_takeWhile_imp, h⟩
  · exact fun h c hc => h c ((List.dropWhile_sublist _).subset hc)

/-- A text is blank when nothing is left of it without the blanks at its ends. -/
theorem isBlankText_iff {s : String} : isBlankText s ↔ trimmed s = "" := by
  unfold isBlankText trimmed
  rw [List.all_eq_true, ← String.toList_inj, String.toList_ofList, String.toList_empty,
    trim_eq_nil_iff]

end Text

namespace Flow

/-! ### Well formed flows -/

/-- The exits of a node, by what the node does. -/
inductive Node.HasExit : Node → Handle → Prop
  | button {id : String} {buttons : List Button} {b : Button} (h : b ∈ buttons) :
    HasExit ⟨id, .buttons buttons⟩ (.button id b.id)
  | fallback {id : String} {buttons : List Button} :
    HasExit ⟨id, .buttons buttons⟩ (.fallback id)
  | group {id : String} {groups : List Group} {g : Group} (h : g ∈ groups) :
    HasExit ⟨id, .condition groups⟩ (.group id g.id)
  | otherwise {id : String} {groups : List Group} :
    HasExit ⟨id, .condition groups⟩ (.otherwise id)

/-- Containers and nodes have different ids, edges lead from exits that exist, one from each, to
containers, a conversation can begin, and variables that are set have names. -/
@[mk_iff]
structure Definition.WellFormed (d : Definition) : Prop where
  containers : (d.containers.map Container.id).Nodup
  nodes : (d.containers.flatMap fun c => c.nodes.map Node.id).Nodup
  ends : ∀ e ∈ d.edges,
    (∃ c ∈ d.containers, c.id = e.source) ∧ ∃ c ∈ d.containers, c.id = e.target
  handles : ∀ e ∈ d.edges, ∀ text, e.sourceHandle = some text →
    ∃ c ∈ d.containers, c.id = e.source ∧
      ∃ n ∈ c.nodes, ∃ exit, n.HasExit exit ∧ exit.text = text
  exits : d.edges.Pairwise fun e o => ¬(e.source = o.source ∧ e.sourceHandle = o.sourceHandle)
  start : ∀ id, d.startContainerId = some id → ∃ c ∈ d.containers, c.id = id
  begins : d.startContainerId = none → ∃ c ∈ d.containers, ∀ e ∈ d.edges, e.target ≠ c.id
  names : ∀ c ∈ d.containers, ∀ n ∈ c.nodes, ∀ a, n.kind = .assignment a →
    Text.trimmed a.variableName ≠ ""

variable {d : Definition} {patterns : Pattern.Engine}

/-- The handles of a node are its exits. -/
theorem mem_handles_iff {n : Node} {h : Handle} : h ∈ n.handles ↔ n.HasExit h := by
  obtain ⟨id, kind⟩ := n
  -- Both ways by the kind of node; only buttons and conditions have exits of their own.
  constructor
  · intro hh
    unfold Node.handles at hh
    cases kind with
    | buttons buttons =>
      obtain hh | hh := List.mem_append.1 hh
      · obtain ⟨b, hb, rfl⟩ := List.mem_map.1 hh
        exact .button hb
      · rw [List.mem_singleton.1 hh]
        exact .fallback
    | condition groups =>
      obtain hh | hh := List.mem_append.1 hh
      · obtain ⟨g, hg, rfl⟩ := List.mem_map.1 hh
        exact .group hg
      · rw [List.mem_singleton.1 hh]
        exact .otherwise
    | _ => cases hh
  · intro hh
    cases hh with
    | button hb => exact List.mem_append_left _ (List.mem_map_of_mem hb)
    | fallback => exact List.mem_append_right _ (List.mem_singleton_self _)
    | group hg => exact List.mem_append_left _ (List.mem_map_of_mem hg)
    | otherwise => exact List.mem_append_right _ (List.mem_singleton_self _)

/-- A handle is one of a container exactly if one of its nodes has the exit. -/
theorem hasHandle_iff {id text : String} :
    d.hasHandle id text ↔ ∃ c ∈ d.containers, c.id = id ∧
      ∃ n ∈ c.nodes, ∃ exit, n.HasExit exit ∧ exit.text = text := by
  unfold Definition.hasHandle
  simp only [List.any_eq_true, Bool.and_eq_true, beq_iff_eq, mem_handles_iff]

/-- The start has no issue if it is named and there, or if one is found. -/
theorem startIssues_eq_nil_iff :
    startIssues d = [] ↔
      (∀ id, d.startContainerId = some id → ∃ c ∈ d.containers, c.id = id) ∧
      (d.startContainerId = none → ∃ c ∈ d.containers, ∀ e ∈ d.edges, e.target ≠ c.id) := by
  unfold startIssues
  cases d.startContainerId with
  | some id => simp [hasContainer_iff]
  | none => simp [Graph.firstUntargeted]

/-- The flows that can be published are the well formed ones. -/
theorem isPublishable_iff_wellFormed : d.isPublishable patterns ↔ d.WellFormed := by
  have hname : ∀ a : Assignment,
      Text.isBlankText a.variableName = false ↔ Text.trimmed a.variableName ≠ "" := fun a => by
    rw [← Bool.not_eq_true, Text.isBlankText_iff]
  have hfresh : ∀ ids, Fresh [] ids ↔ ids.Nodup := fun ids =>
    and_iff_left (List.disjoint_nil_right ids)
  -- Each part of the check is one condition; what remains is to bring them into one order.
  rw [isPublishable_iff_parts, noError_containersIssues_iff, edgesIssues_eq_nil_iff,
    startIssues_eq_nil_iff, hfresh, hfresh]
  simp only [hname, hasContainer_iff, hasHandle_iff, List.not_mem_nil, false_imp_iff,
    implies_true, true_and]
  rw [Definition.wellFormed_iff]
  tauto

/-! ### What the checks warn of -/

/-- What a node does, without the script, the value or the comparisons that it does it with. -/
def Node.Kind.bare : Node.Kind → Node.Kind
  | .assignment a => .assignment { variableName := a.variableName }
  | .script _ => .script { code := "" }
  | .condition groups => .condition (groups.map fun g => { g with comparisons := [] })
  | kind => kind

def Node.bare (n : Node) : Node := { n with kind := n.kind.bare }

def Container.bare (c : Container) : Container := { c with nodes := c.nodes.map Node.bare }

/-- A flow without the scripts, values and comparisons of its nodes. -/
def Definition.bare (d : Definition) : Definition :=
  { d with containers := d.containers.map Container.bare }

/-- Taking the contents off a node leaves its exits. -/
theorem Node.hasExit_bare {n : Node} {h : Handle} : n.bare.HasExit h ↔ n.HasExit h := by
  rw [← mem_handles_iff, ← mem_handles_iff]
  obtain ⟨id, kind⟩ := n
  cases kind <;> simp [bare, Kind.bare, handles]

/-- The variables that are set keep their names, whatever is asked of these. -/
theorem Node.Kind.names_bare {kind : Kind} (ok : String → Prop) :
    (∀ a, kind.bare = .assignment a → ok a.variableName) ↔
      ∀ a, kind = .assignment a → ok a.variableName := by
  cases kind with
  | assignment b => simp [bare]
  | _ => simp [bare]

/-- Nothing that makes a flow well formed is lost. -/
theorem Definition.wellFormed_bare : d.bare.WellFormed ↔ d.WellFormed := by
  have hid : ∀ c : Container, c.bare.id = c.id := fun _ => rfl
  have hids : ∀ c : Container, c.bare.nodes.map Node.id = c.nodes.map Node.id := fun c => by
    simp [Container.bare, Node.bare, Function.comp_def]
  have hany : ∀ p : Container → Prop,
      (∃ c ∈ d.containers.map Container.bare, p c) ↔ ∃ c ∈ d.containers, p c.bare := fun p => by
    simp
  have hsome : ∀ (c : Container) (p : Node → Prop),
      (∃ n ∈ c.bare.nodes, p n) ↔ ∃ n ∈ c.nodes, p n.bare := fun c p => by simp [Container.bare]
  have hall : ∀ (c : Container) (p : Node → Prop),
      (∀ n ∈ c.bare.nodes, p n) ↔ ∀ n ∈ c.nodes, p n.bare := fun c p => List.forall_mem_map
  have hnames : ∀ n : Node, (∀ a, n.bare.kind = .assignment a → Text.trimmed a.variableName ≠ "") ↔
      ∀ a, n.kind = .assignment a → Text.trimmed a.variableName ≠ "" := fun n =>
    Node.Kind.names_bare fun name => Text.trimmed name ≠ ""
  -- Every condition reads ids, edges and names of variables, and those are kept.
  rw [wellFormed_iff, wellFormed_iff]
  simp only [bare, List.map_map, List.flatMap_map, List.forall_mem_map, Function.comp_def, hid,
    hids, hany, hsome, hall, Node.hasExit_bare, hnames]

/-- Whatever is wrong with what is left of a node keeps the flow from being published. -/
theorem Node.Kind.severity_of_mem_bare {kind : Kind} {p : Problem}
    (h : p ∈ kind.bare.problems patterns) : p.severity = .error := by
  -- Only the name of an assignment is still looked at.
  cases kind with
  | assignment a =>
    have hname : p ∈ if Text.isBlankText a.variableName then [.noVariableName] else [] := by
      simpa [bare, problems] using h
    split at hname
    · rw [List.mem_singleton.1 hname]
      rfl
    · cases hname
  | script s =>
    have hempty : unreadable .scriptUnreadable "" = [] := by decide +kernel
    rw [show (Kind.script s).bare.problems patterns = unreadable .scriptUnreadable "" from rfl,
      hempty] at h
    cases h
  | condition groups => simp [bare, problems] at h
  | _ => cases h

/-- Nothing is left to warn of. -/
theorem Definition.warnings_bare (d : Definition) : d.bare.warnings patterns = [] := by
  refine List.filter_eq_nil_iff.2 fun i hi => ?_
  rw [decide_eq_true_iff]
  intro hwarning
  obtain ⟨c, hc, n, hn, p, hp, rfl⟩ := (mem_issues_iff_of_warning hwarning).1 hi
  obtain ⟨c, -, rfl⟩ := List.mem_map.1 hc
  obtain ⟨n, -, rfl⟩ := List.mem_map.1 hn
  cases hwarning.symm.trans (Node.Kind.severity_of_mem_bare hp)

/-- A flow can be published exactly when it is well formed. Scripts, values and comparisons, all
that the checks warn of, have no part in that. -/
theorem publishable_is_wellFormed (patterns : Pattern.Engine) (d : Definition) :
    (d.isPublishable patterns ↔ d.WellFormed) ∧
      d.bare.warnings patterns = [] ∧
      (d.bare.isPublishable patterns ↔ d.isPublishable patterns) := by
  refine ⟨isPublishable_iff_wellFormed, d.warnings_bare, ?_⟩
  rw [isPublishable_iff_wellFormed, isPublishable_iff_wellFormed, Definition.wellFormed_bare]

/-- A script that cannot be read is warned of, and the flow can be published. -/
example :
    let d : Definition := { containers := [⟨"hall", [⟨"count", .script { code := "let" }⟩]⟩] }
    (d.warnings .refusing).length = 1 ∧ d.isPublishable .refusing := by
  decide +kernel

end Flow

end Dialogue
