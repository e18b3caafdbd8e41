import Dialogue.Proofs.Session.Acts
import Dialogue.Proofs.Session.Path
import Mathlib.Control.Monad.Basic

namespace Dialogue

/-!
# What a turn writes

A turn sets variables where it saves an answer or the label of a button, where a node sets one, and
where a script has written some, be it a script node or the value of an assignment. Nowhere is a
variable forgotten, and nothing is set but what the node says or its script has written. So it is
with whole turns, however many nodes they execute.

* `Dictionary.Revises`: nothing is forgotten, and only certain names are set anew.
* `Node.Kind.Saves`, `Node.Kind.Sets`, `Node.Kind.Keeps`: the variables in which a node saves
  answers, the variable that it sets, and the result that it keeps.
* `Turn.scriptRun?`: the run of the script where a turn stands.
* `writes_pass`, `Path.writes`: what a pass writes, and what passes write.
* `turns_write_what_is_declared`: what a whole turn writes; scripts that fail write nothing.
-/

/-! ### Dictionaries -/

namespace Dictionary

variable {α : Type} {d d' d'' : Dictionary α} {names names' : String → Prop}

/-- Every name that has a value keeps one, and only certain names have another value than before. -/
structure Revises (names : String → Prop) (d d' : Dictionary α) : Prop where
  kept : ∀ name, (d.get? name).isSome → (d'.get? name).isSome
  changed : ∀ name, d'.get? name ≠ d.get? name → names name

namespace Revises

/-- A dictionary is a revision of itself. -/
theorem refl (names : String → Prop) (d : Dictionary α) : d.Revises names d where
  kept := fun _ h => h
  changed := fun _ h => absurd rfl h

/-- Setting a name that may be set is a revision. -/
theorem insert (d : Dictionary α) {name : String} (value : α) (hname : names name) :
    d.Revises names (d.insert name value) := by
  constructor
  -- No name is lost: the one that is set has a value, and the others keep theirs.
  · intro other hother
    rw [get?_insert]
    by_cases h : other = name
    · simp [h]
    · simpa [h] using hother
  -- Only the name that is set may have another value.
  · intro other hother
    rw [get?_insert] at hother
    by_cases h : other = name
    · rwa [h]
    · simp [h] at hother

/-- A revision is still one if more names may be set. -/
theorem mono (h : d.Revises names d') (hnames : ∀ name, names name → names' name) :
    d.Revises names' d' :=
  ⟨h.kept, fun name hname => hnames name (h.changed name hname)⟩

/-- Revisions may follow each other. -/
theorem trans (h : d.Revises names d') (h' : d'.Revises names d'') : d.Revises names d'' := by
  constructor
  · intro name hname
    exact h'.kept name (h.kept name hname)
  · intro name hname
    -- A value that differs in the end differs after the first part or after the second one.
    by_cases hsame : d'.get? name = d.get? name
    · exact h'.changed name (by rwa [hsame])
    · exact h.changed name hsame

end Revises

end Dictionary

/-! ### What nodes declare -/

namespace Flow.Node.Kind

/-- The variables in which a node saves an answer: the one of an input, and those of buttons. -/
inductive Saves : Kind → String → Prop
  | input (kind : InputKind) {i : Input} {name : String} (h : i.saveVariable = some name) :
    Saves (.input kind i) name
  | button {buttons : List Button} {b : Button} {name : String} (hb : b ∈ buttons)
    (h : b.saveVariable = some name) : Saves (.buttons buttons) name

/-- The variable that a node sets: the one of an assignment. -/
inductive Sets : Kind → String → Prop
  | assignment (a : Assignment) : Sets (.assignment a) a.variableName

/-- The result that a node keeps: the one of an assignment whose value is a result. -/
inductive Keeps : Kind → String → Prop
  | assignment {a : Assignment} (h : a.saveInResults) : Keeps (.assignment a) a.variableName

/-- The script that a node runs, and the mode in which it runs. -/
def script? : Kind → Option (String × Script.Mode)
  | .script s => some (s.code, if s.executeOnServer then .server else .client)
  | .assignment a =>
    if a.source = .custom ∧ a.executeOnClient then some (a.value, .client) else none
  | _ => none

end Flow.Node.Kind

namespace Session

open Dialogue.Flow

/-- The run of the script of a node in a turn; none where the node has no script. -/
def runOf (env : Environment) (t : Turn) (kind : Node.Kind) :
    Option (Except Script.Failure Script.Outcome) :=
  kind.script?.map fun s => env.sandbox t.runs s.1 t.state.vars s.2 env.client

/-- A node writes the variable that it sets, and those that its script has written. -/
inductive MayWrite (env : Environment) (t : Turn) (kind : Node.Kind) (name : String) : Prop
  | set (h : kind.Sets name)
  | mutated {outcome : Script.Outcome} (hrun : runOf env t kind = some (.ok outcome))
    (h : name ∈ outcome.mutations.map Prod.fst)

variable {g : Graph} {env : Environment} {vars results vars' results' : String → Prop}

namespace Turn

/-- The run of the script where a turn stands; none where no node with a script is. -/
def scriptRun? (g : Graph) (env : Environment) (t : Turn) :
    Option (Except Script.Failure Script.Outcome) :=
  match t.node? g with
  | .ok (some node) => runOf env t node.kind
  | _ => none

/-! ### Single writes -/

/-- The second turn has only certain variables and results set anew. -/
structure Writes (vars results : String → Prop) (t t' : Turn) : Prop where
  vars : t.state.vars.Revises vars t'.state.vars
  results : t.state.results.Revises results t'.state.results

variable {t t' t'' : Turn}

namespace Writes

/-- A turn that has the variables and results of another one has written nothing. -/
theorem of_eq (hvars : t'.state.vars = t.state.vars)
    (hresults : t'.state.results = t.state.results) : t.Writes vars results t' := by
  constructor
  · rw [hvars]
    exact .refl _ _
  · rw [hresults]
    exact .refl _ _

/-- No turn writes in doing nothing. -/
theorem refl (t : Turn) : t.Writes vars results t := .of_eq rfl rfl

/-- What two parts of a turn write, both together write. -/
theorem trans (h : t.Writes vars results t') (h' : t'.Writes vars results t'') :
    t.Writes vars results t'' :=
  ⟨h.vars.trans h'.vars, h.results.trans h'.results⟩

/-- A turn that may write more writes no less. -/
theorem mono (h : t.Writes vars results t') (hvars : ∀ name, vars name → vars' name)
    (hresults : ∀ name, results name → results' name) : t.Writes vars' results' t' :=
  ⟨h.vars.mono hvars, h.results.mono hresults⟩

/-- Setting a variable writes that variable. -/
theorem set (t : Turn) {name : String} (value : String) (hname : vars name) :
    t.Writes vars results (t.set name value) :=
  ⟨.insert _ value hname, .refl _ _⟩

/-- Setting a variable that may have no name writes at most that variable. -/
theorem setOptional (t : Turn) {name : Option String} (value : String)
    (hname : ∀ n, name = some n → vars n) :
    t.Writes vars results (t.setOptional name value) := by
  cases name with
  | none => exact .refl t
  | some n => exact .set t value (hname n rfl)

/-- What a script has written is set, one variable after the other. -/
theorem apply (t : Turn) (outcome : Script.Outcome)
    (hnames : ∀ name ∈ outcome.mutations.map Prod.fst, vars name) :
    t.Writes vars results (t.apply outcome) := by
  unfold Turn.apply
  generalize outcome.mutations = mutations at hnames ⊢
  induction mutations generalizing t with
  | nil => exact .refl t
  | cons m rest ih =>
    rw [List.map_cons, List.forall_mem_cons] at hnames
    have hset : t.Writes vars results (t.set m.1 m.2) := .set t m.2 hnames.1
    exact hset.trans (ih _ hnames.2)

/-- Putting a result on record writes its variable, and its result if it is to be kept. -/
theorem record (t : Turn) {a : Assignment} (value : String) (hvar : vars a.variableName)
    (hresult : a.saveInResults → results a.variableName) :
    t.Writes vars results (t.record a value) := by
  unfold Turn.record
  by_cases hkeep : a.saveInResults
  · rw [if_pos hkeep]
    exact ⟨.insert _ value hvar, .insert _ value (hresult hkeep)⟩
  · rw [if_neg hkeep]
    exact .set t value hvar

end Writes

/-- Leaving a script writes nothing. -/
theorem writes_leaveScript (t : Turn) (url : Option String) :
    t.Writes vars results (t.leaveScript env url).turn := by
  cases url with
  | none => exact .of_eq rfl rfl
  | some url => exact .of_eq rfl rfl

/-- Following an exit writes nothing. -/
theorem writes_followExit (handle : Handle) :
    Ends (fun _ => True) (fun step => t.Writes vars results step.turn)
      (t.followExit g handle) := by
  refine Ends.look fun target => ?_
  cases target with
  | some target => exact Writes.refl t
  | none =>
    refine Ends.look fun node => ?_
    cases node with
    | some node => exact Writes.of_eq rfl rfl
    | none => exact Writes.of_eq rfl rfl

/-! ### Scripts -/

/-- A script is run, or it fails and is passed over. -/
theorem runScript_cases {nodeId code : String} {mode : Script.Mode}
    {result : Option Script.Outcome} (h : t.runScript env nodeId code mode = .ok result) :
    (∃ outcome, result = some outcome ∧
      env.sandbox t.runs code t.state.vars mode env.client = .ok outcome) ∨
    result = none ∧ env.policy = .skip ∧
      ∃ failure, env.sandbox t.runs code t.state.vars mode env.client = .error failure := by
  -- A script that succeeds has an outcome; one that fails has none if failures are passed over.
  unfold runScript at h
  split at h
  · rename_i outcome hrun
    cases h
    exact .inl ⟨outcome, rfl, hrun⟩
  · rename_i failure hrun hpolicy
    cases h
    exact .inr ⟨rfl, hpolicy, failure, hrun⟩
  · cases h

/-- A script that fails is passed over. -/
theorem runScript_of_error {nodeId code : String} {mode : Script.Mode} {failure : Script.Failure}
    (hpolicy : env.policy = .skip)
    (h : env.sandbox t.runs code t.state.vars mode env.client = .error failure) :
    t.runScript env nodeId code mode = .ok none := by
  unfold runScript
  rw [h, hpolicy]

/-- A script node, and an assignment whose value a script makes, may write what the script has
written. -/
theorem writes_apply {kind : Node.Kind} {code : String} {mode : Script.Mode}
    {outcome : Script.Outcome} (hscript : kind.script? = some (code, mode))
    (hrun : env.sandbox t.runs code t.state.vars mode env.client = .ok outcome) :
    t.Writes (MayWrite env t kind) kind.Keeps (t.ran.apply outcome) := by
  have hrunOf : runOf env t kind = some (.ok outcome) := by
    unfold runOf
    rw [hscript, ← hrun]
    rfl
  have hran : t.Writes (MayWrite env t kind) kind.Keeps t.ran := .of_eq rfl rfl
  exact hran.trans (.apply t.ran outcome fun _ hname => .mutated hrunOf hname)

/-! ### Nodes -/

/-- An assignment writes its variable, and what its script writes. -/
theorem writes_assign (nodeId : String) (a : Assignment) :
    Ends (fun _ => True)
      (fun step => t.Writes (MayWrite env t (.assignment a))
        (Node.Kind.assignment a).Keeps step.turn)
      (t.assign env nodeId a) := by
  have hset : MayWrite env t (.assignment a) a.variableName := .set (.assignment a)
  have hrecord : ∀ (u : Turn) value, u.Writes (MayWrite env t (.assignment a))
      (Node.Kind.assignment a).Keeps (u.record a value) :=
    fun u value => .record u value hset fun hkeep => .assignment hkeep
  unfold assign
  by_cases hclient : a.source = .custom ∧ a.executeOnClient
  · rw [if_pos hclient]
    refine Ends.found fun result hresult => ?_
    obtain ⟨outcome, rfl, hrun⟩ | ⟨rfl, -⟩ := runScript_cases hresult
    · -- What the script has written is set first, and the variable of the assignment after it.
      have hscript : (Node.Kind.assignment a).script? = some (a.value, .client) := if_pos hclient
      exact ((writes_apply hscript hrun).trans (hrecord _ _)).trans (writes_leaveScript _ _)
    · exact Writes.of_eq rfl rfl
  · rw [if_neg hclient]
    have hdraw : (t.draw a.source).state = t.state := by
      cases a.source <;> rfl
    have hdrawn : t.Writes (MayWrite env t (.assignment a))
        (Node.Kind.assignment a).Keeps (t.draw a.source) :=
      .of_eq (by rw [hdraw]) (by rw [hdraw])
    exact (hdrawn.trans (hrecord _ _)).trans (.of_eq rfl rfl)

/-- A script node writes what its script writes. -/
theorem writes_script (nodeId : String) (s : ScriptNode) :
    Ends (fun _ => True)
      (fun step => t.Writes (MayWrite env t (.script s))
        (Node.Kind.script s).Keeps step.turn)
      (t.script env nodeId s) := by
  refine Ends.found fun result hresult => ?_
  obtain ⟨outcome, rfl, hrun⟩ | ⟨rfl, -⟩ := runScript_cases hresult
  · exact (writes_apply rfl hrun).trans (writes_leaveScript _ _)
  · exact Writes.of_eq rfl rfl

/-- Asking writes nothing. -/
theorem writes_ask (i : Input) : t.Writes vars results (t.ask env i) := by
  unfold ask
  cases i.prompt with
  | none => exact .refl t
  | some prompt => exact .of_eq rfl rfl

/-- A node writes only what it may, and keeps only what it is to keep. -/
theorem writes_execute (node : Node) :
    Ends (fun _ => True)
      (fun step => t.Writes (MayWrite env t node.kind) node.kind.Keeps step.turn)
      (t.execute g env node) := by
  obtain ⟨nodeId, kind⟩ := node
  -- Only assignments and scripts write; all other nodes say, show or wait.
  unfold execute
  cases kind with
  | textBubble content => exact Writes.of_eq rfl rfl
  | numberBubble content => exact Writes.of_eq rfl rfl
  | mediaBubble kind url alt => exact Writes.of_eq rfl rfl
  | input kind i => exact (writes_ask i).trans (.of_eq rfl rfl)
  | buttons buttons => exact Writes.of_eq rfl rfl
  | condition groups => exact writes_followExit _
  | assignment a => exact writes_assign nodeId a
  | script s => exact writes_script nodeId s

/-! ### Passes -/

/-- The turn stands at a node that saves answers in a variable. -/
def Saves (g : Graph) (t : Turn) (name : String) : Prop :=
  ∃ node, t.node? g = .ok (some node) ∧ node.kind.Saves name

/-- The turn stands at a node that sets a variable. -/
def Sets (g : Graph) (t : Turn) (name : String) : Prop :=
  ∃ node, t.node? g = .ok (some node) ∧ node.kind.Sets name

/-- The turn stands at a node that keeps a result. -/
def Keeps (g : Graph) (t : Turn) (name : String) : Prop :=
  ∃ node, t.node? g = .ok (some node) ∧ node.kind.Keeps name

/-- The script where the turn stands is run and has written a variable. -/
def Mutates (g : Graph) (env : Environment) (t : Turn) (name : String) : Prop :=
  ∃ outcome, t.scriptRun? g env = some (.ok outcome) ∧ name ∈ outcome.mutations.map Prod.fst

/-- A pass writes what the node where the turn stands sets, or its script has written. -/
theorem writes_pass :
    Ends (fun _ => True)
      (fun step =>
        t.Writes (fun name => t.Sets g name ∨ t.Mutates g env name) (t.Keeps g) step.turn)
      (t.pass g env) := by
  -- The node at the cursor decides what may be written; behind the last node nothing is.
  refine Ends.found fun node hnode => ?_
  cases node with
  | some node =>
    refine (writes_execute node).mono (fun _ _ => trivial) fun step h => h.mono ?_ ?_
    · rintro name (hsets | ⟨hrun, hname⟩)
      · exact .inl ⟨node, hnode, hsets⟩
      · refine .inr ⟨_, ?_, hname⟩
        unfold scriptRun?
        rw [hnode]
        exact hrun
    · exact fun name hkeeps => ⟨node, hnode, hkeeps⟩
  | none =>
    refine Ends.look fun target => ?_
    cases target with
    | some target => exact Writes.refl t
    | none => exact Writes.of_eq rfl rfl

/-- A script that fails and is passed over moves the turn to the next node, and no more comes of it
than that it was run. -/
theorem pass_of_scriptRun? {failure : Script.Failure} (hpolicy : env.policy = .skip)
    (h : t.scriptRun? g env = some (.error failure)) :
    t.pass g env = .ok (.next t.ran.advance) := by
  unfold scriptRun? at h
  split at h
  · rename_i node hnode
    obtain ⟨nodeId, kind⟩ := node
    rw [pass_of_node hnode]
    -- Only the two kinds of nodes that have scripts can have a run at all.
    cases kind with
    | script s =>
      have hrun : t.runScript env nodeId s.code (if s.executeOnServer then .server else .client) =
          .ok none := runScript_of_error hpolicy (Option.some.inj h)
      show t.script env nodeId s = _
      unfold script
      dsimp only
      rw [hrun]
      rfl
    | assignment a =>
      by_cases hclient : a.source = .custom ∧ a.executeOnClient
      · have hrun : env.sandbox t.runs a.value t.state.vars .client env.client =
            .error failure := by
          simpa [runOf, Node.Kind.script?, hclient] using h
        show t.assign env nodeId a = _
        unfold assign assignByScript
        rw [if_pos hclient, runScript_of_error hpolicy hrun]
        rfl
      · simp [runOf, Node.Kind.script?, hclient] at h
    | _ => cases h
  · cases h

/-! ### Answers -/

/-- The button that a user means is one of those that are offered. -/
theorem mem_of_chosen? {options : List Button} {payload : Inbound} {b : Button}
    (h : chosen? options payload = some b) : b ∈ options := by
  unfold chosen? at h
  rw [Option.or_eq_some_iff] at h
  obtain hid | ⟨-, htext⟩ := h
  · obtain ⟨id, -, hfind⟩ := Option.bind_eq_some_iff.1 hid
    exact List.mem_of_find?_eq_some hfind
  · obtain ⟨text, -, hfind⟩ := Option.bind_eq_some_iff.1 htext
    exact List.mem_of_find?_eq_some hfind

/-- Saying a text that may be missing writes nothing. -/
theorem writes_sayOptional (text : Option String) :
    t.Writes vars results (t.sayOptional env text) := by
  cases text with
  | none => exact .refl t
  | some text => exact .of_eq rfl rfl

/-- The label of a button is saved where the button says. -/
theorem writes_choose {nodeId : String} {options : List Button} (payload : Inbound)
    (hnode : t.node? g = .ok (some ⟨nodeId, .buttons options⟩)) :
    Ends (fun _ => True) (fun step => t.Writes (t.Saves g) results step.turn)
      (t.choose g nodeId options payload) := by
  -- The label of the button that is chosen is written to its variable, if it has one.
  have hkeep : t.Writes (t.Saves g) results
      (t.answered.keepChoice (chosen? options payload)) := by
    have hanswered : t.Writes (t.Saves g) results t.answered := .of_eq rfl rfl
    cases hchosen : chosen? options payload with
    | none => exact hanswered
    | some b =>
      refine hanswered.trans (.setOptional _ _ fun name hname => ?_)
      exact ⟨_, hnode, .button (mem_of_chosen? hchosen) hname⟩
  refine Ends.look fun handle => ?_
  exact (writes_followExit handle).mono (fun _ _ => trivial) fun step hstep => hkeep.trans hstep

/-- An answer that is accepted is saved where the input says. -/
theorem writes_fillIn {nodeId : String} {kind : InputKind} {i : Input} (payload : Inbound)
    (hnode : t.node? g = .ok (some ⟨nodeId, .input kind i⟩)) :
    t.Writes (t.Saves g) results (t.fillIn env kind i payload).turn := by
  simp only [fillIn]
  split
  · have hset : t.Writes (t.Saves g) results
        (t.setOptional i.saveVariable (Text.trimmed (payload.text.getD ""))) :=
      .setOptional t _ fun name hname => ⟨_, hnode, .input kind hname⟩
    exact hset.trans (.of_eq rfl rfl)
  · exact (writes_sayOptional i.retryMessage).trans (writes_ask i)

/-- An answer writes what the node at the cursor saves. -/
theorem writes_answer (payload : Inbound) :
    Ends (fun _ => True) (fun step => t.Writes (t.Saves g) results step.turn)
      (t.answer g env payload) :=
  .atQuestion (fun _ _ hnode => writes_choose payload hnode)
    fun _ _ _ hnode => writes_fillIn payload hnode

/-- Asking again writes nothing. -/
theorem writes_askAgain :
    Ends (fun _ => True) (fun u => t.Writes vars results u) (t.askAgain g env) :=
  .atQuestion (fun _ _ _ => Writes.of_eq rfl rfl) fun _ _ i _ => writes_ask i

/-- What a turn begins with saves the answer to the node where the session waits, if anything. -/
theorem writes_opening (inbound : Option Inbound) :
    Ends (fun _ => True) (fun step => t.Writes (t.Saves g) results step.turn)
      (t.opening g env inbound) := by
  unfold opening
  split
  · exact Writes.of_eq rfl rfl
  · exact Writes.refl t
  · exact writes_askAgain.map fun u hu => hu
  · exact writes_answer _

end Turn

/-! ### Whole turns -/

variable {step : Step} {passes : List Pass} {t last : Turn} {drawn : Nat} {s : State}
  {inbound : Option Inbound}

/-- Passes write what the node sets where one of them is made, or what its script has written. -/
theorem Path.writes (h : Path g env step passes last) :
    step.turn.Writes
      (fun name => ∃ p ∈ passes, p.turn.Sets g name ∨ p.turn.Mutates g env name)
      (fun name => ∃ p ∈ passes, p.turn.Keeps g name) last := by
  induction h with
  | rest t => exact .refl t
  | @pass step next t last passes ht hpass hpath ih =>
    -- Entering a container, if the step leaves one, sets nothing.
    have henter : step.turn.Writes
        (fun name => ∃ p ∈ (⟨t, next⟩ : Pass) :: passes,
          p.turn.Sets g name ∨ p.turn.Mutates g env name)
        (fun name => ∃ p ∈ (⟨t, next⟩ : Pass) :: passes, p.turn.Keeps g name) t := by
      match step with
      | .next u => cases ht; exact .refl _
      | .done (.leave u target) => cases ht; exact .of_eq rfl rfl
      | .done (.rest u) => cases ht
    have hfirst := Turn.writes_pass.ok hpass
    refine henter.trans ((hfirst.mono ?_ ?_).trans (ih.mono ?_ ?_))
    · exact fun name hname => ⟨_, List.mem_cons_self, hname⟩
    · exact fun name hname => ⟨_, List.mem_cons_self, hname⟩
    · rintro name ⟨p, hp, hname⟩
      exact ⟨p, List.mem_cons_of_mem _ hp, hname⟩
    · rintro name ⟨p, hp, hname⟩
      exact ⟨p, List.mem_cons_of_mem _ hp, hname⟩

/-- The passes of a turn that succeeds. A session that has ended makes none. -/
inductive Journey (g : Graph) (env : Environment) (drawn : Nat) (s : State)
    (inbound : Option Inbound) : List Pass → Turn → Prop
  | ended (hs : s.status = .ended) :
    Journey g env drawn s inbound [] (Turn.finish env { state := s, drawn })
  | goes {opening : Step} {passes : List Pass} {last : Turn} (hs : s.status ≠ .ended)
    (hopening : (Turn.received env drawn s inbound).opening g env
      (inbound.filter (!·.isEmpty)) = .ok opening)
    (hpath : Path g env opening passes last) :
    Journey g env drawn s inbound passes (last.finish env)

/-- Every turn that succeeds is a journey: it opens, and passes over nodes. -/
theorem exists_journey (h : Turn.run g env drawn s inbound = .ok t) :
    ∃ passes, Journey g env drawn s inbound passes t := by
  by_cases hs : s.status = .ended
  · unfold Turn.run at h
    rw [hs] at h
    cases h
    exact ⟨[], .ended hs⟩
  · obtain ⟨opening, passes, last, hopening, hpath, -, rfl⟩ := (Turn.run_eq_ok_iff hs).1 h
    exact ⟨passes, .goes hs hopening hpath⟩

/-- Writing down what came in leaves the turn where it is and sets nothing. -/
theorem Turn.writes_received {vars results : String → Prop} :
    Turn.Writes vars results { state := s, drawn } (received env drawn s inbound) := by
  unfold received
  cases inbound.filter (!·.isEmpty) with
  | none => exact .refl _
  | some payload => exact .of_eq rfl rfl

/-- What is saved of an answer does not depend on its being written down. -/
theorem Turn.saves_received {name : String} (h : (received env drawn s inbound).Saves g name) :
    Turn.Saves g { state := s, drawn } name := by
  unfold received at h
  cases hinbound : inbound.filter (!·.isEmpty) with
  | none => rwa [hinbound] at h
  | some payload => rwa [hinbound] at h

/-- A journey saves an answer where the session waits, and writes what its passes may write. -/
theorem Journey.writes (h : Journey g env drawn s inbound passes t) :
    Turn.Writes
      (fun name => Turn.Saves g { state := s, drawn } name ∨
        ∃ p ∈ passes, p.turn.Sets g name ∨ p.turn.Mutates g env name)
      (fun name => ∃ p ∈ passes, p.turn.Keeps g name) { state := s, drawn } t := by
  cases h with
  | ended hs => exact .of_eq rfl rfl
  | @goes opening _ last hs hopening hpath =>
    have hopens : (Turn.received env drawn s inbound).Writes
        ((Turn.received env drawn s inbound).Saves g) (fun _ => False) opening.turn :=
      (Turn.writes_opening _).ok hopening
    -- The answer is written down, saved by the opening, and followed by the passes.
    refine (Turn.writes_received.trans ((hopens.mono ?_ ?_).trans (hpath.writes.mono ?_ ?_))).trans
      (.of_eq rfl rfl)
    · exact fun name hname => .inl (Turn.saves_received hname)
    · exact fun name hname => hname.elim
    · exact fun name hname => .inr hname
    · exact fun name hname => hname

/-- A turn writes only what is declared, and forgets nothing. Whatever the flow, the session and the
answer are: after a turn that succeeds every variable and every result has a value that had one
before. A variable with another value is that of the input or of a button where the session waited,
or it belongs to a place that the turn came to: an assignment there sets it, or a script that was
run there has written it. A result with another value is that of an assignment there that keeps its
value as a result. What the session was begun with, and its revision, are as before. And a script
that fails and is passed over does nothing but move the cursor to the next node, and count as one
more run. -/
theorem turns_write_what_is_declared (g : Graph) (env : Environment) :
    (∀ drawn s inbound t, Turn.run g env drawn s inbound = .ok t →
      ∃ passes, Journey g env drawn s inbound passes t ∧
        s.vars.Revises
          (fun name => Turn.Saves g { state := s, drawn } name ∨
            ∃ p ∈ passes, p.turn.Sets g name ∨ p.turn.Mutates g env name)
          t.state.vars ∧
        s.results.Revises (fun name => ∃ p ∈ passes, p.turn.Keeps g name) t.state.results ∧
        t.state.origin = s.origin) ∧
    ∀ (t : Turn) failure, env.policy = .skip → t.scriptRun? g env = some (.error failure) →
      t.pass g env = .ok (.next
        { t with state.nodeIndex := t.state.nodeIndex + 1, runs := t.runs + 1 }) := by
  constructor
  -- A turn writes on its journey; what it was begun with it keeps besides.
  · intro drawn s inbound t h
    obtain ⟨passes, hjourney⟩ := exists_journey h
    have hwrites := hjourney.writes
    exact ⟨passes, hjourney, hwrites.vars, hwrites.results, Turn.run_origin h⟩
  · intro t failure hpolicy hfails
    exact Turn.pass_of_scriptRun? hpolicy hfails

/-! ### An errand -/

namespace Errand

/-- A flow that asks for a name, keeps a number, and runs a script that fails and one that does
not. -/
def flow : Definition where
  containers :=
    [⟨"desk", [⟨"name", .input .text { saveVariable := some "name" }⟩,
      ⟨"number", .assignment { variableName := "number", value := "7", saveInResults := true }⟩,
      ⟨"broken", .script { code := "while (true);" }⟩,
      ⟨"mark", .script { code := "setVariable('mark', 'seen')" }⟩]⟩]
  edges := []

/-- One script fails, and the other one writes a variable. -/
def setting : Environment where
  now := ⟨0, 0⟩
  patterns := .refusing
  sandbox := fun _ code _ _ _ =>
    if code = "while (true);" then .error .stepLimit
    else .ok { mutations := [("mark", "seen")] }
  token := fun _ => ""

/-- The session that waits for a name. -/
def waiting : State where
  sessionId := "s"
  flowId := "f"
  flowVersion := 1
  containerId := "desk"
  vars := .ofList [("language", "en"), ("mark", "new")]
  waitingFor := some (.input .text)
  createdAt := setting.now
  updatedAt := setting.now

/-- The answer. -/
def answer : Inbound := { text := some "Ada" }

/-- The turn that takes the answer in. -/
def done : Turn where
  state :=
    { waiting with
      nodeIndex := 4
      vars := .ofList [("language", "en"), ("mark", "seen"), ("name", "Ada"), ("number", "7")]
      results := .ofList [("number", "7")]
      log := [.inbound answer setting.now]
      waitingFor := none
      status := .ended }
  runs := 2

/-- The turn at the script that fails. -/
def stuck : Turn where
  state := { waiting with nodeIndex := 2, waitingFor := none }

end Errand

/-- The name, the number and the mark are set, and the script that fails is passed over. -/
theorem turns_write_what_is_declared_errand :
    let g := Graph.ofDefinition Errand.flow
    (Turn.run g Errand.setting 0 Errand.waiting (some Errand.answer) = .ok Errand.done ∧
      ∃ passes, Journey g Errand.setting 0 Errand.waiting (some Errand.answer) passes Errand.done ∧
        Errand.waiting.vars.Revises
          (fun name => Turn.Saves g { state := Errand.waiting } name ∨
            ∃ p ∈ passes, p.turn.Sets g name ∨ p.turn.Mutates g Errand.setting name)
          Errand.done.state.vars) ∧
      Errand.stuck.scriptRun? g Errand.setting = some (.error .stepLimit) ∧
      Errand.stuck.pass g Errand.setting =
        .ok (.next { Errand.stuck with state.nodeIndex := 3, runs := 1 }) := by
  intro g
  -- Both runs are evaluated; what they write is told by the theorem.
  have hrun : Turn.run g Errand.setting 0 Errand.waiting (some Errand.answer) =
      .ok Errand.done := by
    decide +kernel
  have hfails : Errand.stuck.scriptRun? g Errand.setting = some (.error .stepLimit) := by
    decide +kernel
  obtain ⟨hturns, hskips⟩ := turns_write_what_is_declared g Errand.setting
  obtain ⟨passes, hjourney, hvars, -, -⟩ := hturns 0 Errand.waiting _ _ hrun
  exact ⟨⟨hrun, passes, hjourney, hvars⟩, hfails, hskips Errand.stuck .stepLimit rfl hfails⟩

end Session

end Dialogue
