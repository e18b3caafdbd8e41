import Dialogue.Proofs.Session.Course
import Mathlib.Logic.Relation

namespace Dialogue.Session

open Dialogue.Flow

/-!
# What a turn is made of

Whatever a turn does, it does by a few kinds of elementary acts, one after the other, and stamps the
session at the end. What every act keeps, every turn keeps.

* `Turn.Act`: an elementary act.
* `Turn.Leads`: some acts lead from one turn to another.
* `Turn.run_leads`: a whole turn is made of acts.
* `Turn.run_origin`: a turn keeps what a session was begun with, and its revision.
* `Turn.run_log`: a turn only adds lines to the transcript, all of them with its own time.
-/

variable {g : Graph} {env : Environment}

namespace Turn

/-- An elementary act. -/
inductive Act (env : Environment) : Turn → Turn → Prop
  | say (m : Message) (t : Turn) : Act env t (t.say env m)
  | offer (buttons : List Button) (t : Turn) : Act env t (t.offer buttons)
  | receive (payload : Inbound) (t : Turn) : Act env t (t.receive env (some payload))
  | set (name value : String) (t : Turn) : Act env t (t.set name value)
  | keep (name value : String) (t : Turn) :
    Act env t { t with state.results := t.state.results.insert name value }
  | draw (t : Turn) : Act env t { t with drawn := t.drawn + 1 }
  | run (t : Turn) : Act env t t.ran
  | move (id : String) (index : Nat) (t : Turn) :
    Act env t { t with state.containerId := id, state.nodeIndex := index }
  | await (waiting : Option Awaited) (t : Turn) : Act env t { t with state.waitingFor := waiting }
  | become (status : Status) (t : Turn) : Act env t { t with state.status := status }
  | redirect (url : String) (t : Turn) : Act env t (t.redirect env url)

/-- Some acts lead from one turn to another. -/
def Leads (env : Environment) : Turn → Turn → Prop :=
  Relation.ReflTransGen (Act env)

namespace Leads

variable {t t' t'' : Turn}

/-- No act at all leads from a turn to itself. -/
theorem refl (t : Turn) : Leads env t t := Relation.ReflTransGen.refl

/-- Acts may be followed by further acts. -/
theorem trans (h : Leads env t t') (h' : Leads env t' t'') : Leads env t t'' :=
  Relation.ReflTransGen.trans h h'

/-- One act leads on. -/
theorem act (h : Act env t t') : Leads env t t' := Relation.ReflTransGen.single h

/-! ### Giving -/

/-- A text is said by one act. -/
theorem sayText (text : String) (t : Turn) : Leads env t (t.sayText env text) :=
  .act (.say _ t)

/-- A text that may be missing is said by one act, or by none. -/
theorem sayOptional (text : Option String) (t : Turn) : Leads env t (t.sayOptional env text) := by
  cases text with
  | none => exact .refl t
  | some text => exact .sayText text t

/-- Asking is saying the prompt, if there is one. -/
theorem ask (i : Input) (t : Turn) : Leads env t (t.ask env i) := .sayOptional i.prompt t

/-- Media are shown by saying a message. -/
theorem showMedia (kind : MediaKind) (url alt : String) (t : Turn) :
    Leads env t (t.showMedia env kind url alt) :=
  .act (.say _ t)

/-! ### Changing the session -/

/-- Something is received by one act, and nothing by none. -/
theorem receive (inbound : Option Inbound) (t : Turn) : Leads env t (t.receive env inbound) := by
  cases inbound with
  | none => exact .refl t
  | some payload => exact .act (.receive payload t)

/-- A variable is set by one act, or by none if it has no name. -/
theorem setOptional (name : Option String) (value : String) (t : Turn) :
    Leads env t (t.setOptional name value) := by
  cases name with
  | none => exact .refl t
  | some name => exact .act (.set name value t)

/-- The variables of a script are set by one act each. -/
theorem apply (outcome : Script.Outcome) (t : Turn) : Leads env t (t.apply outcome) := by
  unfold Turn.apply
  -- The acts for the remaining variables begin where the act for the first one has led.
  induction outcome.mutations generalizing t with
  | nil => exact .refl t
  | cons m rest ih => exact (Leads.act (.set m.1 m.2 t)).trans (ih _)

/-- Only a random value is drawn. -/
theorem draw (source : ValueSource) (t : Turn) : Leads env t (t.draw source) := by
  cases source with
  | random => exact .act (.draw t)
  | _ => exact .refl t

/-- A result is set, and kept besides if it is to be. -/
theorem record (a : Assignment) (value : String) (t : Turn) : Leads env t (t.record a value) := by
  have hset : Leads env t (t.set a.variableName value) := .act (.set _ _ t)
  unfold Turn.record
  split
  · exact hset.trans (.act (.keep _ _ _))
  · exact hset

/-- The cursor is moved by one act. -/
theorem advance (t : Turn) : Leads env t t.advance := .act (.move _ _ t)

/-- A container is entered by moving the cursor. -/
theorem enter (c : Container) (t : Turn) : Leads env t (t.enter c) := .act (.move _ _ t)

/-- A conversation is closed by two acts: it has ended, and it waits for nothing. -/
theorem close (t : Turn) : Leads env t t.close :=
  (Leads.act (.become .ended t)).trans (.act (.await none _))

/-- A turn is resumed by two acts: the cursor moves, and the session is active again. -/
theorem resume (t : Turn) : Leads env t t.resume :=
  (advance t).trans (.act (.become .active _))

/-- A choice is kept by setting the variable of the button, if it has one. -/
theorem keepChoice (choice : Option Button) (t : Turn) : Leads env t (t.keepChoice choice) := by
  cases choice with
  | none => exact .refl t
  | some b => exact .setOptional b.saveVariable _ t

end Leads

end Turn

/-! ### Nodes, containers and walks -/

/-- The turn that a visit ends with. -/
def Visit.turn : Visit → Turn
  | .rest t | .leave t _ => t

/-- The turn that follows a node. -/
def Step.turn : Step → Turn
  | .next t => t
  | .done v => v.turn

/-- A step of a turn that succeeds is made of acts. -/
abbrev Acts (env : Environment) (t : Turn) {α : Type} (turn : α → Turn) : Except Abort α → Prop :=
  Ends (fun _ => True) fun a => t.Leads env (turn a)

namespace Turn

variable {t : Turn}

/-- Following an exit is at most moving the cursor and closing. -/
theorem acts_followExit (handle : Handle) : Acts env t Step.turn (t.followExit g handle) := by
  unfold followExit
  refine Ends.look fun target => ?_
  cases target with
  | some target => exact Leads.refl t
  | none =>
    refine Ends.look fun node => ?_
    cases node with
    | some node => exact Leads.advance t
    | none => exact (Leads.advance t).trans (.close _)

/-- Leaving a script is moving the cursor, or asking for a redirect. -/
theorem leads_leaveScript (url : Option String) : t.Leads env (t.leaveScript env url).turn := by
  cases url with
  | none => exact Leads.advance t
  | some url => exact .act (.redirect url t)

/-- An assignment is made of the acts of its script, or of its value, and of a move. -/
theorem acts_assign (nodeId : String) (a : Assignment) :
    Acts env t Step.turn (t.assign env nodeId a) := by
  have hran : t.Leads env t.ran := .act (.run t)
  -- The value comes from a script, which may fail, or from the variables.
  unfold assign
  split
  · refine Ends.look fun outcome => ?_
    cases outcome with
    | none => exact hran.trans (.advance _)
    | some outcome =>
      exact ((hran.trans (.apply outcome _)).trans (.record a _ _)).trans (leads_leaveScript _)
  · exact ((Leads.draw a.source t).trans (.record a _ _)).trans (.advance _)

/-- A script node counts the script, sets its variables and leaves. -/
theorem acts_script (nodeId : String) (s : ScriptNode) :
    Acts env t Step.turn (t.script env nodeId s) := by
  have hran : t.Leads env t.ran := .act (.run t)
  refine Ends.look fun outcome => ?_
  cases outcome with
  | none => exact hran.trans (.advance _)
  | some outcome => exact (hran.trans (.apply outcome _)).trans (leads_leaveScript _)

/-- Every node is made of acts. -/
theorem acts_execute (node : Node) : Acts env t Step.turn (t.execute g env node) := by
  unfold execute
  cases node.kind with
  | textBubble content => exact (Leads.sayText content t).trans (.advance _)
  | numberBubble content => exact (Leads.sayText content t).trans (.advance _)
  | mediaBubble kind url alt => exact (Leads.showMedia kind url alt t).trans (.advance _)
  | input kind i => exact (Leads.ask i t).trans (.act (.await _ _))
  | buttons options => exact (Leads.act (.offer options t)).trans (.act (.await _ _))
  | condition groups => exact acts_followExit _
  | assignment a => exact acts_assign node.id a
  | script s => exact acts_script node.id s

/-- A step that goes on from where acts have led. -/
theorem acts_bind {α β : Type} {first : α → Turn} {turn : β → Turn} {step : Except Abort α}
    {next : α → Except Abort β} (h : Acts env t first step)
    (hnext : ∀ a, Acts env (first a) turn (next a)) : Acts env t turn (step >>= next) :=
  h.bind fun a ha => (hnext a).mono (fun _ he => he) fun _ hb => ha.trans hb

/-- The nodes of a container are made of acts, up to the one where the turn stops. -/
theorem acts_visitNodes (nodes : List Node) :
    Acts env t Visit.turn (visitNodes g env nodes t) := by
  induction nodes generalizing t with
  | nil =>
    unfold visitNodes
    refine Ends.look fun target => ?_
    cases target with
    | some target => exact Leads.refl t
    | none => exact Leads.close t
  | cons node rest ih =>
    unfold visitNodes
    refine acts_bind (acts_execute node) fun step => ?_
    cases step with
    | next t => exact ih
    | done v => exact Leads.refl v.turn

/-- A visit is made of the acts of the nodes from the cursor on. -/
theorem acts_visit : Acts env t Visit.turn (t.visit g env) :=
  Ends.look fun c => acts_visitNodes (c.nodes.drop t.state.nodeIndex)

/-- Following visits is made of the acts of the containers that are entered. -/
theorem acts_followVisit (hops : Nat) (v : Visit) :
    Acts env v.turn id (v.follow g env hops) := by
  induction hops generalizing v with
  | zero =>
    cases v with
    | rest t => exact Leads.refl t
    | leave t target => trivial
  | succ hops ih =>
    cases v with
    | rest t => exact Leads.refl t
    | leave t target =>
      -- Entering the container is one act more before its visit.
      have hvisit : Acts env t Visit.turn ((t.enter target).visit g env) :=
        acts_visit.mono (fun _ he => he) fun _ hv => (Leads.enter target t).trans hv
      exact acts_bind hvisit fun v => ih v

/-- A walk is made of acts. -/
theorem acts_walk : Acts env t id (t.walk g env) :=
  acts_bind acts_visit fun v => acts_followVisit env.maxHops v

/-- Whatever follows a node is made of acts. -/
theorem acts_followStep (step : Step) : Acts env step.turn id (step.follow g env) := by
  cases step with
  | next t => exact acts_walk
  | done v => exact acts_followVisit env.maxHops v

/-! ### Answers and turns -/

/-- An input keeps an accepted answer and moves on, or says that it is refused and asks again. -/
theorem leads_fillIn (kind : InputKind) (i : Input) (payload : Inbound) :
    t.Leads env (t.fillIn env kind i payload).turn := by
  simp only [fillIn]
  split
  · exact ((Leads.setOptional i.saveVariable _ t).trans (.act (.await none _))).trans (.advance _)
  · exact (Leads.sayOptional i.retryMessage t).trans (.ask i _)

/-- A choice is kept before its exit is followed. -/
theorem acts_choose (nodeId : String) (options : List Button) (payload : Inbound) :
    Acts env t Step.turn (t.choose g nodeId options payload) := by
  have hkeep : t.Leads env (t.answered.keepChoice (chosen? options payload)) :=
    (Leads.act (.await none t)).trans (.keepChoice _ _)
  exact Ends.look fun handle =>
    (acts_followExit handle).mono (fun _ he => he) fun _ hstep => hkeep.trans hstep

/-- Taking an answer in is made of acts. -/
theorem acts_answer (payload : Inbound) : Acts env t Step.turn (t.answer g env payload) :=
  .atQuestion (fun id options _ => acts_choose id options payload)
    fun _ kind i _ => leads_fillIn kind i payload

/-- Asking again is made of acts: the buttons are offered, or the prompt is said. -/
theorem acts_askAgain : Acts env t id (t.askAgain g env) :=
  .atQuestion (fun _ options _ => Leads.act (.offer options t)) fun _ _ i _ => Leads.ask i t

/-- A reaction is made of acts, whatever the session waits for. -/
theorem acts_react (inbound : Option Inbound) : Acts env t id (t.react g env inbound) := by
  unfold react
  -- The cases are a redirect before, nothing awaited, nothing sent, and an answer.
  split
  · exact acts_walk.mono (fun _ he => he) fun _ h => (Leads.resume t).trans h
  · exact acts_walk
  · exact acts_askAgain
  · exact acts_bind (acts_answer _) fun step => acts_followStep step

/-- A whole turn is made of acts, and stamped at the end. -/
theorem run_leads {drawn : Nat} {s : State} {inbound : Option Inbound} {t : Turn}
    (h : run g env drawn s inbound = .ok t) :
    ∃ last, Leads env { state := s, drawn } last ∧ t = last.finish env := by
  have hreact : Ends (fun _ => True)
      (fun t => ∃ last, Leads env { state := s, drawn } last ∧ t = last.finish env)
      (finish env <$> (receive env (inbound.filter (!·.isEmpty)) { state := s, drawn }).react g env
        (inbound.filter (!·.isEmpty))) :=
    (acts_react _).map fun last hlast => ⟨last, (Leads.receive _ _).trans hlast, rfl⟩
  unfold run at h
  cases hstatus : s.status with
  | ended =>
    -- A session that has ended is only stamped.
    rw [hstatus] at h
    exact ⟨_, .refl _, (Except.ok.inj h).symm⟩
  | active =>
    rw [hstatus] at h
    exact hreact.ok h
  | yielded =>
    rw [hstatus] at h
    exact hreact.ok h

end Turn

/-! ### What every turn keeps -/

/-- What a session was begun with, and how often it was saved. -/
structure Origin where
  sessionId : String
  flowId : String
  flowVersion : Int
  revision : Int
  createdAt : Time.Instant

/-- What a session was begun with, and how often it was saved. -/
def State.origin (s : State) : Origin where
  sessionId := s.sessionId
  flowId := s.flowId
  flowVersion := s.flowVersion
  revision := s.revision
  createdAt := s.createdAt

namespace Turn

variable {t t' : Turn}

/-- No act changes what a session was begun with. -/
theorem Act.origin (h : Act env t t') : t'.state.origin = t.state.origin := by
  cases h <;> rfl

/-- No act changes what a session was begun with, so no number of them does. -/
theorem Leads.origin (h : Leads env t t') : t'.state.origin = t.state.origin := by
  induction h with
  | refl => rfl
  | tail _ hact ih => exact hact.origin.trans ih

/-- An act adds to the transcript nothing but lines with the time of the turn. -/
theorem Act.log (h : Act env t t') :
    ∃ added, t'.state.log = t.state.log ++ added ∧ ∀ e ∈ added, e.time = env.now := by
  -- Three acts write a line each; the others leave the transcript alone.
  cases h with
  | say m => exact ⟨[_], rfl, by simp [LogEntry.time]⟩
  | receive payload => exact ⟨[_], rfl, by simp [LogEntry.time]⟩
  | redirect url => exact ⟨[_], rfl, by simp [LogEntry.time]⟩
  | _ => exact ⟨[], (List.append_nil _).symm, by simp⟩

/-- Acts add to the transcript what each of them adds, in order. -/
theorem Leads.log (h : Leads env t t') :
    ∃ added, t'.state.log = t.state.log ++ added ∧ ∀ e ∈ added, e.time = env.now := by
  induction h with
  | refl => exact ⟨[], (List.append_nil _).symm, by simp⟩
  | tail _ hact ih =>
    obtain ⟨added, hlog, htime⟩ := ih
    obtain ⟨more, hlog', htime'⟩ := hact.log
    refine ⟨added ++ more, by rw [hlog', hlog, List.append_assoc], fun e he => ?_⟩
    rcases List.mem_append.1 he with he | he
    · exact htime e he
    · exact htime' e he

variable {drawn : Nat} {s : State} {inbound : Option Inbound}

/-- A turn keeps what a session was begun with, and its revision. -/
theorem run_origin (h : run g env drawn s inbound = .ok t) : t.state.origin = s.origin := by
  obtain ⟨last, hleads, rfl⟩ := run_leads h
  exact hleads.origin

/-- A turn only adds lines to the transcript, all of them with its own time. -/
theorem run_log (h : run g env drawn s inbound = .ok t) :
    ∃ added, t.state.log = s.log ++ added ∧ ∀ e ∈ added, e.time = env.now := by
  obtain ⟨last, hleads, rfl⟩ := run_leads h
  exact hleads.log

/-- A turn stamps the session with its time. -/
theorem run_updatedAt (h : run g env drawn s inbound = .ok t) : t.state.updatedAt = env.now := by
  obtain ⟨last, -, rfl⟩ := run_leads h
  rfl

end Turn

end Dialogue.Session
