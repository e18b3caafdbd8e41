import Dialogue.Proofs.Session.Acts

namespace Dialogue.Session

open Dialogue.Flow

/-!
# Sessions that a turn treats alike

No part of a turn looks at what a session was begun with, how often it was saved, the transcript or
the time of the last turn. So a turn makes of two sessions that are alike in all the rest the same
reply, or the same failure, and sessions that are alike again. What a session was begun with it
keeps, so sessions that agree in that as well go on agreeing.

* `State.Alike`, `Turn.Alike`: equal in all that a turn looks at.
* `State.Agrees`, `Turn.Agrees`: equal but for the transcript and the time of the last turn.
* `Both`: two steps of a turn that come to related results, or fail alike.
* `Turn.both_execute`, `Turn.both_walk`, `Turn.both_answer`: the parts of a turn keep them alike.
* `Turn.both_alike`, `Turn.both_run`: so does a whole turn, and it keeps agreement.
-/

/-! ### Agreement -/

/-- The session with another beginning, transcript and time of the last turn. -/
def State.retold (o : Origin) (log : List LogEntry) (updatedAt : Time.Instant) (s : State) :
    State :=
  { s with
    sessionId := o.sessionId
    flowId := o.flowId
    flowVersion := o.flowVersion
    revision := o.revision
    createdAt := o.createdAt
    log
    updatedAt }

/-- The sessions are equal in all that a turn looks at. -/
def State.Alike (s s' : State) : Prop :=
  ∃ o log updatedAt, s' = s.retold o log updatedAt

/-- The turns under way are equal in all that they look at. -/
def Turn.Alike (t t' : Turn) : Prop :=
  ∃ o log updatedAt, t' = { t with state := t.state.retold o log updatedAt }

/-- The sessions are equal but for the transcript and the time of the last turn. -/
def State.Agrees (s s' : State) : Prop :=
  ∃ log updatedAt, s' = { s with log, updatedAt }

/-- The turns under way are equal but for the transcript and the time of the last turn. -/
def Turn.Agrees (t t' : Turn) : Prop :=
  ∃ log updatedAt, t' = { t with state.log := log, state.updatedAt := updatedAt }

namespace State.Agrees

variable {s s' s'' : State}

/-- Every session agrees with itself. -/
theorem refl (s : State) : s.Agrees s := ⟨s.log, s.updatedAt, rfl⟩

/-- Agreement has no direction. -/
theorem symm (h : s.Agrees s') : s'.Agrees s := by
  obtain ⟨log, updatedAt, rfl⟩ := h
  exact ⟨s.log, s.updatedAt, rfl⟩

/-- Sessions that agree are equal in all that a turn looks at. -/
theorem alike (h : s.Agrees s') : s.Alike s' := by
  obtain ⟨log, updatedAt, rfl⟩ := h
  exact ⟨s.origin, log, updatedAt, rfl⟩

/-- Sessions that agree were begun with the same. -/
theorem origin_eq (h : s.Agrees s') : s'.origin = s.origin := by
  obtain ⟨log, updatedAt, rfl⟩ := h
  rfl

/-- Agreement passes on from session to session. -/
theorem trans (h : s.Agrees s') (h' : s'.Agrees s'') : s.Agrees s'' := by
  obtain ⟨log, updatedAt, rfl⟩ := h
  obtain ⟨log', updatedAt', rfl⟩ := h'
  exact ⟨log', updatedAt', rfl⟩

end State.Agrees

namespace Turn.Agrees

variable {t t' : Turn}

/-- Turns that agree have the same reply. -/
theorem output_eq (h : t.Agrees t') : t'.output = t.output := by
  obtain ⟨log, updatedAt, rfl⟩ := h
  rfl

/-- Turns that agree leave sessions that agree. -/
theorem state (h : t.Agrees t') : t.state.Agrees t'.state := by
  obtain ⟨log, updatedAt, rfl⟩ := h
  exact ⟨log, updatedAt, rfl⟩

/-- Turns that agree have drawn as many tokens. -/
theorem drawn_eq (h : t.Agrees t') : t'.drawn = t.drawn := by
  obtain ⟨log, updatedAt, rfl⟩ := h
  rfl

end Turn.Agrees

/-- The visits end alike. -/
inductive Visit.Alike : Visit → Visit → Prop
  | rest {t t' : Turn} (h : t.Alike t') : Alike (.rest t) (.rest t')
  | leave {t t' : Turn} (h : t.Alike t') (target : Container) :
    Alike (.leave t target) (.leave t' target)

/-- The same comes after both nodes. -/
inductive Step.Alike : Step → Step → Prop
  | next {t t' : Turn} (h : t.Alike t') : Alike (.next t) (.next t')
  | done {v v' : Visit} (h : v.Alike v') : Alike (.done v) (.done v')

/-! ### Two steps side by side -/

/-- Two steps of a turn come to related results, or fail alike with as many tokens drawn. -/
inductive Both {α : Type} (rel : α → α → Prop) : Except Abort α → Except Abort α → Prop
  | ok {a a' : α} (h : rel a a') : Both rel (.ok a) (.ok a')
  | error (a : Abort) : Both rel (.error a) (.error a)

namespace Both

variable {α β : Type} {rel : α → α → Prop} {rel' : β → β → Prop}

/-- Steps that are followed by related steps come to related results. -/
theorem bind {step step' : Except Abort α} {next next' : α → Except Abort β}
    (h : Both rel step step') (hnext : ∀ a a', rel a a' → Both rel' (next a) (next' a')) :
    Both rel' (step >>= next) (step' >>= next') := by
  cases h with
  | ok h => exact hnext _ _ h
  | error a => exact .error a

/-- Related results stay related if they are put into related forms. -/
theorem map {step step' : Except Abort α} {f f' : α → β} (h : Both rel step step')
    (hf : ∀ a a', rel a a' → rel' (f a) (f' a')) : Both rel' (f <$> step) (f' <$> step') := by
  cases h with
  | ok h => exact .ok (hf _ _ h)
  | error a => exact .error a

/-- Both steps begin with the same look-up. -/
theorem look (first : Except Abort α) {next next' : α → Except Abort β}
    (hnext : ∀ a, Both rel' (next a) (next' a)) :
    Both rel' (first >>= next) (first >>= next') := by
  cases first with
  | ok a => exact hnext a
  | error a => exact .error a

end Both

namespace Turn

variable {g : Graph} {env : Environment} {t t' : Turn}

/-! ### What turns do to themselves -/

namespace Alike

/-- Turns that are alike have the same reply. -/
theorem output_eq (h : t.Alike t') : t'.output = t.output := by
  obtain ⟨o, log, updatedAt, rfl⟩ := h
  rfl

/-- A message is said alike, at whatever place of the transcripts it comes to stand. -/
theorem say (h : t.Alike t') (m : Message) : (t.say env m).Alike (t'.say env m) := by
  obtain ⟨o, log, updatedAt, rfl⟩ := h
  exact ⟨_, _, _, rfl⟩

/-- A text is filled in alike, since the variables are the same. -/
theorem fill_eq (h : t.Alike t') (text : String) : t'.fill text = t.fill text := by
  obtain ⟨o, log, updatedAt, rfl⟩ := h
  rfl

/-- A text is said alike. -/
theorem sayText (h : t.Alike t') (text : String) :
    (t.sayText env text).Alike (t'.sayText env text) := by
  unfold Turn.sayText
  rw [h.fill_eq]
  exact h.say _

/-- A text that may be missing is said alike. -/
theorem sayOptional (h : t.Alike t') (text : Option String) :
    (t.sayOptional env text).Alike (t'.sayOptional env text) := by
  cases text with
  | none => exact h
  | some text => exact h.sayText text

/-- Turns that are alike ask alike. -/
theorem ask (h : t.Alike t') (i : Input) : (t.ask env i).Alike (t'.ask env i) :=
  h.sayOptional i.prompt

/-- Media are shown alike. -/
theorem showMedia (h : t.Alike t') (kind : MediaKind) (url alt : String) :
    (t.showMedia env kind url alt).Alike (t'.showMedia env kind url alt) := by
  unfold Turn.showMedia
  rw [h.fill_eq, h.fill_eq]
  exact h.say _

/-- Buttons are offered alike. -/
theorem offer (h : t.Alike t') (buttons : List Button) :
    (t.offer buttons).Alike (t'.offer buttons) := by
  obtain ⟨o, log, updatedAt, rfl⟩ := h
  exact ⟨_, _, _, rfl⟩

/-- A variable is set alike. -/
theorem set (h : t.Alike t') (name value : String) :
    (t.set name value).Alike (t'.set name value) := by
  obtain ⟨o, log, updatedAt, rfl⟩ := h
  exact ⟨_, _, _, rfl⟩

/-- A variable that may have no name is set alike. -/
theorem setOptional (h : t.Alike t') (name : Option String) (value : String) :
    (t.setOptional name value).Alike (t'.setOptional name value) := by
  cases name with
  | none => exact h
  | some name => exact h.set name value

/-- A button that is chosen is kept alike. -/
theorem keepChoice (h : t.Alike t') (choice : Option Button) :
    (t.keepChoice choice).Alike (t'.keepChoice choice) := by
  cases choice with
  | none => exact h
  | some b =>
    show (t.setOptional b.saveVariable (t.fill b.label)).Alike
      (t'.setOptional b.saveVariable (t'.fill b.label))
    rw [h.fill_eq]
    exact h.setOptional b.saveVariable _

/-- The variables of a script are set alike. -/
theorem apply (h : t.Alike t') (outcome : Script.Outcome) :
    (t.apply outcome).Alike (t'.apply outcome) := by
  unfold Turn.apply
  -- The variables are set one after the other, so the turns before each of them are alike.
  induction outcome.mutations generalizing t t' with
  | nil => exact h
  | cons m rest ih => exact ih (h.set m.1 m.2)

/-- Tokens are drawn alike. -/
theorem draw (h : t.Alike t') (source : ValueSource) :
    (t.draw source).Alike (t'.draw source) := by
  obtain ⟨o, log, updatedAt, rfl⟩ := h
  cases source <;> exact ⟨_, _, _, rfl⟩

/-- A script is counted alike. -/
theorem ran (h : t.Alike t') : t.ran.Alike t'.ran := by
  obtain ⟨o, log, updatedAt, rfl⟩ := h
  exact ⟨_, _, _, rfl⟩

/-- A result is put on record alike. -/
theorem record (h : t.Alike t') (a : Assignment) (value : String) :
    (t.record a value).Alike (t'.record a value) := by
  obtain ⟨o, log, updatedAt, rfl⟩ := h
  unfold Turn.record
  split <;> exact ⟨_, _, _, rfl⟩

/-- The cursor moves on alike. -/
theorem advance (h : t.Alike t') : t.advance.Alike t'.advance := by
  obtain ⟨o, log, updatedAt, rfl⟩ := h
  exact ⟨_, _, _, rfl⟩

/-- A container is entered alike. -/
theorem enter (h : t.Alike t') (c : Container) : (t.enter c).Alike (t'.enter c) := by
  obtain ⟨o, log, updatedAt, rfl⟩ := h
  exact ⟨_, _, _, rfl⟩

/-- Turns that are alike go on to wait for the same. -/
theorem await (h : t.Alike t') (w : Awaited) : (t.await w).Alike (t'.await w) := by
  obtain ⟨o, log, updatedAt, rfl⟩ := h
  exact ⟨_, _, _, rfl⟩

/-- What is waited for is forgotten alike. -/
theorem answered (h : t.Alike t') : t.answered.Alike t'.answered := by
  obtain ⟨o, log, updatedAt, rfl⟩ := h
  exact ⟨_, _, _, rfl⟩

/-- Turns that are alike close alike. -/
theorem close (h : t.Alike t') : t.close.Alike t'.close := by
  obtain ⟨o, log, updatedAt, rfl⟩ := h
  exact ⟨_, _, _, rfl⟩

/-- A redirect is asked for alike. -/
theorem redirect (h : t.Alike t') (url : String) :
    (t.redirect env url).Alike (t'.redirect env url) := by
  obtain ⟨o, log, updatedAt, rfl⟩ := h
  exact ⟨_, _, _, rfl⟩

/-- Turns that are alike go on after a redirect alike. -/
theorem resume (h : t.Alike t') : t.resume.Alike t'.resume := by
  obtain ⟨o, log, updatedAt, rfl⟩ := h
  exact ⟨_, _, _, rfl⟩

/-- What the turns are stamped with at the end is not looked at. -/
theorem finish (h : t.Alike t') : (t.finish env).Alike (t'.finish env) := by
  obtain ⟨o, log, updatedAt, rfl⟩ := h
  exact ⟨_, _, _, rfl⟩

/-- What the user sends is written down, which agreement does not look at. -/
theorem receive (h : t.Alike t') (inbound : Option Inbound) :
    (t.receive env inbound).Alike (t'.receive env inbound) := by
  obtain ⟨o, log, updatedAt, rfl⟩ := h
  cases inbound <;> exact ⟨_, _, _, rfl⟩

end Alike

/-! ### Nodes -/

/-- Turns that are alike leave a node by the same exit, to the same container. -/
theorem both_followExit (h : t.Alike t') (handle : Handle) :
    Both Step.Alike (t.followExit g handle) (t'.followExit g handle) := by
  -- The look-ups are the same for both turns once the second one is a retold copy of the first one.
  have hadvance := h.advance
  obtain ⟨o, log, updatedAt, rfl⟩ := h
  refine Both.look (t.handleTarget g handle) fun target => ?_
  cases target with
  | some target => exact .ok (.done (.leave ⟨o, log, updatedAt, rfl⟩ target))
  | none =>
    refine Both.look (t.advance.node? g) fun node => ?_
    cases node with
    | some node => exact .ok (.next hadvance)
    | none => exact .ok (.done (.rest hadvance.close))

/-- Turns that are alike go on behind a script alike, or stop for the same redirect. -/
theorem leaveScript_alike (h : t.Alike t') (url : Option String) :
    (t.leaveScript env url).Alike (t'.leaveScript env url) := by
  cases url with
  | none => exact .next h.advance
  | some url => exact .done (.rest (h.redirect url))

/-- A script is run against the same variables, so it has the same outcome. -/
theorem runScript_eq (h : t.Alike t') (nodeId code : String) (mode : Script.Mode) :
    t'.runScript env nodeId code mode = t.runScript env nodeId code mode := by
  obtain ⟨o, log, updatedAt, rfl⟩ := h
  rfl

/-- An assignment assigns the same value in both turns. -/
theorem both_assign (h : t.Alike t') (nodeId : String) (a : Assignment) :
    Both Step.Alike (t.assign env nodeId a) (t'.assign env nodeId a) := by
  unfold assign
  split
  · unfold assignByScript
    rw [runScript_eq h]
    refine Both.look _ fun outcome => ?_
    -- A script that fails sets nothing; the node is passed over all the same.
    cases outcome with
    | none => exact .ok (.next h.ran.advance)
    | some outcome => exact .ok (leaveScript_alike ((h.ran.apply outcome).record a _) _)
  · have hvalue : t'.assigned env a = t.assigned env a := by
      obtain ⟨o, log, updatedAt, rfl⟩ := h
      rfl
    rw [hvalue]
    exact .ok (.next ((h.draw a.source).record a _).advance)

/-- A script node does the same in both turns. -/
theorem both_script (h : t.Alike t') (nodeId : String) (s : ScriptNode) :
    Both Step.Alike (t.script env nodeId s) (t'.script env nodeId s) := by
  unfold script
  dsimp only
  rw [runScript_eq h]
  refine Both.look _ fun outcome => ?_
  cases outcome with
  | none => exact .ok (.next h.ran.advance)
  | some outcome => exact .ok (leaveScript_alike (h.ran.apply outcome) _)

/-- Every node does the same in both turns. -/
theorem both_execute (h : t.Alike t') (node : Node) :
    Both Step.Alike (t.execute g env node) (t'.execute g env node) := by
  unfold execute
  cases node.kind with
  | textBubble content => exact .ok (.next (h.sayText content).advance)
  | numberBubble content => exact .ok (.next (h.sayText content).advance)
  | mediaBubble kind url alt => exact .ok (.next (h.showMedia kind url alt).advance)
  | input kind i => exact .ok (.done (.rest ((h.ask i).await (.input kind))))
  | buttons options => exact .ok (.done (.rest ((h.offer options).await .buttons)))
  | condition groups =>
    -- The branch is chosen by the variables alone.
    have hbranch : t'.branch env node.id groups = t.branch env node.id groups := by
      obtain ⟨o, log, updatedAt, rfl⟩ := h
      rfl
    dsimp only
    rw [hbranch]
    exact both_followExit h _
  | assignment a => exact both_assign h node.id a
  | script s => exact both_script h node.id s

/-! ### Containers and walks -/

/-- The nodes of a container do the same in both turns, up to the one where they stop. -/
theorem both_visitNodes (nodes : List Node) (h : t.Alike t') :
    Both Visit.Alike (visitNodes g env nodes t) (visitNodes g env nodes t') := by
  induction nodes generalizing t t' with
  | nil =>
    have hclose := h.close
    obtain ⟨o, log, updatedAt, rfl⟩ := h
    refine Both.look (t.lift (g.fallThroughTarget t.state.containerId)) fun target => ?_
    cases target with
    | some target => exact .ok (.leave ⟨o, log, updatedAt, rfl⟩ target)
    | none => exact .ok (.rest hclose)
  | cons node rest ih =>
    refine (both_execute h node).bind fun step step' hstep => ?_
    cases hstep with
    | next h => exact ih h
    | done h => exact .ok h

/-- Turns that are alike visit their container alike. -/
theorem both_visit (h : t.Alike t') : Both Visit.Alike (t.visit g env) (t'.visit g env) := by
  have hnodes := fun nodes => @both_visitNodes g env _ _ nodes h
  obtain ⟨o, log, updatedAt, rfl⟩ := h
  exact Both.look (t.lift (g.container t.state.containerId)) fun c =>
    hnodes (c.nodes.drop t.state.nodeIndex)

/-- The containers that follow are visited alike, as long as hops are left. -/
theorem both_followVisit {v v' : Visit} (hops : Nat) (h : v.Alike v') :
    Both Turn.Alike (v.follow g env hops) (v'.follow g env hops) := by
  induction hops generalizing v v' with
  | zero =>
    cases h with
    | rest h => exact .ok h
    | leave h target =>
      obtain ⟨o, log, updatedAt, rfl⟩ := h
      exact .error _
  | succ hops ih =>
    cases h with
    | rest h => exact .ok h
    | leave h target => exact (both_visit (h.enter target)).bind fun _ _ hv => ih hv

/-- Turns that are alike walk alike. -/
theorem both_walk (h : t.Alike t') : Both Turn.Alike (t.walk g env) (t'.walk g env) :=
  (both_visit h).bind fun _ _ hv => both_followVisit env.maxHops hv

/-- Turns that are alike go on alike behind a node. -/
theorem both_followStep {step step' : Step} (h : step.Alike step') :
    Both Turn.Alike (step.follow g env) (step'.follow g env) := by
  cases h with
  | next h => exact both_walk h
  | done h => exact both_followVisit env.maxHops h

/-! ### Answers and turns -/

/-- An input takes an answer in alike: it is kept in both turns, or refused in both. -/
theorem fillIn_alike (h : t.Alike t') (kind : InputKind) (i : Input) (payload : Inbound) :
    (t.fillIn env kind i payload).Alike (t'.fillIn env kind i payload) := by
  simp only [fillIn]
  split
  · exact .next (h.setOptional i.saveVariable _).answered.advance
  · exact .done (.rest ((h.sayOptional i.retryMessage).ask i))

/-- The exit of a choice does not depend on what is not looked at. -/
theorem choiceHandle_eq (h : t.Alike t') (nodeId : String) (choice : Option Button) :
    t'.choiceHandle g nodeId choice = t.choiceHandle g nodeId choice := by
  obtain ⟨o, log, updatedAt, rfl⟩ := h
  cases choice <;> rfl

/-- Turns that are alike take in a choice alike. -/
theorem both_choose (h : t.Alike t') (nodeId : String) (options : List Button)
    (payload : Inbound) :
    Both Step.Alike (t.choose g nodeId options payload) (t'.choose g nodeId options payload) := by
  have hkeep := h.answered.keepChoice (chosen? options payload)
  unfold choose
  dsimp only
  rw [choiceHandle_eq hkeep]
  exact Both.look _ fun handle => both_followExit hkeep handle

/-- Turns that are alike stand at the same node. -/
theorem node?_eq (h : t.Alike t') : t'.node? g = t.node? g := by
  obtain ⟨o, log, updatedAt, rfl⟩ := h
  rfl

/-- Where nothing can be answered, both turns fail alike. -/
theorem both_mismatch {α : Type} {rel : α → α → Prop} (h : t.Alike t') :
    Both rel t.mismatch t'.mismatch := by
  obtain ⟨o, log, updatedAt, rfl⟩ := h
  exact .error _

/-- Where an answer is awaited, turns that are alike do alike what they do alike at buttons and at
an input. -/
theorem both_atQuestion {α : Type} {rel : α → α → Prop} (h : t.Alike t')
    {atButtons atButtons' : String → List Button → Except Abort α}
    {atInput atInput' : InputKind → Input → Except Abort α}
    (hbuttons : ∀ id buttons, Both rel (atButtons id buttons) (atButtons' id buttons))
    (hinput : ∀ kind i, Both rel (atInput kind i) (atInput' kind i)) :
    Both rel (t.atQuestion g atButtons atInput) (t'.atQuestion g atButtons' atInput') := by
  unfold atQuestion
  rw [node?_eq h]
  refine Both.look _ fun node => ?_
  match node with
  | some ⟨id, .buttons buttons⟩ => exact hbuttons id buttons
  | some ⟨_, .input kind i⟩ => exact hinput kind i
  | none => exact both_mismatch h
  | some ⟨_, .textBubble _⟩ | some ⟨_, .numberBubble _⟩ | some ⟨_, .mediaBubble _ _ _⟩
  | some ⟨_, .condition _⟩ | some ⟨_, .assignment _⟩ | some ⟨_, .script _⟩ =>
    exact both_mismatch h

/-- Turns that are alike take in an answer alike. -/
theorem both_answer (h : t.Alike t') (payload : Inbound) :
    Both Step.Alike (t.answer g env payload) (t'.answer g env payload) :=
  both_atQuestion h (fun id options => both_choose h id options payload)
    fun kind i => .ok (fillIn_alike h kind i payload)

/-- Turns that are alike ask alike again. -/
theorem both_askAgain (h : t.Alike t') :
    Both Turn.Alike (t.askAgain g env) (t'.askAgain g env) :=
  both_atQuestion h (fun _ options => .ok (h.offer options)) fun _ i => .ok (h.ask i)

/-- Turns that are alike react alike, whatever the user sends. -/
theorem both_react (h : t.Alike t') (inbound : Option Inbound) :
    Both Turn.Alike (t.react g env inbound) (t'.react g env inbound) := by
  have hstatus : t'.state.status = t.state.status := by
    obtain ⟨o, log, updatedAt, rfl⟩ := h
    rfl
  have hwaiting : t'.state.waitingFor = t.state.waitingFor := by
    obtain ⟨o, log, updatedAt, rfl⟩ := h
    rfl
  unfold react
  rw [hstatus, hwaiting]
  -- The turn goes on after a redirect, waits for nothing, asks again, or takes an answer in.
  split
  · exact both_walk h.resume
  · exact both_walk h
  · exact both_askAgain h
  · exact (both_answer h _).bind fun _ _ hstep => both_followStep hstep

/-- A turn makes of sessions that are alike turns that are alike, or fails alike. -/
theorem both_alike (g : Graph) (env : Environment) {s s' : State} (h : s.Alike s') (drawn : Nat)
    (inbound : Option Inbound) :
    Both Turn.Alike (run g env drawn s inbound) (run g env drawn s' inbound) := by
  have hturn : Turn.Alike { state := s, drawn } { state := s', drawn } := by
    obtain ⟨o, log, updatedAt, rfl⟩ := h
    exact ⟨o, log, updatedAt, rfl⟩
  have hstatus : s'.status = s.status := by
    obtain ⟨o, log, updatedAt, rfl⟩ := h
    rfl
  unfold run
  dsimp only
  rw [hstatus]
  -- A session that has ended only stays so; in all others the turns react.
  cases s.status with
  | ended => exact .ok hturn.finish
  | active => exact (both_react (hturn.receive _) _).map fun _ _ h => h.finish
  | yielded => exact (both_react (hturn.receive _) _).map fun _ _ h => h.finish

/-! ### Turns that keep agreement -/

/-- Turns that are alike agree if they were begun with the same. -/
theorem Alike.agrees (h : t.Alike t') (horigin : t'.state.origin = t.state.origin) :
    t.Agrees t' := by
  obtain ⟨o, log, updatedAt, rfl⟩ := h
  obtain rfl : o = t.state.origin := horigin
  exact ⟨log, updatedAt, rfl⟩

/-- A turn keeps what a session was begun with, so turns of sessions that were begun with the same
agree as soon as they are alike. -/
theorem both_agrees {s s' : State} {drawn : Nat} {inbound inbound' : Option Inbound}
    (horigin : s'.origin = s.origin)
    (h : Both Alike (run g env drawn s inbound) (run g env drawn s' inbound')) :
    Both Agrees (run g env drawn s inbound) (run g env drawn s' inbound') := by
  generalize hrun : run g env drawn s inbound = first,
    hrun' : run g env drawn s' inbound' = second at h ⊢
  -- A failure is the same one; where both succeed, the origins show through the turns.
  cases h with
  | ok h => exact .ok (h.agrees (by rw [run_origin hrun, run_origin hrun', horigin]))
  | error a => exact .error a

/-- A turn makes of sessions that agree turns that agree, or fails alike. -/
theorem both_run (g : Graph) (env : Environment) {s s' : State} (h : s.Agrees s') (drawn : Nat)
    (inbound : Option Inbound) :
    Both Turn.Agrees (run g env drawn s inbound) (run g env drawn s' inbound) :=
  both_agrees h.origin_eq (both_alike g env h.alike drawn inbound)

end Turn

end Dialogue.Session
