import Dialogue.Proofs.Session.Path
import Dialogue.Proofs.Session.Suspension

namespace Dialogue.Session

open Dialogue.Flow

/-!
# The transcript is exact

A turn adds to the transcript what the user sent, what was said, and where the user was sent, in
this order and each of them once. Messages are said in one place and redirects are the end of a
path, so the transcript and the reply never tell different stories.

* `Inbound.lines`, `Output.lines`: the lines for what comes in, and for what is given.
* `Turn.Told`: the transcript holds what has been said so far, and nobody has been sent away.
* `Turn.tells_pass`, `Turn.tells_opening`: every pass keeps it so, until the session rests.
* `Turns`: turns of a session one after the other, with what each of them gives.
* `transcript_is_exact`: the lines of a turn, and of any number of turns.
-/

/-! ### Lines -/

/-- The line for what the user sends, if the user sends anything. -/
def Inbound.lines (now : Time.Instant) : Option Inbound → List LogEntry
  | some payload =>
    if payload.text.isSome ∨ payload.buttonId.isSome then [.inbound payload now] else []
  | none => []

/-- The lines for what a turn gives the user. -/
def Output.lines (now : Time.Instant) (o : Output) : List LogEntry :=
  o.messages.map (.outbound · now) ++ o.redirectUrl.toList.map (.redirect · now)

/-- The message of a line, if something is said on it. -/
def LogEntry.said? : LogEntry → Option Message
  | .outbound m _ => some m
  | .inbound _ _ | .redirect _ _ => none

/-- What the visitor sends is logged but is no message of the flow. -/
theorem said_inboundLines (now : Time.Instant) (inbound : Option Inbound) :
    (Inbound.lines now inbound).filterMap LogEntry.said? = [] := by
  cases inbound with
  | none => rfl
  | some payload =>
    rw [Inbound.lines]
    split <;> rfl

/-- What is said on the lines of a turn is what the turn says. -/
theorem said_outputLines (now : Time.Instant) (o : Output) :
    (o.lines now).filterMap LogEntry.said? = o.messages := by
  have hmessages : (o.messages.map (LogEntry.outbound · now)).filterMap LogEntry.said? =
      o.messages := by
    rw [List.filterMap_map]
    exact List.filterMap_some
  unfold Output.lines
  rw [List.filterMap_append, hmessages]
  cases o.redirectUrl with
  | none => exact List.append_nil _
  | some url => exact List.append_nil _

/-! ### What a turn has told -/

/-- What a turn has written down and said. -/
structure Account where
  log : List LogEntry
  messages : List Message := []
  redirectUrl : Option String := none

namespace Turn

/-- What a turn has written down and said. -/
def account (t : Turn) : Account where
  log := t.state.log
  messages := t.messages
  redirectUrl := t.redirectUrl

variable {g : Graph} {env : Environment} {before : List LogEntry} {t t' : Turn}

@[simp] theorem account_set (name value : String) : (t.set name value).account = t.account := rfl

/-- Setting a variable that may be missing keeps the account. -/
@[simp] theorem account_setOptional (name : Option String) (value : String) :
    (t.setOptional name value).account = t.account := by
  cases name <;> rfl

/-- Keeping a choice keeps the account. -/
@[simp] theorem account_keepChoice (choice : Option Button) :
    (t.keepChoice choice).account = t.account := by
  cases choice with
  | none => rfl
  | some b => exact account_setOptional b.saveVariable (t.fill b.label)

/-- Taking over the writes of a script keeps the account. -/
@[simp] theorem account_apply (outcome : Script.Outcome) :
    (t.apply outcome).account = t.account := by
  unfold apply
  induction outcome.mutations generalizing t with
  | nil => rfl
  | cons m rest ih => rw [List.foldl_cons, ih, account_set]

@[simp] theorem account_ran : t.ran.account = t.account := rfl

/-- Drawing the value of an assignment keeps the account. -/
@[simp] theorem account_draw (source : ValueSource) : (t.draw source).account = t.account := by
  cases source <;> rfl

/-- Recording a result keeps the account. -/
@[simp] theorem account_record (a : Assignment) (value : String) :
    (t.record a value).account = t.account := by
  unfold record
  split <;> rfl

@[simp] theorem account_advance : t.advance.account = t.account := rfl

@[simp] theorem account_answered : t.answered.account = t.account := rfl

/-- What has been said so far is what has been added to the transcript, and nobody has been sent
away. -/
def Told (env : Environment) (before : List LogEntry) (t : Turn) : Prop :=
  ∃ messages, t.account = { log := before ++ messages.map (.outbound · env.now), messages }

/-- What is given is what has been added to the transcript. -/
def Recorded (env : Environment) (before : List LogEntry) (t : Turn) : Prop :=
  t.state.log = before ++ t.output.lines env.now

/-- An account that is unchanged still tells the same. -/
theorem Told.of_account (h : t.Told env before) (ht : t'.account = t.account) :
    t'.Told env before := by
  obtain ⟨messages, hmessages⟩ := h
  exact ⟨messages, ht.trans hmessages⟩

/-- A message is said and written down at once. -/
theorem Told.say (h : t.Told env before) (m : Message) : (t.say env m).Told env before := by
  obtain ⟨messages, hmessages⟩ := h
  have hlog : t.state.log = before ++ messages.map (.outbound · env.now) :=
    congrArg Account.log hmessages
  have hsaid : t.messages = messages := congrArg Account.messages hmessages
  have hredirect : t.redirectUrl = none := congrArg Account.redirectUrl hmessages
  refine ⟨messages ++ [m], ?_⟩
  unfold account Turn.say
  rw [hlog, hsaid, hredirect, List.map_append, List.append_assoc]
  rfl

/-- A prompt that may be missing is told like one that is there. -/
theorem Told.sayOptional (h : t.Told env before) (text : Option String) :
    (t.sayOptional env text).Told env before := by
  cases text with
  | none => exact h
  | some text => exact h.say _

/-- A turn that has sent nobody away has given what it has said. -/
theorem Told.recorded (h : t.Told env before) : t.Recorded env before := by
  obtain ⟨messages, hmessages⟩ := h
  have hlog : t.state.log = before ++ messages.map (.outbound · env.now) :=
    congrArg Account.log hmessages
  have hsaid : t.messages = messages := congrArg Account.messages hmessages
  have hredirect : t.redirectUrl = none := congrArg Account.redirectUrl hmessages
  unfold Recorded Output.lines output
  rw [hlog, hsaid, hredirect, Option.toList_none, List.map_nil, List.append_nil]

/-- Where the user is sent comes behind all that has been said. -/
theorem Told.redirect (h : t.Told env before) (url : String) :
    (t.redirect env url).Recorded env before := by
  have hlog : t.state.log = before ++ t.output.lines env.now := h.recorded
  -- Nobody has been sent away yet, so the lines so far are the messages alone.
  obtain ⟨messages, hmessages⟩ := h
  have hredirect : t.redirectUrl = none := congrArg Account.redirectUrl hmessages
  have hlines : t.output.lines env.now = t.messages.map (.outbound · env.now) := by
    unfold Output.lines output
    rw [hredirect, Option.toList_none, List.map_nil, List.append_nil]
  show t.state.log ++ [.redirect url env.now] =
    before ++ (t.messages.map (.outbound · env.now) ++ [.redirect url env.now])
  rw [hlog, hlines, List.append_assoc]

/-! ### Passes tell -/

/-- A step of a turn that has told what it gives, and still does where it goes on or rests. -/
abbrev Tells (env : Environment) (before : List LogEntry) : Except Abort Step → Prop :=
  Ends (fun _ => True) (Step.Meets (Told env before) (Recorded env before))

/-- Following an exit says nothing. -/
theorem tells_followExit (handle : Handle) (h : t.Told env before) :
    Tells env before (t.followExit g handle) := by
  refine Ends.look fun target => ?_
  cases target with
  | some target => exact Step.Meets.leave (h.of_account rfl)
  | none =>
    refine Ends.look fun node => ?_
    cases node with
    | some node => exact Step.Meets.next (h.of_account rfl)
    | none => exact Step.Meets.rest (Told.recorded (h.of_account rfl))

/-- A script's redirect is recorded where the turn yields, and nowhere else. -/
theorem leaveScript_meets (url : Option String) (h : t.Told env before) :
    (t.leaveScript env url).Meets (Told env before) (Recorded env before) := by
  cases url with
  | none => exact .next (h.of_account rfl)
  | some url => exact .rest (h.redirect url)

/-- An assignment says nothing besides the redirect of its script. -/
theorem tells_assign (nodeId : String) (a : Assignment) (h : t.Told env before) :
    Tells env before (t.assign env nodeId a) := by
  unfold assign
  split
  · refine Ends.look fun outcome => ?_
    cases outcome with
    | none => exact Step.Meets.next (h.of_account rfl)
    | some outcome => exact leaveScript_meets _ (h.of_account (by simp))
  · exact Step.Meets.next (h.of_account (by simp))

/-- So does a script node. -/
theorem tells_script (nodeId : String) (s : ScriptNode) (h : t.Told env before) :
    Tells env before (t.script env nodeId s) := by
  refine Ends.look fun outcome => ?_
  cases outcome with
  | none => exact Step.Meets.next (h.of_account rfl)
  | some outcome => exact leaveScript_meets _ (h.of_account (by simp))

/-- Executing a node: only bubbles and prompts say anything. -/
theorem tells_execute (node : Node) (h : t.Told env before) :
    Tells env before (t.execute g env node) := by
  unfold execute
  -- One case per kind of node.
  cases node.kind with
  | textBubble content => exact Step.Meets.next ((h.say _).of_account rfl)
  | numberBubble content => exact Step.Meets.next ((h.say _).of_account rfl)
  | mediaBubble kind url alt => exact Step.Meets.next ((h.say _).of_account rfl)
  | input kind i =>
    exact Step.Meets.rest (Told.recorded ((h.sayOptional i.prompt).of_account rfl))
  | buttons options => exact Step.Meets.rest (Told.recorded (h.of_account rfl))
  | condition groups => exact tells_followExit _ h
  | assignment a => exact tells_assign node.id a h
  | script s => exact tells_script node.id s h

/-- A pass tells what it gives. -/
theorem tells_pass (h : t.Told env before) : Tells env before (t.pass g env) := by
  refine Ends.look fun node => ?_
  cases node with
  | some node => exact tells_execute node h
  | none =>
    refine Ends.look fun target => ?_
    cases target with
    | some target => exact Step.Meets.leave (h.of_account rfl)
    | none => exact Step.Meets.rest (Told.recorded (h.of_account rfl))

/-- Answering a question: a choice says nothing, an input that is rejected asks again. -/
theorem tells_answer (payload : Inbound) (h : t.Told env before) :
    Tells env before (t.answer g env payload) := by
  refine .atQuestion (fun id options _ => ?_) fun _ kind i _ => ?_
  · have hkeep : (t.answered.keepChoice (chosen? options payload)).Told env before :=
      h.of_account (by simp)
    exact Ends.look fun handle => tells_followExit handle hkeep
  · show (t.fillIn env kind i payload).Meets _ _
    simp only [fillIn]
    -- The reply is accepted, or the retry message and the prompt are said once more.
    split
    · exact .next (h.of_account (by simp))
    · exact .rest ((h.sayOptional i.retryMessage).sayOptional i.prompt).recorded

/-- What a turn begins with tells what it gives. -/
theorem tells_opening (inbound : Option Inbound) (h : t.Told env before) :
    Tells env before (t.opening g env inbound) := by
  unfold opening
  -- The turn goes on after a redirect, waits for nothing, asks again, or takes an answer in.
  split
  · exact Step.Meets.next (h.of_account rfl)
  · exact Step.Meets.next h
  · have hask : Ends (fun _ => True) (Recorded env before) (t.askAgain g env) :=
      .atQuestion (fun _ _ _ => Told.recorded (h.of_account rfl))
        fun _ _ i _ => (h.sayOptional i.prompt).recorded
    exact hask.map fun t ht => .rest ht
  · exact tells_answer _ h

/-! ### Turns -/

variable {drawn : Nat} {s : State} {inbound : Option Inbound}

/-- What the user sent is written down before anything is said. -/
theorem told_received (drawn : Nat) (s : State) (inbound : Option Inbound) :
    (received env drawn s inbound).Told env (s.log ++ Inbound.lines env.now inbound) := by
  refine ⟨[], ?_⟩
  cases inbound with
  | none => simp [received, receive, account, Inbound.lines]
  | some payload =>
    obtain ⟨text, buttonId⟩ := payload
    cases text <;> cases buttonId <;>
      simp [received, receive, account, Inbound.lines, Inbound.isEmpty, Option.filter]

/-- A turn of a session that has not ended adds to the transcript what came in and what it gives. -/
theorem run_lines (hs : s.status ≠ .ended) (h : run g env drawn s inbound = .ok t) :
    t.state.log = s.log ++ Inbound.lines env.now inbound ++ t.output.lines env.now := by
  obtain ⟨opening, passes, last, hopening, hpath, -, rfl⟩ := (run_eq_ok_iff hs).1 h
  have htold : (received env drawn s inbound).Told env (s.log ++ Inbound.lines env.now inbound) :=
    told_received drawn s inbound
  -- What is told when the turn opens is carried from pass to pass, to where the turn rests.
  have hmeets := (tells_opening (inbound.filter (!·.isEmpty)) htold).ok hopening
  exact (hpath.keeps (fun t step ht hpass => (tells_pass ht).ok hpass) hmeets).1

/-- A turn of a session that has ended adds and gives nothing. -/
theorem run_of_ended (hs : s.status = .ended) (h : run g env drawn s inbound = .ok t) :
    t.state.log = s.log ∧ t.output.messages = [] ∧ t.output.buttons = [] ∧
      t.output.redirectUrl = none := by
  unfold run at h
  rw [hs] at h
  cases h
  exact ⟨rfl, rfl, rfl, rfl⟩

/-- What is said on the lines that a turn adds is what it says. -/
theorem said_run (h : run g env drawn s inbound = .ok t) :
    ∃ added, t.state.log = s.log ++ added ∧
      added.filterMap LogEntry.said? = t.output.messages := by
  by_cases hs : s.status = .ended
  · obtain ⟨hlog, hmessages, -⟩ := run_of_ended hs h
    exact ⟨[], by rw [hlog, List.append_nil], hmessages.symm⟩
  · refine ⟨Inbound.lines env.now inbound ++ t.output.lines env.now, ?_, ?_⟩
    · rw [run_lines hs h, List.append_assoc]
    · rw [List.filterMap_append, said_inboundLines, said_outputLines, List.nil_append]

end Turn

/-- Successful turns of a session, one after the other, with what each of them gives the user. -/
inductive Turns (g : Graph) (first : State) : List Output → State → Prop
  | none : Turns g first [] first
  | turn {outputs : List Output} {s : State} {env : Environment} {drawn : Nat}
    {inbound : Option Inbound} {t : Turn} (hs : Turns g first outputs s)
    (h : Turn.run g env drawn s inbound = .ok t) : Turns g first (outputs ++ [t.output]) t.state

/-- Turns only add to the transcript, and what is said on the lines that they add is what they said,
in order. -/
theorem Turns.said {g : Graph} {first last : State} {outputs : List Output}
    (h : Turns g first outputs last) :
    ∃ added, last.log = first.log ++ added ∧
      added.filterMap LogEntry.said? = outputs.flatMap Output.messages := by
  induction h with
  | none => exact ⟨[], (List.append_nil _).symm, rfl⟩
  | turn _ hrun ih =>
    obtain ⟨added, hlog, hsaid⟩ := ih
    obtain ⟨more, hlog', hsaid'⟩ := Turn.said_run hrun
    refine ⟨added ++ more, by rw [hlog', hlog, List.append_assoc], ?_⟩
    rw [List.filterMap_append, hsaid, hsaid', List.flatMap_append, List.flatMap_singleton]

/-- The transcript is append-only and exact. A turn of a session that has ended adds and gives
nothing. Any other turn adds one line for what the user sent, if the user sent anything, then one
for each message that the reply holds, in their order, and then one for the redirect if the reply
has one, all with the time of the turn. So what is said on the lines of any number of turns is what
these turns said, and in the transcript of a new session there is nothing else. -/
theorem transcript_is_exact (g : Graph) :
    (∀ env drawn s inbound t, Turn.run g env drawn s inbound = .ok t →
      if s.status = .ended then
        t.state.log = s.log ∧ t.output.messages = [] ∧ t.output.buttons = [] ∧
          t.output.redirectUrl = none
      else
        t.state.log = s.log ++ Inbound.lines env.now inbound ++
          t.output.messages.map (.outbound · env.now) ++
          t.output.redirectUrl.toList.map (.redirect · env.now)) ∧
    (∀ first outputs last, Turns g first outputs last →
      first.log <+: last.log ∧ last.log.filterMap LogEntry.said? =
        first.log.filterMap LogEntry.said? ++ outputs.flatMap Output.messages) ∧
    ∀ sessionId flowId flowVersion now first outputs last,
      State.begin g sessionId flowId flowVersion now = .ok first → Turns g first outputs last →
        last.log.filterMap LogEntry.said? = outputs.flatMap Output.messages := by
  have hturns : ∀ first outputs last, Turns g first outputs last →
      first.log <+: last.log ∧ last.log.filterMap LogEntry.said? =
        first.log.filterMap LogEntry.said? ++ outputs.flatMap Output.messages := by
    intro first outputs last h
    obtain ⟨added, hlog, hsaid⟩ := h.said
    rw [hlog]
    exact ⟨List.prefix_append _ _, by rw [List.filterMap_append, hsaid]⟩
  -- The log of one turn is read off its lines; that of a run is the sum over its turns.
  refine ⟨fun env drawn s inbound t h => ?_, hturns, ?_⟩
  · split
    · rename_i hs
      exact Turn.run_of_ended hs h
    · rename_i hs
      rw [Turn.run_lines hs h, Output.lines, List.append_assoc _ _ (List.map _ _)]
  · intro sessionId flowId flowVersion now first outputs last hbegin h
    -- A session begins with an empty log, so the run's messages are all there are.
    obtain ⟨start, -, rfl⟩ := State.begin_eq_ok_iff.1 hbegin
    rw [(hturns _ outputs last h).2]
    rfl

/-- Accepting the invitation adds the click and the question that follows it. -/
theorem transcript_is_exact_invitation :
    Turn.run (Graph.ofDefinition Invitation.flow) Invitation.setting 0 Invitation.offering.state
        (some { buttonId := some "yes" }) = .ok Invitation.asking ∧
      Invitation.asking.state.log = Invitation.offering.state.log ++
        [.inbound { buttonId := some "yes" } Invitation.setting.now] ++
        [.outbound (.ofText "Your name?") Invitation.setting.now] ++ [] := by
  have hrun : Turn.run (Graph.ofDefinition Invitation.flow) Invitation.setting 0
      Invitation.offering.state (some { buttonId := some "yes" }) = .ok Invitation.asking := by
    decide +kernel
  exact ⟨hrun, (transcript_is_exact (Graph.ofDefinition Invitation.flow)).1 _ _ _ _ _ hrun⟩

end Dialogue.Session
