import Dialogue.Proofs.Session.Agreement
import Dialogue.Proofs.Session.Path
import Dialogue.Proofs.Session.Suspension
import Mathlib.Data.List.Forall2

namespace Dialogue.Session

open Dialogue.Flow

/-!
# Idle events

A session that waits may hear nothing, or an answer that is not accepted; a session that has ended
may still hear something. Such an event is idle: it adds to the transcript at most, so that all the
rest of the conversation goes as it would have gone without it.

* `Event`, `Conversation`, `exchanges`: a conversation as a list of events with their replies.
* `Exchange.IsIdle`: the three kinds of idle events.
* `Turn.run_unanswered`, `Turn.run_rejected`, `Turn.run_late`: what a turn makes of each of them.
* `idle_events_are_stutters`: idle events may be left out.
-/

/-! ### Conversations -/

/-- A conversation under way: the session, and how many random tokens have been drawn. -/
structure Conversation where
  state : State
  drawn : Nat := 0

/-- What happens in a conversation: the user sends something, or comes back with nothing. The time
and the settings of the turn come with it. -/
structure Event where
  env : Environment
  inbound : Option Inbound

/-- An event with its reply, and the conversation before and after it. -/
structure Exchange where
  before : Conversation
  event : Event
  reply : Except Error Output
  after : Conversation

/-- An event is answered by a turn. A turn that fails leaves the session as it is, but the tokens
that it has drawn are gone. -/
def Conversation.exchange (g : Graph) (c : Conversation) (e : Event) : Exchange :=
  match Turn.run g e.env c.drawn c.state e.inbound with
  | .ok t => ⟨c, e, .ok t.output, ⟨t.state, t.drawn⟩⟩
  | .error a => ⟨c, e, .error a.error, ⟨c.state, a.drawn⟩⟩

/-- Events one after the other. -/
def exchanges (g : Graph) : Conversation → List Event → List Exchange
  | _, [] => []
  | c, e :: rest => c.exchange g e :: exchanges g (c.exchange g e).after rest

/-- The conversation after some events. -/
def Conversation.afterAll (g : Graph) (c : Conversation) (events : List Event) : Conversation :=
  events.foldl (fun c e => (c.exchange g e).after) c

/-- The conversations are equal but for the transcript and the time of the last turn; the same
tokens come next in both. -/
structure Conversation.Agrees (c c' : Conversation) : Prop where
  state : c.state.Agrees c'.state
  drawn : c'.drawn = c.drawn

/-- Whether the user sends nothing. -/
def Event.isSilent (e : Event) : Bool := e.inbound.all (·.isEmpty)

/-- The user sends an answer that the input does not accept. Where no text is sent the answer is
blank. -/
def Event.IsRejectedBy (kind : InputKind) (i : Input) (e : Event) : Prop :=
  ∃ payload, e.inbound = some payload ∧ payload.isEmpty = false ∧
    accepts (i.validation.or kind.defaultValidation) (Text.trimmed (payload.text.getD "")) = false

/-- The event changes nothing that counts: it reaches a session that waits and brings nothing, or
an answer that the input at the cursor rejects, or it reaches a session that has ended. -/
inductive Exchange.IsIdle (g : Graph) (x : Exchange) : Prop
  | unanswered (w : Awaited) (waiting : x.before.state.waitingFor = some w)
    (silent : x.event.isSilent)
  | rejected (nodeId : String) (kind : InputKind) (i : Input)
    (waiting : x.before.state.waitingFor = some (.input kind))
    (node : g.nodeAt x.before.state.containerId x.before.state.nodeIndex =
      .ok (some ⟨nodeId, .input kind i⟩))
    (rejected : x.event.IsRejectedBy kind i)
  | late (ended : x.before.state.status = .ended)

/-! ### What is asked -/

/-- The messages for texts that may be missing. -/
def messagesOf (vars : Dictionary String) (texts : List (Option String)) : List Message :=
  (texts.filterMap id).map fun text => .ofText (Text.interpolate vars text)

/-- What a node says when it asks. -/
def asks (vars : Dictionary String) : Node.Kind → List Message
  | .input _ i => messagesOf vars [i.prompt]
  | _ => []

/-- What an input says to an answer that it rejects. -/
def objects (vars : Dictionary String) (i : Input) : List Message :=
  messagesOf vars [i.retryMessage, i.prompt]

/-- A settled session that waits is active, and its cursor is at the input that asks. -/
theorem State.Settled.of_waiting {g : Graph} {s : State} {w : Awaited} (hs : s.Settled g)
    (hw : s.waitingFor = some w) :
    s.status = .active ∧ ∃ node, g.nodeAt s.containerId s.nodeIndex = .ok (some node) ∧
      node.kind.awaits = some w := by
  -- The other ways to be settled wait for nothing.
  cases hs with
  | fresh _ waitingFor => rw [waitingFor] at hw; cases hw
  | yields _ waitingFor => rw [waitingFor] at hw; cases hw
  | closes _ waitingFor => rw [waitingFor] at hw; cases hw
  | waits status node =>
    obtain ⟨node, w', hnode, hawaits, hw'⟩ := node
    have hsame : w' = w := Option.some.inj (hw'.symm.trans hw)
    exact ⟨status, node, hnode, hsame ▸ hawaits⟩

namespace Turn

variable {g : Graph} {env : Environment} {drawn : Nat} {s : State} {inbound : Option Inbound}

/-- Says messages, one after the other. -/
def sayAll (env : Environment) (messages : List Message) (t : Turn) : Turn :=
  { t with
    messages := t.messages ++ messages
    state.log := t.state.log ++ messages.map (.outbound · env.now) }

/-- The messages for texts are what is said when the texts are said one after the other. -/
theorem sayAll_messagesOf (texts : List (Option String)) (t : Turn) :
    t.sayAll env (messagesOf t.state.vars texts) =
      texts.foldl (fun t text => t.sayOptional env text) t := by
  -- On the texts; one that is missing is said by neither side.
  induction texts generalizing t with
  | nil => simp [messagesOf, sayAll]
  | cons text rest ih =>
    rw [List.foldl_cons, ← ih]
    cases text with
    | none => rfl
    | some text => simp [messagesOf, sayAll, sayOptional, sayText, say, fill]

/-! ### Idle turns -/

/-- An empty payload is as good as none. -/
theorem filter_of_silent (h : inbound.all (·.isEmpty)) : inbound.filter (!·.isEmpty) = none := by
  cases inbound with
  | none => rfl
  | some payload => simpa [Option.filter] using h

/-- A session that waits and hears nothing asks again. -/
theorem run_unanswered (env : Environment) (drawn : Nat) {w : Awaited} (hs : s.Settled g)
    (hw : s.waitingFor = some w) (h : inbound.all (·.isEmpty)) :
    ∃ node, g.nodeAt s.containerId s.nodeIndex = .ok (some node) ∧ node.kind.awaits = some w ∧
      run g env drawn s inbound = .ok
        { state :=
            { s with
              log := s.log ++ (asks s.vars node.kind).map (.outbound · env.now)
              updatedAt := env.now }
          messages := asks s.vars node.kind
          buttons := node.kind.offers s.vars
          drawn } := by
  obtain ⟨hstatus, node, hnode, hawaits⟩ := hs.of_waiting hw
  refine ⟨node, hnode, hawaits, ?_⟩
  -- Nothing is received, so the turn only asks again.
  have hreact : run g env drawn s inbound =
      finish env <$> askAgain g env { state := s, drawn } := by
    unfold run
    dsimp only
    rw [filter_of_silent h, hstatus]
    unfold react
    rw [show (receive env none { state := s, drawn }).state = s from rfl, hstatus, hw]
    rfl
  have hfound : node? g { state := s, drawn } = .ok (some node) := by
    unfold node?
    rw [hnode]
    rfl
  rw [hreact]
  unfold askAgain atQuestion
  rw [hfound]
  obtain ⟨nodeId, kind⟩ := node
  cases kind with
  | input kind i =>
    have hask : ask env i { state := s, drawn } =
        sayAll env (messagesOf s.vars [i.prompt]) { state := s, drawn } :=
      (sayAll_messagesOf [i.prompt] _).symm
    show Except.ok (finish env (ask env i { state := s, drawn })) = _
    rw [hask]
    rfl
  | buttons options =>
    show Except.ok (finish env (offer options { state := s, drawn })) = _
    simp only [asks, List.map_nil, List.append_nil]
    rfl
  | _ => cases hawaits

/-- A session that waits and hears something takes it for an answer. -/
theorem run_answered (env : Environment) (drawn : Nat) {w : Awaited} {payload : Inbound}
    (hstatus : s.status = .active) (hw : s.waitingFor = some w)
    (hempty : payload.isEmpty = false) :
    run g env drawn s (some payload) = finish env <$>
      (answer g env payload (receive env (some payload) { state := s, drawn }) >>=
        (·.follow g env)) := by
  have hfilter : (some payload).filter (!Inbound.isEmpty ·) = some payload := by
    simp [Option.filter, hempty]
  unfold run
  dsimp only
  rw [hfilter, hstatus]
  unfold react
  rw [show (receive env (some payload) { state := s, drawn }).state.status = s.status from rfl,
    show (receive env (some payload) { state := s, drawn }).state.waitingFor = s.waitingFor
      from rfl, hstatus, hw]

/-- A session that hears an answer which is not accepted objects to it and asks again. -/
theorem run_rejected (env : Environment) (drawn : Nat) {nodeId : String} {kind : InputKind}
    {i : Input} {payload : Inbound} (hs : s.Settled g) (hw : s.waitingFor = some (.input kind))
    (hnode : g.nodeAt s.containerId s.nodeIndex = .ok (some ⟨nodeId, .input kind i⟩))
    (hempty : payload.isEmpty = false)
    (h : accepts (i.validation.or kind.defaultValidation)
      (Text.trimmed (payload.text.getD "")) = false) :
    run g env drawn s (some payload) = .ok
      { state :=
          { s with
            log := s.log ++ [.inbound payload env.now] ++
              (objects s.vars i).map (.outbound · env.now)
            updatedAt := env.now }
        messages := objects s.vars i
        drawn } := by
  obtain ⟨hstatus, -⟩ := hs.of_waiting hw
  have hfound : node? g (receive env (some payload) { state := s, drawn }) =
      .ok (some ⟨nodeId, .input kind i⟩) := by
    show lift _ (g.nodeAt s.containerId s.nodeIndex) = _
    rw [hnode]
    rfl
  have hanswer : answer g env payload (receive env (some payload) { state := s, drawn }) =
      .ok (fillIn env kind i payload (receive env (some payload) { state := s, drawn })) := by
    unfold answer atQuestion
    rw [hfound]
    rfl
  have hfill : ∀ t : Turn, t.fillIn env kind i payload =
      .done (.rest (t.sayAll env (objects t.state.vars i))) := by
    intro t
    simp only [fillIn, h, Bool.false_eq_true, if_false]
    rw [objects, sayAll_messagesOf]
    rfl
  calc run g env drawn s (some payload)
      = finish env <$> Step.follow g env (.done (.rest (sayAll env (objects s.vars i)
          (receive env (some payload) { state := s, drawn })))) := by
        rw [run_answered env drawn hstatus hw hempty, hanswer, hfill]
        rfl
    _ = .ok (finish env (sayAll env (objects s.vars i)
          (receive env (some payload) { state := s, drawn }))) := by
        rw [Step.follow, Visit.follow_rest]
        rfl
    _ = _ := rfl

/-- A session that has ended takes note of nothing. -/
theorem run_late (h : s.status = .ended) :
    run g env drawn s inbound = .ok { state := { s with updatedAt := env.now }, drawn } := by
  have hrun : run g env drawn s inbound = .ok (finish env { state := s, drawn }) := by
    unfold run
    dsimp only
    rw [h]
  exact hrun

end Turn

/-! ### Exchanges -/

/-- The same event is answered alike, in conversations that agree before and after it. -/
structure Exchange.Matches (x y : Exchange) : Prop where
  event : y.event = x.event
  reply : y.reply = x.reply
  before : x.before.Agrees y.before
  after : x.after.Agrees y.after

namespace Conversation

variable {g : Graph} {c c' c'' : Conversation}

/-- A conversation agrees with itself. -/
theorem Agrees.refl (c : Conversation) : c.Agrees c := ⟨.refl c.state, rfl⟩

/-- Agreement goes both ways. -/
theorem Agrees.symm (h : c.Agrees c') : c'.Agrees c := ⟨h.state.symm, h.drawn.symm⟩

/-- Agreement goes through a third conversation. -/
theorem Agrees.trans (h : c.Agrees c') (h' : c'.Agrees c'') : c.Agrees c'' :=
  ⟨h.state.trans h'.state, h'.drawn.trans h.drawn⟩

/-- An exchange whose turn succeeds. -/
theorem exchange_of_ok {e : Event} {t : Turn}
    (h : Turn.run g e.env c.drawn c.state e.inbound = .ok t) :
    c.exchange g e = ⟨c, e, .ok t.output, ⟨t.state, t.drawn⟩⟩ := by
  unfold exchange
  rw [h]

@[simp] theorem before_exchange (e : Event) : (c.exchange g e).before = c := by
  unfold exchange
  split <;> rfl

@[simp] theorem event_exchange (e : Event) : (c.exchange g e).event = e := by
  unfold exchange
  split <;> rfl

/-- Conversations that agree answer an event alike. -/
theorem Agrees.exchange (h : c.Agrees c') (e : Event) :
    (c.exchange g e).Matches (c'.exchange g e) := by
  -- Both turns are run on the same number of draws, so they end alike.
  have hrun := Turn.both_run g e.env h.state c.drawn e.inbound
  refine ⟨by simp, ?_, by simpa using h, ?_⟩
  all_goals
    unfold Conversation.exchange
    rw [h.drawn]
    generalize Turn.run g e.env c.drawn c.state e.inbound = first,
      Turn.run g e.env c.drawn c'.state e.inbound = second at hrun
    cases hrun with
    | ok ht => first
      | exact congrArg Except.ok ht.output_eq
      | exact ⟨ht.state, ht.drawn_eq⟩
    | error a => first
      | rfl
      | exact ⟨h.state, rfl⟩

/-- An exchange leads from reachable to reachable. -/
theorem reachable_exchange (hc : Reachable g c.state) (e : Event) :
    Reachable g (c.exchange g e).after.state := by
  cases hrun : Turn.run g e.env c.drawn c.state e.inbound with
  | ok t =>
    rw [exchange_of_ok hrun]
    exact .turn hc hrun
  | error a =>
    unfold exchange
    rw [hrun]
    exact hc

/-- So do exchanges in a row. -/
theorem reachable_afterAll (hc : Reachable g c.state) (events : List Event) :
    Reachable g (c.afterAll g events).state := by
  induction events generalizing c with
  | nil => exact hc
  | cons e rest ih => exact ih (reachable_exchange hc e)

/-- An idle event changes nothing that counts. -/
theorem agrees_of_isIdle (hg : g.Coherent) (hc : Reachable g c.state) {e : Event}
    (h : (c.exchange g e).IsIdle g) : c.Agrees (c.exchange g e).after := by
  have hs := settled_of_reachable hg hc
  -- One case per way to be idle; in each the turn is known and changes at most the transcript.
  cases h with
  | unanswered w waiting silent =>
    rw [before_exchange] at waiting
    rw [event_exchange] at silent
    obtain ⟨node, -, -, hrun⟩ := Turn.run_unanswered e.env c.drawn hs waiting silent
    rw [exchange_of_ok hrun]
    exact ⟨⟨_, _, rfl⟩, rfl⟩
  | rejected nodeId kind i waiting node rejected =>
    rw [before_exchange] at waiting node
    rw [event_exchange] at rejected
    obtain ⟨payload, hinbound, hempty, haccepts⟩ := rejected
    have hrun := Turn.run_rejected e.env c.drawn hs waiting node hempty haccepts
    rw [exchange_of_ok (hinbound ▸ hrun)]
    exact ⟨⟨_, _, rfl⟩, rfl⟩
  | late ended =>
    rw [before_exchange] at ended
    rw [exchange_of_ok (Turn.run_late ended)]
    exact ⟨⟨_, _, rfl⟩, rfl⟩

/-- Idle events may be left out of what a conversation hears, also where the conversation that does
not hear them has already gone its own way in the transcript. -/
theorem Agrees.exchanges (hg : g.Coherent) (hc : Reachable g c.state) (h : c.Agrees c')
    (events : List Event) {drop : Exchange → Bool}
    (hdrop : ∀ x ∈ exchanges g c events, drop x → x.IsIdle g) :
    List.Forall₂ Exchange.Matches ((exchanges g c events).filter (!drop ·))
        (exchanges g c' (((exchanges g c events).filter (!drop ·)).map Exchange.event)) ∧
      (c.afterAll g events).Agrees
        (c'.afterAll g (((exchanges g c events).filter (!drop ·)).map Exchange.event)) := by
  induction events generalizing c c' with
  | nil => exact ⟨.nil, h⟩
  | cons e rest ih =>
    obtain ⟨hfirst, hrest⟩ := List.forall_mem_cons.1 hdrop
    have hafter := reachable_exchange hc e
    cases hd : drop (c.exchange g e) with
    | true =>
      -- The event is left out: `c'` stays, and agrees with what became of `c`.
      have hstay : (c.exchange g e).after.Agrees c' :=
        (agrees_of_isIdle hg hc (hfirst hd)).symm.trans h
      simpa [Session.exchanges, afterAll, hd] using ih hafter hstay hrest
    | false =>
      have hmatches := h.exchange (g := g) e
      obtain ⟨hreplies, hlast⟩ := ih hafter hmatches.after hrest
      simp only [Session.exchanges, List.filter_cons, hd, Bool.not_false, if_true, List.map_cons,
        event_exchange]
      exact ⟨.cons hmatches hreplies, hlast⟩

/-- However often an input rejects what it hears, it objects alike and the conversation stays. -/
theorem exchanges_of_rejected (hg : g.Coherent) (hc : Reachable g c.state) {nodeId : String}
    {kind : InputKind} {i : Input} (hw : c.state.waitingFor = some (.input kind))
    (hnode : g.nodeAt c.state.containerId c.state.nodeIndex = .ok (some ⟨nodeId, .input kind i⟩))
    {events : List Event} (h : ∀ e ∈ events, e.IsRejectedBy kind i) :
    ∀ x ∈ exchanges g c events, c.Agrees x.after ∧ x.reply = .ok
      { messages := objects c.state.vars i, waitingFor := some (.input kind) } := by
  -- On the answers. The state that the next one finds is the same up to the transcript.
  induction events generalizing c with
  | nil => simp [exchanges]
  | cons e rest ih =>
    obtain ⟨⟨payload, hinbound, hempty, haccepts⟩, hrest⟩ := List.forall_mem_cons.1 h
    have hs := settled_of_reachable hg hc
    have hrun := Turn.run_rejected e.env c.drawn hs hw hnode hempty haccepts
    have hexchange := exchange_of_ok (hinbound ▸ hrun)
    obtain ⟨hstatus, -⟩ := hs.of_waiting hw
    have hafter : c.Agrees (c.exchange g e).after := by
      rw [hexchange]
      exact ⟨⟨_, _, rfl⟩, rfl⟩
    intro x hx
    rcases List.mem_cons.1 hx with rfl | hx
    · refine ⟨hafter, ?_⟩
      rw [hexchange]
      simp [Turn.output, hw, hstatus]
    · -- What the next rejected answer finds differs in the transcript alone.
      obtain ⟨log, updatedAt, hstate⟩ := hafter.state
      obtain ⟨hagrees, hreply⟩ := ih (reachable_exchange hc e) (by rw [hstate]; exact hw)
        (by rw [hstate]; exact hnode) hrest x hx
      rw [hstate] at hreply
      exact ⟨hafter.trans hagrees, hreply⟩

end Conversation

/-! ### A guest book -/

namespace GuestBook

/-- Asks for an address until it gets one. -/
def question : Input where
  prompt := some "Your address, \x7b\x7bname\x7d\x7d?"
  saveVariable := some "address"
  retryMessage := some "That is no address."

/-- A flow that asks for an address and thanks for it. -/
def flow : Definition where
  containers :=
    [⟨"desk", [⟨"address", .input .email question⟩,
      ⟨"thanks", .textBubble "Thanks, \x7b\x7baddress\x7d\x7d"⟩]⟩]
  edges := []

/-- What the user sends at some second. -/
def sent (seconds : Int) (text : Option String) : Event where
  env :=
    { now := ⟨seconds, 0⟩
      patterns := .refusing
      sandbox := fun _ _ _ _ _ => .ok {}
      token := fun _ => "" }
  inbound := text.map fun text => { text := some text }

/-- The session as it begins. -/
def begun : State where
  sessionId := "s"
  flowId := "f"
  flowVersion := 1
  containerId := "desk"
  createdAt := ⟨0, 0⟩
  updatedAt := ⟨0, 0⟩

/-- The guest comes, writes no address, is away for a while, writes one, and stays on. -/
def visit : List Event :=
  [sent 1 none, sent 2 (some "nobody"), sent 3 none, sent 4 (some "a@b.c"), sent 5 (some "bye")]

/-- Whether the session has ended, or waits and hears nothing. -/
def isVain (x : Exchange) : Bool :=
  x.before.state.status = .ended || (x.before.state.waitingFor.isSome && x.event.isSilent)

/-- What the visit drops is idle. -/
theorem isIdle_of_isVain {g : Graph} {x : Exchange} (h : isVain x) : x.IsIdle g := by
  rcases Bool.or_eq_true_iff.1 h with hended | hvain
  · exact .late (of_decide_eq_true hended)
  · obtain ⟨hwaits, hsilent⟩ := Bool.and_eq_true_iff.1 hvain
    obtain ⟨w, hw⟩ := Option.isSome_iff_exists.1 hwaits
    exact .unanswered w hw hsilent

end GuestBook

/-! ### Leaving idle events out -/

/-- Idle events may be left out of a conversation, all of them or some. The other events are
answered alike without them, each with the same reply or the same failure, by sessions that differ
in the transcript and the time of the last turn alone, and with the same random tokens drawn before
and after it. Above all, however often an input rejects what it hears, it says the same each time,
and the conversation stays where it is. -/
theorem idle_events_are_stutters (d : Definition) {sessionId flowId : String} {flowVersion : Int}
    {now : Time.Instant} {first : State}
    (hfirst : State.begin (Graph.ofDefinition d) sessionId flowId flowVersion now = .ok first)
    (events : List Event) {drop : Exchange → Bool}
    (hdrop : ∀ x ∈ exchanges (Graph.ofDefinition d) ⟨first, 0⟩ events,
      drop x → x.IsIdle (Graph.ofDefinition d)) :
    let g := Graph.ofDefinition d
    let kept := (exchanges g ⟨first, 0⟩ events).filter (!drop ·)
    let left := kept.map Exchange.event
    List.Forall₂ Exchange.Matches kept (exchanges g ⟨first, 0⟩ left) ∧
      (Conversation.afterAll g ⟨first, 0⟩ events).Agrees
        (Conversation.afterAll g ⟨first, 0⟩ left) ∧
      ∀ (front again : List Event) (nodeId : String) (kind : InputKind) (i : Input),
        let c := Conversation.afterAll g ⟨first, 0⟩ front
        c.state.waitingFor = some (.input kind) →
          g.nodeAt c.state.containerId c.state.nodeIndex = .ok (some ⟨nodeId, .input kind i⟩) →
          (∀ e ∈ again, e.IsRejectedBy kind i) →
          ∀ x ∈ exchanges g c again, c.Agrees x.after ∧ x.reply = .ok
            { messages := objects c.state.vars i, waitingFor := some (.input kind) } := by
  have hg := Graph.coherent_ofDefinition d
  have hreach : Reachable (Graph.ofDefinition d) first := .start hfirst
  -- The idle exchanges are left out one by one, each by the agreement before and after it.
  obtain ⟨hreplies, hlast⟩ :=
    (Conversation.Agrees.refl ⟨first, 0⟩).exchanges hg hreach events hdrop
  refine ⟨hreplies, hlast, fun front again nodeId kind i hw hnode hrejected => ?_⟩
  have hfront := Conversation.reachable_afterAll (c := ⟨first, 0⟩) hreach front
  exact Conversation.exchanges_of_rejected hg hfront hw hnode hrejected

/-- The guest who is away for a while and stays on hears what the guest hears who does neither, and
one who goes on writing no address hears the same each time. -/
theorem idle_events_are_stutters_guest :
    let g := Graph.ofDefinition GuestBook.flow
    let kept := (exchanges g ⟨GuestBook.begun, 0⟩ GuestBook.visit).filter (!GuestBook.isVain ·)
    State.begin g "s" "f" 1 ⟨0, 0⟩ = .ok GuestBook.begun ∧
      kept.map (·.event.inbound) =
        [none, some { text := some "nobody" }, some { text := some "a@b.c" }] ∧
      List.Forall₂ Exchange.Matches kept
        (exchanges g ⟨GuestBook.begun, 0⟩ (kept.map Exchange.event)) ∧
      ∀ x ∈ exchanges g (Conversation.afterAll g ⟨GuestBook.begun, 0⟩ [GuestBook.sent 1 none])
        [GuestBook.sent 2 (some "nobody"), GuestBook.sent 3 (some "a@b")],
        x.reply = .ok
          { messages :=
              [.ofText "That is no address.", .ofText "Your address, \x7b\x7bname\x7d\x7d?"]
            waitingFor := some (.input .email) } := by
  -- The visit is computed where it is fixed; what the claim says of it comes from the theorem.
  have hbegin : State.begin (Graph.ofDefinition GuestBook.flow) "s" "f" 1 ⟨0, 0⟩ =
      .ok GuestBook.begun := rfl
  have hkept : ((exchanges (Graph.ofDefinition GuestBook.flow) ⟨GuestBook.begun, 0⟩
      GuestBook.visit).filter (!GuestBook.isVain ·)).map (·.event.inbound) =
        [none, some { text := some "nobody" }, some { text := some "a@b.c" }] := by
    decide +kernel
  have hwaits : (Conversation.afterAll (Graph.ofDefinition GuestBook.flow) ⟨GuestBook.begun, 0⟩
      [GuestBook.sent 1 none]).state.waitingFor = some (.input .email) := by
    decide +kernel
  have hrejected : ∀ e ∈ [GuestBook.sent 2 (some "nobody"), GuestBook.sent 3 (some "a@b")],
      e.IsRejectedBy .email GuestBook.question := by
    rintro e he
    rcases List.mem_pair.1 he with rfl | rfl
    · exact ⟨_, rfl, rfl, by decide +kernel⟩
    · exact ⟨_, rfl, rfl, by decide +kernel⟩
  have hobjects : objects .empty GuestBook.question =
      [.ofText "That is no address.", .ofText "Your address, \x7b\x7bname\x7d\x7d?"] := by
    decide +kernel
  obtain ⟨hreplies, -, hagain⟩ := idle_events_are_stutters GuestBook.flow hbegin GuestBook.visit
    fun x _ hx => GuestBook.isIdle_of_isVain hx
  refine ⟨hbegin, hkept, hreplies, fun x hx => ?_⟩
  rw [← hobjects]
  exact (hagain [GuestBook.sent 1 none] _ "address" .email GuestBook.question hwaits rfl
    hrejected x hx).2

end Dialogue.Session
