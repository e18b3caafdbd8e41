import Dialogue.Proofs.Session.Idle

namespace Dialogue.Session

open Dialogue.Flow

/-!
# Coming back without an answer

A user who comes back to a session that waits, and sends nothing, is asked again. What is asked is
said, and what is said is written down: so the session stays as it is where buttons are offered
again, but where a prompt is repeated the transcript grows with every time.

* `Conversation.afterAll_of_silent`: the session after the user has come back any number of times.
* `reconnect_changes_the_session`: coming back may change more than the time of the last turn.
* `reconnect_repeats_the_prompt`: exactly what coming back changes.
-/

/-- The lines that are added while the user comes back to a node again and again. -/
def repeatedLines (vars : Dictionary String) (kind : Node.Kind) (events : List Event) :
    List LogEntry :=
  events.flatMap fun e => (asks vars kind).map (.outbound · e.env.now)

/-- However often the user comes back, nothing but the repeated prompts and the time of the last
turn is new. -/
theorem Conversation.afterAll_of_silent {g : Graph} (hg : g.Coherent) {c : Conversation}
    (hc : Reachable g c.state) {w : Awaited} (hw : c.state.waitingFor = some w) {node : Node}
    (hnode : g.nodeAt c.state.containerId c.state.nodeIndex = .ok (some node))
    {events : List Event} (h : ∀ e ∈ events, e.isSilent) :
    c.afterAll g events =
      { state :=
          { c.state with
            log := c.state.log ++ repeatedLines c.state.vars node.kind events
            updatedAt := events.foldl (fun _ e => e.env.now) c.state.updatedAt }
        drawn := c.drawn } := by
  induction events generalizing c with
  | nil => simp [afterAll, repeatedLines]
  | cons e rest ih =>
    obtain ⟨hsilent, hrest⟩ := List.forall_mem_cons.1 h
    obtain ⟨found, hfound, -, hrun⟩ :=
      Turn.run_unanswered e.env c.drawn (settled_of_reachable hg hc) hw hsilent
    have hsame : found = node := Option.some.inj (Except.ok.inj (hfound.symm.trans hnode))
    subst hsame
    have hexchange := exchange_of_ok hrun
    have hnext := ih (reachable_exchange hc e) (by rw [hexchange]; exact hw)
      (by rw [hexchange]; exact hnode) hrest
    rw [afterAll, List.foldl_cons, ← afterAll, hnext, hexchange]
    simp [repeatedLines]

/-! ### A guest who comes back -/

namespace GuestBook

/-- The session of a guest who has been asked for an address. -/
def asked : State :=
  { begun with
    log := [.outbound (.ofText "Your address, \x7b\x7bname\x7d\x7d?") ⟨1, 0⟩]
    waitingFor := some (.input .email)
    updatedAt := ⟨1, 0⟩ }

/-- The turn that asks for an address. -/
def asking : Turn where
  state := asked
  messages := [.ofText "Your address, \x7b\x7bname\x7d\x7d?"]

theorem reachable_asked : Reachable (Graph.ofDefinition flow) asked := by
  have hbegin : State.begin (Graph.ofDefinition flow) "s" "f" 1 ⟨0, 0⟩ = .ok begun := rfl
  have hrun : Turn.run (Graph.ofDefinition flow) (sent 1 none).env 0 begun none = .ok asking := by
    decide +kernel
  exact .turn (.start hbegin) hrun

end GuestBook

/-- A guest who comes back is asked again, and the question is written down again. -/
theorem reconnect_changes_the_session :
    ¬∀ (d : Definition) (s : State) (w : Awaited) (env : Environment) (drawn : Nat),
      Reachable (Graph.ofDefinition d) s → s.waitingFor = some w →
        ∃ t, Turn.run (Graph.ofDefinition d) env drawn s none = .ok t ∧
          t.state = { s with updatedAt := env.now } := by
  intro h
  obtain ⟨t, hrun, hstate⟩ := h GuestBook.flow GuestBook.asked (.input .email)
    (GuestBook.sent 2 none).env 0 GuestBook.reachable_asked rfl
  have hlines : (Turn.run (Graph.ofDefinition GuestBook.flow) (GuestBook.sent 2 none).env 0
      GuestBook.asked none).map (·.state.log.length) = .ok 2 := by
    decide +kernel
  rw [hrun] at hlines
  have hlength : t.state.log.length = 2 := Except.ok.inj hlines
  rw [hstate] at hlength
  cases hlength

/-! ### What coming back changes -/

/-- Whoever comes back to a session that waits, and sends nothing, gets a reply: the prompt again,
or the buttons again, with the variables filled in. The session changes in the time of the last turn
and in the transcript, to which the prompt is added; so nothing else than the time changes exactly
where there is no prompt to repeat. Coming back any number of times adds the prompt as often. -/
theorem reconnect_repeats_the_prompt (d : Definition) {s : State} {w : Awaited}
    (hs : Reachable (Graph.ofDefinition d) s) (hw : s.waitingFor = some w) :
    let g := Graph.ofDefinition d
    ∃ node, g.nodeAt s.containerId s.nodeIndex = .ok (some node) ∧ node.kind.awaits = some w ∧
      (∀ env drawn inbound, inbound.all Inbound.isEmpty →
        ∃ t, Turn.run g env drawn s inbound = .ok t ∧ t.drawn = drawn ∧
          t.output =
            { messages := asks s.vars node.kind, buttons := node.kind.offers s.vars,
              waitingFor := some w } ∧
          t.state =
            { s with
              log := s.log ++ (asks s.vars node.kind).map (.outbound · env.now)
              updatedAt := env.now } ∧
          (t.state = { s with updatedAt := env.now } ↔ asks s.vars node.kind = [])) ∧
      ∀ drawn events, (∀ e ∈ events, e.isSilent) →
        Conversation.afterAll g ⟨s, drawn⟩ events =
          { state :=
              { s with
                log := s.log ++ repeatedLines s.vars node.kind events
                updatedAt := events.foldl (fun _ e => e.env.now) s.updatedAt }
            drawn } := by
  have hg := Graph.coherent_ofDefinition d
  have hsettled := settled_of_reachable hg hs
  obtain ⟨hstatus, node, hnode, hawaits⟩ := hsettled.of_waiting hw
  -- One turn repeats the prompt and stays at the node, so the next one repeats the same.
  refine ⟨node, hnode, hawaits, fun env drawn inbound hempty => ?_, fun drawn events hsilent => ?_⟩
  · obtain ⟨found, hfound, -, hrun⟩ := Turn.run_unanswered env drawn hsettled hw hempty
    have hsame : found = node := Option.some.inj (Except.ok.inj (hfound.symm.trans hnode))
    subst hsame
    refine ⟨_, hrun, rfl, by simp [Turn.output, hw, hstatus], rfl, ?_⟩
    constructor
    · intro hstate
      have hlog : s.log ++ (asks s.vars found.kind).map (.outbound · env.now) = s.log :=
        congrArg State.log hstate
      exact List.map_eq_nil_iff.1 (List.append_right_eq_self.1 hlog)
    · intro hasks
      simp [hasks]
  · exact Conversation.afterAll_of_silent hg (c := ⟨s, drawn⟩) hs hw hnode hsilent

/-- A guest who comes back twice is asked three times in all. -/
theorem reconnect_repeats_the_prompt_guest :
    Reachable (Graph.ofDefinition GuestBook.flow) GuestBook.asked ∧
      GuestBook.asked.waitingFor = some (.input .email) ∧
      (Conversation.afterAll (Graph.ofDefinition GuestBook.flow) ⟨GuestBook.asked, 0⟩
        [GuestBook.sent 2 none, GuestBook.sent 3 none]).state.log =
          [.outbound (.ofText "Your address, \x7b\x7bname\x7d\x7d?") ⟨1, 0⟩,
            .outbound (.ofText "Your address, \x7b\x7bname\x7d\x7d?") ⟨2, 0⟩,
            .outbound (.ofText "Your address, \x7b\x7bname\x7d\x7d?") ⟨3, 0⟩] := by
  refine ⟨GuestBook.reachable_asked, rfl, ?_⟩
  obtain ⟨node, hnode, -, -, hafter⟩ :=
    reconnect_repeats_the_prompt GuestBook.flow GuestBook.reachable_asked rfl
  cases hnode
  rw [hafter 0 [GuestBook.sent 2 none, GuestBook.sent 3 none] (by simp [GuestBook.sent,
    Event.isSilent])]
  decide +kernel

end Dialogue.Session
