import Dialogue.Proofs.Service.Chain

namespace Dialogue.Service

open Session

/-!
# All or nothing

Whichever of its calls is refused, and wherever else it fails, a request that fails leaves the store
as it was. A turn that succeeds stores one session.

* `lookedUp`: the session that a turn got to know.
* `run_start`, `run_proceed`: how a turn ends.
* `Stores`, `Opens`, `Continues`: what a turn that has succeeded makes of the store.
* `requests_are_atomic`: all of this, on every store that requests lead to.
-/

/-! ### How a turn ends -/

/-- The session that a turn is to continue, if the call that looks it up succeeds. -/
def lookedUp (now : Time.Instant) (refusal : Call → Option Store.Error) (s : Store)
    (r : TurnRequest) : Option State :=
  r.sessionId.bind fun id => ((Storage.refusing now refusal).session id s).toOption

/-- A first turn is stored, or nothing is. -/
theorem run_storeFirst (c : Circumstances) (t : Turn) (now : Time.Instant)
    (refusal : Call → Option Store.Error) (s : Store) :
    (∃ cause, (storeFirst c t).run (.refusing now refusal) s = (.error ⟨cause, none⟩, s)) ∨
      s.sessions.get? t.state.sessionId = none ∧
        (storeFirst c t).run (.refusing now refusal) s =
          (.ok ⟨c.freshSessionId, t.output⟩, s.withSession t.state) := by
  unfold storeFirst
  rcases Storage.refusing_insert now refusal s t.state with ⟨e, he⟩ | ⟨s', hinsert, hok⟩
  · refine .inl ⟨.store e, ?_⟩
    rw [Procedure.run, he]
    rfl
  · obtain ⟨hvacant, -, rfl⟩ := Store.insert_eq_ok_iff.1 hinsert
    refine .inr ⟨hvacant, ?_⟩
    rw [Procedure.run, hok]
    rfl

/-- A session is begun, or nothing is stored. -/
theorem run_start (c : Circumstances) (flowId : String) (version : Option Int)
    (inbound : Option Inbound) (client : Script.ClientContext) (now : Time.Instant)
    (refusal : Call → Option Store.Error) (s : Store) :
    (∃ cause, (start c flowId version inbound client).run (.refusing now refusal) s =
        (.error ⟨cause, none⟩, s)) ∨
      ∃ flow t, s.flow flowId version = .ok flow ∧ firstTurn c flow inbound client = .ok t ∧
        s.sessions.get? t.state.sessionId = none ∧
        (start c flowId version inbound client).run (.refusing now refusal) s =
          (.ok ⟨c.freshSessionId, t.output⟩, s.withSession t.state) := by
  unfold start
  -- The look-up, the turn and the storing may each fail, and no failure changes the store.
  rcases Storage.refusing_flow now refusal s flowId version with ⟨e, he⟩ | ⟨flow, hflow, hok⟩
  · refine .inl ⟨.store e, ?_⟩
    rw [Procedure.run, he]
    rfl
  · rw [Procedure.run, hok]
    cases ht : firstTurn c flow inbound client with
    | error e =>
      refine .inl ⟨.turn e, ?_⟩
      simp only [ht]
      rfl
    | ok t =>
      simp only [ht]
      rcases run_storeFirst c t now refusal s with hfailed | ⟨hvacant, hstored⟩
      · exact .inl hfailed
      · exact .inr ⟨flow, t, hflow, ht, hvacant, hstored⟩

/-- A further turn is stored, or nothing is. -/
theorem run_storeNext (id : String) (waitingFor : Option Awaited) (t : Turn)
    (now : Time.Instant) (refusal : Call → Option Store.Error) (s : Store) :
    (∃ cause, (storeNext id waitingFor t).run (.refusing now refusal) s =
        (.error ⟨cause, waitingFor⟩, s)) ∨
      (storeNext id waitingFor t).run (.refusing now refusal) s =
        (.ok ⟨id, t.output⟩, s.withSession { t.state with revision := t.state.revision + 1 }) := by
  unfold storeNext
  rcases Storage.refusing_save now refusal s t.state with ⟨e, he⟩ | ⟨next, s', hsave, hok⟩
  · refine .inl ⟨.store e, ?_⟩
    rw [Procedure.run, he]
    rfl
  · obtain ⟨-, rfl, rfl⟩ := Store.save_eq_ok_iff.1 hsave
    right
    rw [Procedure.run, hok]
    rfl

/-- A session that was looked up is continued, or nothing is stored and the failure tells what the
session waits for. -/
theorem run_proceedFrom (c : Circumstances) (id : String) (inbound : Option Inbound)
    (client : Script.ClientContext) (old : State) (now : Time.Instant)
    (refusal : Call → Option Store.Error) (s : Store) :
    (∃ cause, (proceedFrom c id inbound client old).run (.refusing now refusal) s =
        (.error ⟨cause, old.waitingFor⟩, s)) ∨
      ∃ flow t, nextTurn c flow old inbound client = .ok t ∧
        (proceedFrom c id inbound client old).run (.refusing now refusal) s =
          (.ok ⟨id, t.output⟩,
            s.withSession { t.state with revision := t.state.revision + 1 }) := by
  unfold proceedFrom
  rcases Storage.refusing_flow now refusal s old.flowId (some old.flowVersion) with
    ⟨e, he⟩ | ⟨flow, -, hok⟩
  · refine .inl ⟨.store e, ?_⟩
    rw [Procedure.run, he]
    rfl
  · rw [Procedure.run, hok]
    cases ht : nextTurn c flow old inbound client with
    | error e =>
      refine .inl ⟨.turn e, ?_⟩
      simp only [ht]
      rfl
    | ok t =>
      simp only [ht]
      rcases run_storeNext id old.waitingFor t now refusal s with hfailed | hstored
      · exact .inl hfailed
      · exact .inr ⟨flow, t, ht, hstored⟩

/-- A session is looked up and continued, or nothing is stored and the failure tells what the
session waits for, as far as it was looked up. -/
theorem run_proceed (c : Circumstances) (r : TurnRequest) {id : String}
    (hid : r.sessionId = some id) (now : Time.Instant) (refusal : Call → Option Store.Error)
    (s : Store) :
    (∃ cause, (proceed c id r.inbound r.client).run (.refusing now refusal) s =
        (.error ⟨cause, (lookedUp now refusal s r).bind State.waitingFor⟩, s)) ∨
      ∃ old flow t, s.session id = .ok old ∧ nextTurn c flow old r.inbound r.client = .ok t ∧
        (proceed c id r.inbound r.client).run (.refusing now refusal) s =
          (.ok ⟨id, t.output⟩,
            s.withSession { t.state with revision := t.state.revision + 1 }) := by
  unfold proceed lookedUp
  rw [hid, Option.bind_some]
  rcases Storage.refusing_session now refusal s id with ⟨e, he⟩ | ⟨old, hold, hok⟩
  · refine .inl ⟨.store e, ?_⟩
    rw [Procedure.run, he]
    rfl
  · rw [Procedure.run, hok]
    rcases run_proceedFrom c id r.inbound r.client old now refusal s with
      hfailed | ⟨flow, t, ht, hrun⟩
    · exact .inl hfailed
    · exact .inr ⟨old, flow, t, hold, ht, hrun⟩

/-! ### What a turn makes of the store -/

/-- The row of one session is another one, which keeps what the reply tells. -/
structure Stores (s s' : Store) (reply : TurnReply) (state : State) : Prop where
  sessionId : state.sessionId = reply.sessionId
  row : s'.sessions.get? reply.sessionId = some (.ofState state)
  changed : s'.sessions.get? reply.sessionId ≠ s.sessions.get? reply.sessionId
  others : ∀ id, id ≠ reply.sessionId → s'.sessions.get? id = s.sessions.get? id
  flows : s'.flows = s.flows
  status : state.status = reply.output.status
  waitingFor : state.waitingFor = reply.output.waitingFor

/-- A session is new, and is pinned to the version that was looked up for it. -/
structure Opens (c : Circumstances) (s : Store) (r : TurnRequest) (reply : TurnReply)
    (state : State) : Prop where
  vacant : s.sessions.get? reply.sessionId = none
  revision : state.revision = 0
  pinned : ∃ flow, r.flowId = some flow.flowId ∧ s.flow flow.flowId r.version = .ok flow ∧
    state.flowId = flow.flowId ∧ state.flowVersion = flow.version
  createdAt : state.createdAt = c.begunAt

/-- A session has the next revision, and is pinned to the version that it was begun on. -/
structure Continues (events : List Event) (id : String) (reply : TurnReply) (state : State) :
    Prop where
  addressed : reply.sessionId = id
  revision : ∃ old, (Server.after events).store.sessions.get? id = some (.ofState old) ∧
    state.revision = old.revision + 1
  pinned : ∃ i first, (Server.writes id events).head? = some (i, .ofState first) ∧
    Link.Begins (Server.after events) ⟨i, first⟩ ∧ state.flowId = first.flowId ∧
    state.flowVersion = first.flowVersion ∧ state.createdAt = first.createdAt

variable {s : Store} {t : Turn} {state : State} {id : String}

/-- A turn that is stored as the row of its session. -/
theorem stores_withSession (hid : state.sessionId = id) (hstatus : state.status = t.state.status)
    (hwaiting : state.waitingFor = t.state.waitingFor)
    (hchanged : some (.ofState state) ≠ s.sessions.get? id) :
    Stores s (s.withSession state) ⟨id, t.output⟩ state where
  sessionId := hid
  row := by rw [Store.get?_withSession, if_pos hid.symm]
  changed := by rwa [Store.get?_withSession, if_pos hid.symm]
  others := by
    intro other hother
    rw [Store.get?_withSession, if_neg (hid ▸ hother)]
  flows := rfl
  status := hstatus
  waitingFor := hwaiting

/-- A flow is published and a version of it at most is added, or it is not and all is as it was. -/
theorem run_publish (c : Circumstances) (flowId : Option String) (d : Flow.Definition)
    (now : Time.Instant) (refusal : Call → Option Store.Error) (s : Store) :
    (∃ e, (publish c flowId d).run (.refusing now refusal) s = (.error e, s)) ∨
      ∃ publication, (publish c flowId d).run (.refusing now refusal) s =
        (.ok publication, (s.publish now (flowId.getD c.freshFlowId) d).2) := by
  unfold publish
  by_cases hd : d.isPublishable c.patterns
  · rw [if_pos hd, Procedure.run]
    rcases Storage.refusing_publish now refusal s (flowId.getD c.freshFlowId) d with ⟨e, he⟩ | hok
    · rw [he]
      exact .inl ⟨_, rfl⟩
    · rw [hok]
      exact .inr ⟨_, rfl⟩
  · rw [if_neg hd]
    exact .inl ⟨_, rfl⟩

/-- A session that is looked up is its row, and has been on one version of a flow since it was
begun. -/
theorem begun_of_session {events : List Event} {old : State}
    (h : (Server.after events).store.session id = .ok old) :
    (Server.after events).store.sessions.get? id = some (.ofState old) ∧ old.sessionId = id ∧
      ∃ i first, (Server.writes id events).head? = some (i, .ofState first) ∧
        Link.Begins (Server.after events) ⟨i, first⟩ ∧
        old.origin = { first.origin with revision := old.revision } := by
  obtain ⟨ledger, hrecorded, hwrites⟩ := Recorded.after events
  obtain ⟨l, hlast, rfl⟩ := hrecorded.mem_of_session h
  have hl := List.mem_of_getLast? hlast
  have hchain := hrecorded.chain id
  refine ⟨?_, hchain.sessionId l hl, ?_⟩
  · rw [hrecorded.rows, hlast]
    rfl
  · obtain ⟨first, hfirst⟩ : ∃ first, (ledger id).head? = some first :=
      ⟨_, List.head?_eq_some_head (List.ne_nil_of_mem hl)⟩
    refine ⟨first.job, first.state, ?_, ?_, hchain.origin_eq hfirst hl⟩
    · rw [hwrites, List.head?_map, hfirst]
      rfl
    · exact hchain.first first (by rw [← List.head?_eq_getElem?, hfirst])

/-- A first turn that is stored opens its session. -/
theorem opens_of_firstTurn {c : Circumstances} {r : TurnRequest} {flowId : String}
    {flow : Store.Published} (hflowId : r.flowId = some flowId)
    (hflow : s.flow flowId r.version = .ok flow)
    (ht : firstTurn c flow r.inbound r.client = .ok t)
    (hvacant : s.sessions.get? t.state.sessionId = none) :
    Stores s (s.withSession t.state) ⟨c.freshSessionId, t.output⟩ t.state ∧
      Opens c s r ⟨c.freshSessionId, t.output⟩ t.state := by
  have horigin := (firstTurn_spec ht).1
  have hsession : t.state.sessionId = c.freshSessionId := congrArg Origin.sessionId horigin
  rw [hsession] at hvacant
  obtain ⟨rfl, -⟩ := Store.flow_pinned hflow
  constructor
  · refine stores_withSession hsession rfl rfl ?_
    rw [hvacant]
    exact Option.some_ne_none _
  · exact {
      vacant := hvacant
      revision := congrArg Origin.revision horigin
      pinned := ⟨flow, hflowId, hflow, congrArg Origin.flowId horigin,
        congrArg Origin.flowVersion horigin⟩
      createdAt := congrArg Origin.createdAt horigin }

/-- A further turn that is stored continues the session that was looked up. -/
theorem continues_of_nextTurn {c : Circumstances} {events : List Event} {old : State}
    {flow : Store.Published} {inbound : Option Inbound} {client : Script.ClientContext}
    (hold : (Server.after events).store.session id = .ok old)
    (ht : nextTurn c flow old inbound client = .ok t) :
    let s := (Server.after events).store
    let next : State := { t.state with revision := t.state.revision + 1 }
    Stores s (s.withSession next) ⟨id, t.output⟩ next ∧
      Continues events id ⟨id, t.output⟩ next := by
  intro s next
  obtain ⟨hrow, hsession, i, first, hfirst, hbegins, hbegun⟩ := begun_of_session hold
  -- The turn keeps what the session was begun with, and its revision is counted up behind it.
  have hturn := (nextTurn_spec ht).1
  have hrevision : t.state.revision = old.revision := congrArg Origin.revision hturn
  have hpinned := hturn.trans hbegun
  constructor
  · refine stores_withSession ((congrArg Origin.sessionId hturn).trans hsession) rfl rfl ?_
    rw [hrow]
    intro hsame
    have hnext : t.state.revision + 1 = old.revision :=
      congrArg Store.Row.revision (Option.some.inj hsame)
    omega
  · exact {
      addressed := rfl
      revision := ⟨old, hrow, congrArg (· + 1) hrevision⟩
      pinned := ⟨i, first, hfirst, hbegins, congrArg Origin.flowId hpinned,
        congrArg Origin.flowVersion hpinned, congrArg Origin.createdAt hpinned⟩ }

/-! ### Requests -/

/-- On every store that requests lead to, and whichever calls are refused, a request that fails
leaves the store as it was; a turn that fails tells what the session it looked up waits for. A turn
that succeeds stores one session and no more: a new one, or the next revision of the one that it was
for, pinned as it was begun, and with what the reply tells. -/
theorem requests_are_atomic (events : List Event) (c : Circumstances) (now : Time.Instant)
    (refusal : Call → Option Store.Error) :
    let s := (Server.after events).store
    (∀ flowId d, match (publish c flowId d).run (.refusing now refusal) s with
      | (.error _, s') => s' = s
      | (.ok _, s') => s'.Extends s ∧ s'.sessions = s.sessions) ∧
    ∀ r, match (turn c r).run (.refusing now refusal) s with
      | (.error e, s') => s' = s ∧ e.waitingFor = (lookedUp now refusal s r).bind State.waitingFor
      | (.ok reply, s') => ∃ state, Stores s s' reply state ∧
        match r.sessionId with
        | none => Opens c s r reply state
        | some id => Continues events id reply state := by
  intro s
  refine ⟨fun flowId d => ?_, fun r => ?_⟩
  · rcases run_publish c flowId d now refusal s with ⟨e, hrun⟩ | ⟨publication, hrun⟩
    · rw [hrun]
    · rw [hrun]
      exact s.extends_publish now (flowId.getD c.freshFlowId) d
  cases hid : r.sessionId with
  | none =>
    have hlookedUp : (lookedUp now refusal s r).bind State.waitingFor = none := by
      rw [lookedUp, hid, Option.bind_none, Option.bind_none]
    cases hflowId : r.flowId with
    | none =>
      simp only [turn, hid, hflowId]
      exact ⟨rfl, hlookedUp.symm⟩
    | some flowId =>
      simp only [turn, hid, hflowId]
      rcases run_start c flowId r.version r.inbound r.client now refusal s with
        ⟨cause, hrun⟩ | ⟨flow, t, hflow, ht, hvacant, hrun⟩
      · rw [hrun]
        exact ⟨rfl, hlookedUp.symm⟩
      · rw [hrun]
        exact ⟨t.state, opens_of_firstTurn hflowId hflow ht hvacant⟩
  | some id =>
    simp only [turn, hid]
    rcases run_proceed c r hid now refusal s with ⟨cause, hrun⟩ | ⟨old, flow, t, hold, ht, hrun⟩
    · rw [hrun]
      exact ⟨rfl, rfl⟩
    · rw [hrun]
      exact ⟨_, continues_of_nextTurn hold ht⟩

end Dialogue.Service
