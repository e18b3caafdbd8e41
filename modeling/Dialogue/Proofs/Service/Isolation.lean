import Dialogue.Proofs.Service.Atomicity
import Dialogue.Proofs.Session.Suspension

namespace Dialogue

/-!
# Sessions are isolated

What a session does depends on what was published under its flow before it began, and on its own
turns. Requests for other sessions and later publications make no difference.

* `Attempt`, `served`: requests that are served one after the other.
* `Store.Sound`: every row is a session of its own id.
* `Store.Shows`: what a turn of a session gets to see of a store.
* `Attempt.shows_serve`: requests that are not for a session leave that as it is.
* `Attempt.serve_continues`, `Attempt.serve_begins`: turns depend on nothing else.
* `sessions_are_isolated`: a session goes the same way without the requests of others.
-/

namespace Store

open Session

/-- Every row is a session that is kept under its own id. -/
def Sound (s : Store) : Prop :=
  ∀ id row, s.sessions.get? id = some row →
    ∃ state : State, row = .ofState state ∧ state.sessionId = id ∧ state.Dated

/-- A store has a session in a state, and the version of the flow that the session is on. -/
structure Shows (s : Store) (state : State) (v : Version) : Prop where
  row : s.sessions.get? state.sessionId = some (.ofState state)
  dated : state.Dated
  version : s.select? state.flowId (some state.flowVersion) = some v

variable {s s' : Store} {state next : State} {v : Version}

/-- The empty store is sound. -/
theorem sound_empty : Sound {} := by
  intro id row h
  cases h

/-- Soundness is about sessions only. -/
theorem Sound.of_sessions (hs : s.Sound) (h : s'.sessions = s.sessions) : s'.Sound := by
  unfold Sound
  rwa [h]

/-- Putting a dated session in keeps a store sound. -/
theorem Sound.withSession (hs : s.Sound) (h : state.Dated) : (s.withSession state).Sound := by
  intro id row hrow
  rw [get?_withSession] at hrow
  split at hrow
  · rename_i hid
    exact ⟨state, (Option.some.inj hrow).symm, hid.symm, h⟩
  · exact hs id row hrow

/-- A session that is looked up in a sound store is the row that is kept. -/
theorem Sound.of_session {id : String} (hs : s.Sound) (h : s.session id = .ok state) :
    s.sessions.get? id = some (.ofState state) ∧ state.sessionId = id ∧ state.Dated := by
  unfold session at h
  cases hrow : s.sessions.get? id with
  | none => rw [hrow] at h; cases h
  | some row =>
    obtain ⟨kept, rfl, hid, hdated⟩ := hs id row hrow
    rw [hrow] at h
    obtain rfl := eq_of_readText hdated h
    exact ⟨rfl, hid, hdated⟩

/-- What is shown of a session stays so where its row and the versions stay. -/
theorem Shows.extend (h : s.Shows state v) (hextends : s'.Extends s)
    (hrow : s'.sessions.get? state.sessionId = s.sessions.get? state.sessionId) :
    s'.Shows state v where
  row := hrow.trans h.row
  dated := h.dated
  version := hextends _ _ _ h.version

/-- A store shows the state that is stored last. -/
theorem shows_withSession (h : next.Dated)
    (hversion : s.select? next.flowId (some next.flowVersion) = some v) :
    (s.withSession next).Shows next v where
  row := by rw [get?_withSession, if_pos rfl]
  dated := h
  version := s.extends_withSession next _ _ _ hversion

end Store

namespace Service

open Session

/-! ### Requests one after the other -/

/-- A request, what it is served under, the time at the store, and which calls are refused. -/
structure Attempt where
  setting : Setting
  request : Request
  now : Time.Instant
  refusal : Call → Option Store.Error

namespace Attempt

/-- Serves a request while nothing comes between its calls. -/
def serve (a : Attempt) (s : Store) : Except Failure Reply × Store :=
  (a.request.serve a.setting.circumstances).run (.refusing a.now a.refusal) s

/-- Whether a request is a turn of a session that has begun. -/
def continues (id : String) (a : Attempt) : Bool :=
  match a.request with
  | .turn r => r.sessionId == some id
  | _ => false

/-- Whether a request publishes under a flow. -/
def publishes (flowId : String) (a : Attempt) : Bool :=
  match a.request with
  | .publish given _ => given.getD a.setting.circumstances.freshFlowId == flowId
  | _ => false

/-- Whether a request begins a session on a flow. -/
def begins (id flowId : String) (a : Attempt) : Bool :=
  match a.request with
  | .turn r => r.sessionId == none && r.flowId == some flowId &&
    a.setting.circumstances.freshSessionId == id
  | _ => false

end Attempt

/-- The store after requests. -/
def served (s : Store) (attempts : List Attempt) : Store :=
  attempts.foldl (fun s a => (a.serve s).2) s

@[simp] theorem served_nil (s : Store) : served s [] = s := rfl

@[simp] theorem served_cons (s : Store) (a : Attempt) (rest : List Attempt) :
    served s (a :: rest) = served (a.serve s).2 rest := rfl

@[simp] theorem served_append (s : Store) (front rest : List Attempt) :
    served s (front ++ rest) = served (served s front) rest :=
  List.foldl_append

/-- What a request makes of a store. -/
inductive Attempt.Changed (a : Attempt) (s : Store) : Store → Prop
  | unchanged : Changed a s s
  | published {flowId : String} (d : Flow.Definition) (h : a.publishes flowId) :
    Changed a s (s.publish a.now flowId d).2
  | begun {state : State} (hvacant : s.sessions.get? state.sessionId = none)
    (hdated : state.Dated) : Changed a s (s.withSession state)
  | continued {state : State} (h : a.continues state.sessionId) (hdated : state.Dated) :
    Changed a s (s.withSession state)

variable {s s' : Store} {a : Attempt} {id flowId : String} {state : State} {v : Store.Version}

/-- How a run of a turn is answered. -/
def advanced (run : Except Failure TurnReply × Store) : Except Failure Reply × Store :=
  (run.1.map .advanced, run.2)

/-- A turn of a session that has begun is served by going on with the session. -/
theorem Attempt.exists_proceed (ha : a.continues id) :
    ∃ inbound client, ∀ s, a.serve s = advanced
      ((proceed a.setting.circumstances id inbound client).run (.refusing a.now a.refusal) s) := by
  -- Only a turn with the id of a session continues one.
  obtain ⟨c, request, now, refusal⟩ := a
  cases request with
  | turn r =>
    have hid : r.sessionId = some id := by simpa [continues] using ha
    refine ⟨r.inbound, r.client, fun s => ?_⟩
    unfold serve Request.serve
    dsimp only
    rw [Procedure.run_map]
    unfold turn
    rw [hid]
    rfl
  | publish given d => cases ha
  | showFlow flowId version => cases ha
  | showSession id => cases ha

/-- A request that begins a session is served by starting the session. -/
theorem Attempt.exists_start (ha : a.begins id flowId) :
    a.setting.circumstances.freshSessionId = id ∧ ∃ version inbound client, ∀ s,
      a.serve s = advanced ((start a.setting.circumstances flowId version inbound client).run
        (.refusing a.now a.refusal) s) := by
  -- Only a turn without an id begins a session.
  obtain ⟨c, request, now, refusal⟩ := a
  cases request with
  | turn r =>
    obtain ⟨⟨hid, hflowId⟩, hfresh⟩ : (r.sessionId = none ∧ r.flowId = some flowId) ∧
        c.circumstances.freshSessionId = id := by simpa [begins] using ha
    refine ⟨hfresh, r.version, r.inbound, r.client, fun s => ?_⟩
    unfold serve Request.serve
    dsimp only
    rw [Procedure.run_map]
    unfold turn
    rw [hid, hflowId]
    rfl
  | publish given d => cases ha
  | showFlow flowId version => cases ha
  | showSession id => cases ha

/-- A turn on a sound store begins or continues a session, or changes nothing. -/
theorem Attempt.changed_turn (hs : s.Sound) (c : Setting) (r : TurnRequest) (now : Time.Instant)
    (refusal : Call → Option Store.Error) :
    (Attempt.mk c (.turn r) now refusal).Changed s
      ((turn c.circumstances r).run (.refusing now refusal) s).2 := by
  unfold turn
  cases hid : r.sessionId with
  | some id =>
    dsimp only
    rcases run_proceed c.circumstances r hid now refusal s with
      ⟨cause, hrun⟩ | ⟨old, flow, t, hold, ht, hrun⟩
    · rw [hrun]
      exact .unchanged
    · rw [hrun]
      obtain ⟨-, rfl, hdated⟩ := hs.of_session hold
      obtain ⟨horigin, hturn⟩ := nextTurn_spec ht
      have hsession : t.state.sessionId = old.sessionId := congrArg Origin.sessionId horigin
      have hnext := hturn c.representable hdated
      refine .continued ?_ ⟨hnext.created, hnext.updated, hnext.log⟩
      simp [continues, hid, hsession]
  | none =>
    cases hflowId : r.flowId with
    | none => exact .unchanged
    | some flowId =>
      dsimp only
      rcases run_start c.circumstances flowId r.version r.inbound r.client now refusal s with
        ⟨cause, hrun⟩ | ⟨flow, t, -, ht, hvacant, hrun⟩
      · rw [hrun]
        exact .unchanged
      · rw [hrun]
        exact .begun hvacant ((firstTurn_spec ht).2 c.begun c.representable)

/-- Every request on a sound store publishes, begins or continues a session, or changes nothing. -/
theorem Attempt.changed_serve (hs : s.Sound) : a.Changed s (a.serve s).2 := by
  -- One case per request: reading changes nothing, publishing adds a version, a turn writes its own
  -- row.
  obtain ⟨c, request, now, refusal⟩ := a
  unfold serve Request.serve
  cases request with
  | publish given d =>
    dsimp only
    rw [Procedure.run_map]
    rcases run_publish c.circumstances given d now refusal s with ⟨e, hrun⟩ | ⟨publication, hrun⟩
    · rw [hrun]
      exact .unchanged
    · rw [hrun]
      exact .published d (by simp [publishes])
  | showFlow id version =>
    dsimp only
    rw [Procedure.run_map, showFlow, Procedure.run]
    cases (Storage.refusing now refusal).flow id version s <;> exact .unchanged
  | showSession id =>
    dsimp only
    rw [Procedure.run_map, showSession, Procedure.run]
    cases (Storage.refusing now refusal).session id s <;> exact .unchanged
  | turn r =>
    dsimp only
    rw [Procedure.run_map]
    exact changed_turn hs c r now refusal

/-! ### What other requests leave alone -/

/-- Attempts keep a store sound. -/
theorem Attempt.sound_serve (hs : s.Sound) : (a.serve s).2.Sound := by
  have hchanged := a.changed_serve hs
  generalize (a.serve s).2 = s' at hchanged
  cases hchanged with
  | unchanged => exact hs
  | published d => exact hs.of_sessions (s.extends_publish _ _ d).2
  | begun _ hdated => exact hs.withSession hdated
  | continued _ hdated => exact hs.withSession hdated

/-- Attempts in a row keep a store sound. -/
theorem sound_served (hs : s.Sound) (attempts : List Attempt) : (served s attempts).Sound := by
  induction attempts generalizing s with
  | nil => exact hs
  | cons a rest ih => exact ih (a.sound_serve hs)

/-- An attempt removes no version. -/
theorem Attempt.extends_serve (hs : s.Sound) : (a.serve s).2.Extends s := by
  have hchanged := a.changed_serve hs
  generalize (a.serve s).2 = s' at hchanged
  cases hchanged with
  | unchanged => exact .refl s
  | published d => exact (s.extends_publish _ _ d).1
  | begun => exact s.extends_withSession _
  | continued => exact s.extends_withSession _

/-- Sessions are never taken away. -/
theorem vacant_of_serve (hs : s.Sound) (h : (a.serve s).2.sessions.get? id = none) :
    s.sessions.get? id = none := by
  -- A row that is there stays there, so what is vacant after was vacant before.
  have hchanged := a.changed_serve hs
  generalize (a.serve s).2 = s' at hchanged h
  have hset : ∀ state, (s.withSession state).sessions.get? id = none →
      s.sessions.get? id = none := by
    intro state hnone
    rw [Store.get?_withSession] at hnone
    split at hnone
    · cases hnone
    · exact hnone
  cases hchanged with
  | unchanged => exact h
  | published d => rwa [(s.extends_publish _ _ d).2] at h
  | begun => exact hset _ h
  | continued => exact hset _ h

/-- What is vacant behind attempts in a row was vacant in front of them. -/
theorem vacant_of_served (hs : s.Sound) {attempts : List Attempt}
    (h : (served s attempts).sessions.get? id = none) : s.sessions.get? id = none := by
  induction attempts generalizing s with
  | nil => exact h
  | cons a rest ih => exact vacant_of_serve hs (ih (a.sound_serve hs) h)

/-- The versions of a flow stay as they are unless one is published. -/
theorem Attempt.versions_serve (hs : s.Sound) (ha : a.publishes flowId = false) :
    (a.serve s).2.versions flowId = s.versions flowId := by
  -- Only publishing under this id adds a version of it.
  have hchanged := a.changed_serve hs
  generalize (a.serve s).2 = s' at hchanged
  cases hchanged with
  | unchanged => rfl
  | @published other d h =>
    refine Store.versions_publish_of_ne ?_ a.now d
    rintro rfl
    rw [h] at ha
    cases ha
  | begun => rfl
  | continued => rfl

/-- A request that is not for a session changes nothing of what the session gets to see. -/
theorem Attempt.shows_serve (hs : s.Sound) (h : s.Shows state v)
    (ha : a.continues state.sessionId = false) : (a.serve s).2.Shows state v := by
  refine h.extend (a.extends_serve hs) ?_
  have hchanged := a.changed_serve hs
  generalize (a.serve s).2 = s' at hchanged
  cases hchanged with
  | unchanged => rfl
  | published d => rw [(s.extends_publish _ _ d).2]
  | @begun other hvacant _ =>
    -- A session that begins has an id of its own, since the row of this one is taken.
    rw [Store.get?_withSession, if_neg]
    intro hid
    rw [← hid, h.row] at hvacant
    cases hvacant
  | @continued other hcontinues _ =>
    rw [Store.get?_withSession, if_neg]
    intro hid
    rw [hid, hcontinues] at ha
    cases ha

/-! ### What a turn depends on -/

/-- Two stores that show a session alike still do so, in one of the states of the session. -/
def Alike (id : String) (v : Store.Version) (s s' : Store) : Prop :=
  ∃ state : State, state.sessionId = id ∧ s.Shows state v ∧ s'.Shows state v

/-- Two runs end with the same result, in stores that show a session alike. -/
def SameRun {α : Type} (id : String) (v : Store.Version) (run run' : α × Store) : Prop :=
  run.1 = run'.1 ∧ Alike id v run.2 run'.2

variable {t : Turn} {c : Setting} {now : Time.Instant} {refusal : Call → Option Store.Error}

/-- A refused lookup of a flow depends on the flow's versions only. -/
theorem refusing_flow_congr {number : Option Int} (h : s.flow flowId number = s'.flow flowId number)
    (now : Time.Instant) (refusal : Call → Option Store.Error) :
    (Storage.refusing now refusal).flow flowId number s =
      (Storage.refusing now refusal).flow flowId number s' :=
  congrArg (fun answer => (refusal .flow).elim answer Except.error) h

/-- A refused lookup of a session depends on its row only. -/
theorem refusing_session_congr (h : s.session id = s'.session id) (now : Time.Instant)
    (refusal : Call → Option Store.Error) :
    (Storage.refusing now refusal).session id s = (Storage.refusing now refusal).session id s' :=
  congrArg (fun answer => (refusal .session).elim answer Except.error) h

/-- A turn that was made from the same state is stored in both stores, or in none. -/
theorem sameRun_storeNext (h : s.Shows state v) (h' : s'.Shows state v)
    (horigin : t.state.origin = state.origin) (hdated : t.state.Dated)
    (waitingFor : Option Awaited) :
    SameRun state.sessionId v ((storeNext id waitingFor t).run (.refusing now refusal) s)
      ((storeNext id waitingFor t).run (.refusing now refusal) s') := by
  unfold storeNext
  rw [Procedure.run, Procedure.run]
  cases hrefusal : refusal .save with
  | some e =>
    unfold Storage.refusing
    rw [hrefusal]
    exact ⟨rfl, state, rfl, h, h'⟩
  | none =>
    -- The row has the revision that the turn was made from, so the next state replaces it.
    let next : State := { t.state with revision := t.state.revision + 1 }
    have hsession : t.state.sessionId = state.sessionId := congrArg Origin.sessionId horigin
    have hsave : ∀ {s : Store}, s.Shows state v → (Storage.refusing now refusal).save t.state s =
        (.ok next, s.withSession next) := by
      intro s hs
      have hrow : ∃ row, s.sessions.get? t.state.sessionId = some row ∧
          row.revision = t.state.revision := by
        refine ⟨.ofState state, by rw [hsession, hs.row], ?_⟩
        exact (congrArg Origin.revision horigin).symm
      unfold Storage.refusing
      rw [hrefusal]
      show Storage.attempt s (s.save t.state) = _
      rw [Store.save_eq_ok_iff.2 ⟨hrow, rfl, rfl⟩]
      rfl
    have hshows : ∀ {s : Store}, s.Shows state v → (s.withSession next).Shows next v := by
      intro s hs
      refine Store.shows_withSession ⟨hdated.created, hdated.updated, hdated.log⟩ ?_
      rw [show next.flowId = state.flowId from congrArg Origin.flowId horigin,
        show next.flowVersion = state.flowVersion from congrArg Origin.flowVersion horigin]
      exact hs.version
    rw [hsave h, hsave h']
    exact ⟨rfl, next, hsession, hshows h, hshows h'⟩

/-- A further turn from the same state does the same in both stores. -/
theorem sameRun_proceedFrom (h : s.Shows state v) (h' : s'.Shows state v)
    (inbound : Option Inbound) (client : Script.ClientContext) :
    SameRun state.sessionId v
      ((proceedFrom c.circumstances id inbound client state).run (.refusing now refusal) s)
      ((proceedFrom c.circumstances id inbound client state).run (.refusing now refusal) s') := by
  -- Both stores hand out the same version, so both runs go on alike.
  have hlookup : s'.flow state.flowId (some state.flowVersion) =
      s.flow state.flowId (some state.flowVersion) := by
    unfold Store.flow
    rw [h.version, h'.version]
  have hflow := refusing_flow_congr hlookup now refusal
  unfold proceedFrom
  rw [Procedure.run, Procedure.run, hflow]
  cases (Storage.refusing now refusal).flow state.flowId (some state.flowVersion) s with
  | error e => exact ⟨rfl, state, rfl, h, h'⟩
  | ok flow =>
    cases ht : nextTurn c.circumstances flow state inbound client with
    | error e =>
      simp only [ht]
      exact ⟨rfl, state, rfl, h, h'⟩
    | ok t =>
      simp only [ht]
      obtain ⟨horigin, hdated⟩ := nextTurn_spec ht
      exact sameRun_storeNext h h' horigin (hdated c.representable h.dated) _

/-- Continuing a session does the same in both stores. -/
theorem sameRun_proceed (h : s.Shows state v) (h' : s'.Shows state v)
    (inbound : Option Inbound) (client : Script.ClientContext) :
    SameRun state.sessionId v
      ((proceed c.circumstances state.sessionId inbound client).run (.refusing now refusal) s)
      ((proceed c.circumstances state.sessionId inbound client).run
        (.refusing now refusal) s') := by
  -- Both stores hold the same row, so both lookups end alike.
  have hsession :=
    refusing_session_congr (Store.session_congr (h'.row.trans h.row.symm)) now refusal
  unfold proceed
  rw [Procedure.run, Procedure.run, hsession]
  rcases Storage.refusing_session now refusal s state.sessionId with ⟨e, he⟩ | ⟨old, hold, hok⟩
  · rw [he]
    exact ⟨rfl, state, rfl, h, h'⟩
  · unfold Store.session at hold
    rw [h.row] at hold
    obtain rfl := Store.eq_of_readText h.dated hold
    rw [hok]
    exact sameRun_proceedFrom h h' inbound client

/-- A turn of a session does the same in all stores that show the session alike. -/
theorem Attempt.serve_continues (ha : a.continues id) (h : Alike id v s s') :
    SameRun id v (a.serve s) (a.serve s') := by
  obtain ⟨inbound, client, hserve⟩ := a.exists_proceed ha
  obtain ⟨state, rfl, h, h'⟩ := h
  rw [hserve, hserve]
  obtain ⟨hreply, hstores⟩ := sameRun_proceed (c := a.setting) h h' inbound client
  exact ⟨congrArg (Except.map Reply.advanced) hreply, hstores⟩

/-- A turn of a session that has not begun fails. -/
theorem Attempt.serve_vacant (ha : a.continues id) :
    ∃ e, ∀ s : Store, s.sessions.get? id = none → a.serve s = (.error e, s) := by
  -- The lookup of the session fails, whether it is refused or finds nothing.
  obtain ⟨inbound, client, hserve⟩ := a.exists_proceed ha
  refine ⟨⟨.store ((a.refusal .session).getD (.sessionNotFound id)), none⟩, fun s hs => ?_⟩
  have hsession : (Storage.refusing a.now a.refusal).session id s =
      .error ((a.refusal .session).getD (.sessionNotFound id)) := by
    unfold Storage.refusing
    cases a.refusal .session with
    | some e => rfl
    | none =>
      show s.session id = _
      unfold Store.session
      rw [hs]
      rfl
  rw [hserve]
  unfold proceed
  rw [Procedure.run, hsession]
  rfl

/-- Two runs end with the same result, and if it is a success in stores that show a session
alike. -/
def SameStart {α : Type} (id : String) (run run' : Except Failure α × Store) : Prop :=
  run.1 = run'.1 ∧ ∀ result, run.1 = .ok result → ∃ v, Alike id v run.2 run'.2

/-- Two runs that fail with the same error start nothing. -/
theorem sameStart_of_error {α : Type} {run run' : Except Failure α × Store} {e : Failure}
    (h : run.1 = .error e) (h' : run'.1 = .error e) : SameStart id run run' := by
  refine ⟨h.trans h'.symm, fun result hresult => ?_⟩
  rw [h] at hresult
  cases hresult

/-- A first turn is stored in both stores, or in none. -/
theorem sameStart_storeFirst (hdated : t.state.Dated)
    (h : s.sessions.get? t.state.sessionId = none)
    (h' : s'.sessions.get? t.state.sessionId = none)
    (hversion : s.select? t.state.flowId (some t.state.flowVersion) = some v)
    (hversion' : s'.select? t.state.flowId (some t.state.flowVersion) = some v) :
    SameStart t.state.sessionId ((storeFirst c.circumstances t).run (.refusing now refusal) s)
      ((storeFirst c.circumstances t).run (.refusing now refusal) s') := by
  -- The insert is refused in both stores, or it succeeds in both.
  unfold storeFirst
  rw [Procedure.run, Procedure.run]
  cases hrefusal : refusal .insert with
  | some e =>
    unfold Storage.refusing
    rw [hrefusal]
    exact sameStart_of_error rfl rfl
  | none =>
    have hinsert : ∀ {s : Store}, s.sessions.get? t.state.sessionId = none →
        s.select? t.state.flowId (some t.state.flowVersion) = some v →
        (Storage.refusing now refusal).insert t.state s = (.ok (), s.withSession t.state) := by
      intro s hvacant hv
      unfold Storage.refusing
      rw [hrefusal]
      show Storage.attempt s ((s.insert t.state).map _) = _
      rw [Store.insert_eq_ok_iff.2 ⟨hvacant, by rw [hv]; rfl, rfl⟩]
      rfl
    rw [hinsert h hversion, hinsert h' hversion']
    exact ⟨rfl, fun _ _ => ⟨v, t.state, rfl, Store.shows_withSession hdated hversion,
      Store.shows_withSession hdated hversion'⟩⟩

/-- Beginning a session does the same in both stores if they have the same versions of its flow. -/
theorem sameStart_start (hversions : s.versions flowId = s'.versions flowId)
    (h : s.sessions.get? c.circumstances.freshSessionId = none)
    (h' : s'.sessions.get? c.circumstances.freshSessionId = none) (version : Option Int)
    (inbound : Option Inbound) (client : Script.ClientContext) :
    SameStart c.circumstances.freshSessionId
      ((start c.circumstances flowId version inbound client).run (.refusing now refusal) s)
      ((start c.circumstances flowId version inbound client).run (.refusing now refusal) s') := by
  -- Both stores select the same version; from there on the turn does not look at them.
  have hflow := refusing_flow_congr (Store.flow_congr hversions version).symm now refusal
  unfold start
  rw [Procedure.run, Procedure.run, hflow]
  rcases Storage.refusing_flow now refusal s flowId version with ⟨e, he⟩ | ⟨flow, hlookup, hok⟩
  · rw [he]
    exact sameStart_of_error rfl rfl
  · rw [hok]
    cases ht : firstTurn c.circumstances flow inbound client with
    | error e =>
      simp only [ht]
      exact sameStart_of_error rfl rfl
    | ok t =>
      simp only [ht]
      obtain ⟨horigin, hdated⟩ := firstTurn_spec ht
      obtain ⟨rfl, -, hkept, -⟩ := Store.flow_pinned hlookup
      obtain ⟨v, hv⟩ := Option.isSome_iff_exists.1 hkept
      have hsession : t.state.sessionId = c.circumstances.freshSessionId :=
        congrArg Origin.sessionId horigin
      have hversion : s.select? t.state.flowId (some t.state.flowVersion) = some v := by
        rw [show t.state.flowId = flow.flowId from congrArg Origin.flowId horigin,
          show t.state.flowVersion = flow.version from congrArg Origin.flowVersion horigin, hv]
      have hversion' : s'.select? t.state.flowId (some t.state.flowVersion) = some v := by
        rw [← hversion, show t.state.flowId = flow.flowId from congrArg Origin.flowId horigin]
        unfold Store.select?
        rw [hversions]
      rw [← hsession] at h h' ⊢
      exact sameStart_storeFirst (hdated c.begun c.representable) h h' hversion hversion'

/-- A session begins in the same way in all stores that have the same versions of its flow. -/
theorem Attempt.serve_begins (ha : a.begins id flowId)
    (hversions : s.versions flowId = s'.versions flowId) (h : s.sessions.get? id = none)
    (h' : s'.sessions.get? id = none) : SameStart id (a.serve s) (a.serve s') := by
  obtain ⟨rfl, version, inbound, client, hserve⟩ := a.exists_start ha
  rw [hserve, hserve]
  obtain ⟨hreply, hstores⟩ := sameStart_start hversions h h' version inbound client
  refine ⟨congrArg (Except.map Reply.advanced) hreply, fun reply hok => ?_⟩
  -- A reply is one to the turn, so the turn itself succeeds.
  unfold advanced at hok
  cases hrun : ((start a.setting.circumstances flowId version inbound client).run
      (.refusing a.now a.refusal) s).1 with
  | error e =>
    rw [hrun] at hok
    cases hok
  | ok result => exact hstores result hrun

/-- A session that begins has an id that no other one has. -/
theorem Attempt.vacant_of_begins {reply : Reply} (ha : a.begins id flowId)
    (h : (a.serve s).1 = .ok reply) : s.sessions.get? id = none := by
  obtain ⟨rfl, version, inbound, client, hserve⟩ := a.exists_start ha
  rw [hserve] at h
  rcases run_start a.setting.circumstances flowId version inbound client a.now a.refusal s with
    ⟨cause, hrun⟩ | ⟨flow, t, -, ht, hvacant, -⟩
  · rw [hrun] at h
    cases h
  · rwa [show t.state.sessionId = a.setting.circumstances.freshSessionId from
      congrArg Origin.sessionId (firstTurn_spec ht).1] at hvacant

/-- Publishing under a flow makes the same of its versions in all stores that have the same, and
leaves the sessions alone. -/
theorem Attempt.serve_publishes (ha : a.publishes flowId)
    (hversions : s.versions flowId = s'.versions flowId) :
    (a.serve s).2.versions flowId = (a.serve s').2.versions flowId ∧
      (a.serve s).2.sessions = s.sessions := by
  -- Only publishing is meant, and it looks at the versions alone.
  obtain ⟨c, request, now, refusal⟩ := a
  cases request with
  | publish given d =>
    obtain rfl : given.getD c.circumstances.freshFlowId = flowId := by
      simpa [publishes] using ha
    unfold serve Request.serve
    dsimp only
    rw [Procedure.run_map, Procedure.run_map]
    unfold publish
    split
    · rw [Procedure.run, Procedure.run]
      unfold Storage.refusing
      cases refusal .publish with
      | some e => exact ⟨hversions, rfl⟩
      | none => exact ⟨(Store.publish_congr hversions now d).2, (s.extends_publish _ _ d).2⟩
    · exact ⟨hversions, rfl⟩
  | turn r => cases ha
  | showFlow flowId version => cases ha
  | showSession id => cases ha

/-! ### Without the requests of others -/

/-- What the beginning of a session may depend on: publications under its flow. Turns of the session
count as well, though they fail before it has begun. -/
def Attempt.concerns (id flowId : String) (a : Attempt) : Bool :=
  a.publishes flowId || a.continues id

/-- Before a session begins, the versions of its flow are the same without other requests. -/
theorem versions_served (hs : s.Sound) (hversions : s.versions flowId = s'.versions flowId)
    (attempts : List Attempt) (h : (served s attempts).sessions.get? id = none)
    (h' : s'.sessions.get? id = none) :
    let s' := served s' (attempts.filter (·.concerns id flowId))
    (served s attempts).versions flowId = s'.versions flowId ∧ s'.sessions.get? id = none := by
  induction attempts generalizing s s' with
  | nil => exact ⟨hversions, h'⟩
  | cons a rest ih =>
    have hvacant : s.sessions.get? id = none := vacant_of_served hs h
    rw [List.filter_cons, served_cons]
    -- A publication does the same in both stores, a turn of the session fails, and all other
    -- requests leave the versions of the flow alone.
    by_cases hpublishes : a.publishes flowId
    · obtain ⟨hsame, -⟩ := a.serve_publishes hpublishes hversions
      obtain ⟨-, hsessions⟩ := a.serve_publishes hpublishes hversions.symm
      rw [if_pos (by simp [Attempt.concerns, hpublishes]), served_cons]
      exact ih (a.sound_serve hs) hsame h (by rwa [hsessions])
    · have hkept := a.versions_serve hs (by simpa using hpublishes)
      by_cases hcontinues : a.continues id
      · obtain ⟨e, he⟩ := a.serve_vacant hcontinues
        rw [if_pos (by simp [Attempt.concerns, hcontinues]), served_cons, he s' h']
        exact ih (a.sound_serve hs) (hkept.trans hversions) h h'
      · rw [if_neg (by simp [Attempt.concerns, hpublishes, hcontinues])]
        exact ih (a.sound_serve hs) (hkept.trans hversions) h h'

/-- After a session has begun, it is shown alike without other requests. -/
theorem alike_served (hs : s.Sound) (h : Alike id v s s') (attempts : List Attempt) :
    Alike id v (served s attempts) (served s' (attempts.filter (·.continues id))) := by
  induction attempts generalizing s s' with
  | nil => exact h
  | cons a rest ih =>
    rw [List.filter_cons, served_cons]
    -- A turn of the session does the same in both stores; others change nothing that it sees.
    by_cases hcontinues : a.continues id
    · rw [if_pos hcontinues, served_cons]
      exact ih (a.sound_serve hs) (a.serve_continues hcontinues h).2
    · obtain ⟨state, rfl, hshows, hshows'⟩ := h
      rw [if_neg hcontinues]
      exact ih (a.sound_serve hs)
        ⟨state, rfl, a.shows_serve hs hshows (by simpa using hcontinues), hshows'⟩

/-- A session goes the same way without the requests of others. Of all requests that come before it
begins only the publications under its flow are kept, and of all that come after only its own turns.
Then its beginning is answered as before; at every later point its row is the same, and its next
turn is answered as before. Before it begins there is no row of it, and turns of it fail alike. -/
theorem sessions_are_isolated {before : List Attempt} {start : Attempt} {id flowId : String}
    {reply : Reply} (hstart : start.begins id flowId)
    (hreply : (start.serve (served {} before)).1 = .ok reply) :
    (∀ front, front <+: before →
      let full := served {} front
      let alone := served {} (front.filter (·.concerns id flowId))
      full.sessions.get? id = none ∧ alone.sessions.get? id = none ∧
        ∀ a : Attempt, a.continues id → (a.serve alone).1 = (a.serve full).1) ∧
    (start.serve (served {} (before.filter (·.concerns id flowId)))).1 = .ok reply ∧
    ∀ after,
      let full := served {} (before ++ start :: after)
      let alone := served {}
        (before.filter (·.concerns id flowId) ++ start :: after.filter (·.continues id))
      (full.sessions.get? id).isSome ∧ alone.sessions.get? id = full.sessions.get? id ∧
        ∀ a : Attempt, a.continues id → (a.serve alone).1 = (a.serve full).1 := by
  have hsound : ∀ attempts, (served {} attempts).Sound := sound_served Store.sound_empty
  -- Since the session could begin, it had no row at any earlier point.
  have hvacant : (served {} before).sessions.get? id = none := start.vacant_of_begins hstart hreply
  have hfresh : ({} : Store).versions flowId = ({} : Store).versions flowId := rfl
  have hbefore := versions_served Store.sound_empty hfresh before hvacant rfl
  obtain ⟨hsame, halike⟩ := start.serve_begins hstart hbefore.1 hvacant hbefore.2
  refine ⟨fun front hfront => ?_, hsame.symm.trans hreply, fun after => ?_⟩
  · obtain ⟨rest, rfl⟩ := hfront
    rw [served_append] at hvacant
    have hfull : (served {} front).sessions.get? id = none :=
      vacant_of_served (hsound front) hvacant
    have halone := (versions_served Store.sound_empty hfresh front hfull rfl).2
    refine ⟨hfull, halone, fun a ha => ?_⟩
    obtain ⟨e, he⟩ := a.serve_vacant ha
    rw [he _ hfull, he _ halone]
  · obtain ⟨v, hbegun⟩ := halike reply hreply
    rw [served_append, served_append, served_cons, served_cons]
    have hafter := alike_served (start.sound_serve (hsound before)) hbegun after
    refine ⟨?_, ?_, fun a ha => (a.serve_continues ha hafter).1.symm⟩
    · obtain ⟨state, rfl, hshows, -⟩ := hafter
      rw [hshows.row]
      rfl
    · obtain ⟨state, rfl, hshows, hshows'⟩ := hafter
      exact hshows'.row.trans hshows.row.symm

/-! ### A short run -/

namespace Reception

/-- A flow that asks for a name. -/
def flow : Flow.Definition where
  containers := [⟨"desk", [⟨"name", .input .text {}⟩]⟩]

/-- A setting in which the next session is of a guest. -/
def setting : Setting where
  circumstances :=
    { settings := {}, patterns := .refusing, begunAt := ⟨0, 0⟩, now := ⟨0, 0⟩
      elapsed := fun _ _ => 0, token := fun _ => "", freshSessionId := "guest", freshFlowId := "g" }
  begun := by constructor <;> decide
  representable := by constructor <;> decide

/-- A request that no call is refused for. -/
def attempt (request : Request) : Attempt := ⟨setting, request, ⟨0, 0⟩, fun _ => none⟩

/-- The flow is published. -/
def opening : Attempt := attempt (.publish (some "f") flow)

/-- The guest arrives. -/
def arrival : Attempt := attempt (.turn { flowId := some "f" })

/-- Another flow is published in its place. -/
def change : Attempt := attempt (.publish (some "f") Invitation.flow)

end Reception

/-- The guest at the reception does not notice that the flow is replaced. -/
theorem sessions_are_isolated_reception :
    Reception.arrival.begins "guest" "f" ∧
      (∃ reply, (Reception.arrival.serve (served {} [Reception.opening])).1 = .ok reply) ∧
      (served {} [Reception.opening, Reception.arrival]).sessions.get? "guest" =
        (served {} [Reception.opening, Reception.arrival, Reception.change]).sessions.get?
          "guest" := by
  -- The start is computed; what the other request cannot change is the theorem's.
  have hbegins : Reception.arrival.begins "guest" "f" := by decide
  have hsucceeds : ((Reception.arrival.serve (served {} [Reception.opening])).1).isOk := by
    decide +kernel
  obtain ⟨reply, hreply⟩ : ∃ reply,
      (Reception.arrival.serve (served {} [Reception.opening])).1 = .ok reply := by
    cases hserve : (Reception.arrival.serve (served {} [Reception.opening])).1 with
    | ok reply => exact ⟨reply, rfl⟩
    | error e =>
      rw [hserve] at hsucceeds
      cases hsucceeds
  have hisolated := (sessions_are_isolated hbegins hreply).2.2 [Reception.change]
  exact ⟨hbegins, ⟨reply, hreply⟩, hisolated.2.1⟩

end Service

end Dialogue
