import Dialogue.Proofs.Service.Calls

namespace Dialogue.Service

open Session

/-!
# No turn is lost, and none is done twice

However the calls of requests come between each other, the states that are stored of a session form
a chain: each of them is the result of one turn on the one before it, and has the next revision.

* `Link`: a state that is stored, and the request that stored it.
* `Chain`: the states of a session follow one another by turns.
* `Stage`: how far the service of a request has come.
* `Recorded`: the invariant: the chains of all sessions tell what is in the store, and each request
  has got as far as they tell.
* `Recorded.handle`, `Recorded.run`: every event keeps them so, and every run.
* `sessions_are_chains`: what is stored on a fresh server, and what of it the replies tell.
-/

/-! ### Turns of requests -/

variable {c : Circumstances} {flow : Store.Published} {inbound : Option Inbound}
  {client : Script.ClientContext} {state : State} {t : Turn}

/-- What a session is begun with. -/
def beginning (c : Circumstances) (flow : Store.Published) : Origin where
  sessionId := c.freshSessionId
  flowId := flow.flowId
  flowVersion := flow.version
  revision := 0
  createdAt := c.begunAt

/-- A turn that is reported as a success was one. -/
theorem run_of_mapError {step : Except Abort Turn}
    (h : step.mapError Abort.error = .ok t) : step = .ok t := by
  cases step with
  | error a => cases h
  | ok t' => exact congrArg Except.ok (Except.ok.inj h)

/-- The first turn of a session keeps what the session is begun with. -/
theorem firstTurn_spec (h : firstTurn c flow inbound client = .ok t) :
    t.state.origin = beginning c flow ∧
      (c.begunAt.Representable → c.now.Representable → t.state.Dated) := by
  unfold firstTurn at h
  cases hbegin : State.begin (Flow.Graph.ofDefinition flow.definition) c.freshSessionId flow.flowId
      flow.version c.begunAt with
  | error e => simp [hbegin, bind, Except.bind] at h
  | ok first =>
    obtain ⟨start, -, rfl⟩ := State.begin_eq_ok_iff.1 hbegin
    simp only [hbegin, bind, Except.bind] at h
    have hrun := run_of_mapError h
    refine ⟨Turn.run_origin hrun, fun hbegun hnow => ?_⟩
    exact Turn.run_dated ⟨hbegun, hbegun, fun e he => by cases he⟩ hnow hrun

/-- A further turn keeps what the session was begun with. -/
theorem nextTurn_spec (h : nextTurn c flow state inbound client = .ok t) :
    t.state.origin = state.origin ∧
      (c.now.Representable → state.Dated → t.state.Dated) := by
  unfold nextTurn at h
  have hrun := run_of_mapError h
  exact ⟨Turn.run_origin hrun, fun hnow hs => Turn.run_dated hs hnow hrun⟩

/-! ### Chains -/

/-- A state that is stored, and the request that stored it. -/
structure Link where
  job : Nat
  state : State

/-- The row of a link. -/
def Link.write (l : Link) : Nat × Store.Row := (l.job, .ofState l.state)

/-- A state is the result of the first turn of a session, on a version of a flow that is kept. -/
def Link.Begins (s : Server) (l : Link) : Prop :=
  ∃ j r flow t, s.jobs[l.job]? = some j ∧ j.request = .turn r ∧ r.sessionId = none ∧
    r.flowId = some flow.flowId ∧ (∀ n, r.version = some n → flow.version = n) ∧
    s.store.flow flow.flowId (some flow.version) = .ok flow ∧
    firstTurn j.setting.circumstances flow r.inbound r.client = .ok t ∧ l.state = t.state

/-- A state is the result of a turn on another state of the session, on the version of the flow that
the session is pinned to, but for the revision that is counted up. -/
def Link.Follows (s : Server) (id : String) (l before : Link) : Prop :=
  ∃ j r flow t, s.jobs[l.job]? = some j ∧ j.request = .turn r ∧ r.sessionId = some id ∧
    s.store.flow before.state.flowId (some before.state.flowVersion) = .ok flow ∧
    nextTurn j.setting.circumstances flow before.state r.inbound r.client = .ok t ∧
    l.state = { t.state with revision := before.state.revision + 1 }

/-- A state is the first one of its session, or the result of a turn on the last one. -/
inductive Link.Joins (s : Server) (links : List Link) (l : Link) : Prop
  | first (hnil : links = []) (hrevision : l.state.revision = 0) (h : l.Begins s)
  | next {before} (hlast : links.getLast? = some before)
    (h : l.Follows s l.state.sessionId before)

/-- The states of a session follow one another by turns, and are counted by their revisions. -/
structure Chain (s : Server) (id : String) (links : List Link) : Prop where
  sessionId : ∀ l ∈ links, l.state.sessionId = id
  revision : ∀ (k : Nat) l, links[k]? = some l → l.state.revision = k
  first : ∀ l, links[0]? = some l → l.Begins s
  next : ∀ (k : Nat) before l, links[k]? = some before → links[k + 1]? = some l →
    l.Follows s id before

/-- A server knows the requests and versions that another one knows. -/
structure Server.Extends (s' s : Server) : Prop where
  store : s'.store.Extends s.store
  jobs : ∀ (i : Nat) j, s.jobs[i]? = some j →
    ∃ rest, s'.jobs[i]? = some { j with rest }

variable {s s' : Server} {id : String} {links : List Link} {l before : Link}

/-- Where a session began stays so while others go on. -/
theorem Link.Begins.extend (h : l.Begins s) (he : s'.Extends s) : l.Begins s' := by
  obtain ⟨j, r, flow, t, hj, hr, hid, hflowId, hversion, hflow, ht, hstate⟩ := h
  obtain ⟨rest, hj'⟩ := he.jobs l.job j hj
  exact ⟨_, r, flow, t, hj', hr, hid, hflowId, hversion, he.store.flow hflow, ht, hstate⟩

/-- What a turn was made of stays so while others go on. -/
theorem Link.Follows.extend (h : l.Follows s id before) (he : s'.Extends s) :
    l.Follows s' id before := by
  obtain ⟨j, r, flow, t, hj, hr, hid, hflow, ht, hstate⟩ := h
  obtain ⟨rest, hj'⟩ := he.jobs l.job j hj
  exact ⟨_, r, flow, t, hj', hr, hid, he.store.flow hflow, ht, hstate⟩

namespace Chain

/-- Nothing is a chain of any session. -/
theorem nil (s : Server) (id : String) : Chain s id [] := by
  constructor <;> simp

/-- A chain stays one when the store grows. -/
theorem extend (h : Chain s id links) (he : s'.Extends s) : Chain s' id links where
  sessionId := h.sessionId
  revision := h.revision
  first := fun l hl => (h.first l hl).extend he
  next := fun k before l hb hl => (h.next k before l hb hl).extend he

/-- The first link of a session that is not yet stored. -/
theorem singleton (hid : l.state.sessionId = id) (hrevision : l.state.revision = 0)
    (hl : l.Begins s) : Chain s id [l] where
  sessionId := by simpa using hid
  revision := by
    intro k m hm
    obtain ⟨rfl, rfl⟩ : k = 0 ∧ l = m := by simpa [List.getElem?_singleton] using hm
    exact hrevision
  first := by
    intro m hm
    obtain rfl : l = m := by simpa using hm
    exact hl
  next := by
    intro k before m _ hm
    simp at hm

/-- The revision of the last link. -/
theorem length_of_getLast? (h : Chain s id links) (hlast : links.getLast? = some before) :
    links[links.length - 1]? = some before ∧ before.state.revision + 1 = links.length := by
  have hget : links[links.length - 1]? = some before := by
    rw [← List.getLast?_eq_getElem?, hlast]
  have hrevision := h.revision _ _ hget
  have hlt := (List.getElem?_eq_some_iff.1 hget).1
  exact ⟨hget, by omega⟩

/-- A place in a list with one more item. -/
theorem getElem?_concat {k : Nat} {m : Link} (h : (links ++ [l])[k]? = some m) :
    links[k]? = some m ∨ k = links.length ∧ m = l := by
  rcases Nat.lt_or_ge k links.length with hk | hk
  · rw [List.getElem?_append_left hk] at h
    exact .inl h
  · rw [List.getElem?_append_right hk, List.getElem?_singleton] at h
    split at h
    · exact .inr ⟨by omega, (Option.some.inj h).symm⟩
    · cases h

/-- A link after the last one. -/
theorem append (h : Chain s id links) (hlast : links.getLast? = some before)
    (hid : l.state.sessionId = id) (hl : l.Follows s id before) : Chain s id (links ++ [l]) := by
  obtain ⟨hget, hlength⟩ := h.length_of_getLast? hlast
  have hlt := (List.getElem?_eq_some_iff.1 hget).1
  -- The last link has the revision one below the length, and the new one counts on from it.
  have hlrevision : l.state.revision = links.length := by
    obtain ⟨j, r, flow, t, -, -, -, -, -, hstate⟩ := hl
    rw [hstate, ← hlength]
  refine ⟨fun m hm => ?_, fun k m hm => ?_, fun m hm => ?_, fun k b m hb hm => ?_⟩
  · rcases List.mem_append.1 hm with hm | hm
    · exact h.sessionId m hm
    · rwa [List.mem_singleton.1 hm]
  · rcases getElem?_concat hm with hm | ⟨rfl, rfl⟩
    · exact h.revision k m hm
    · exact hlrevision
  · rcases getElem?_concat hm with hm | ⟨hzero, -⟩
    · exact h.first m hm
    · omega
  · rcases getElem?_concat hm with hm | ⟨hk, rfl⟩
    · rw [List.getElem?_append_left (by have := (List.getElem?_eq_some_iff.1 hm).1; omega)] at hb
      exact h.next k b m hb hm
    · rw [List.getElem?_append_left (by omega), show k = links.length - 1 by omega, hget] at hb
      obtain rfl := Option.some.inj hb
      exact hl

/-- A link that joins the others. -/
theorem concat (h : Chain s id links) (hid : l.state.sessionId = id) (hl : l.Joins s links) :
    Chain s id (links ++ [l]) := by
  subst hid
  cases hl with
  | first hnil hrevision hbegins =>
    rw [hnil]
    exact .singleton rfl hrevision hbegins
  | next hlast hfollows => exact h.append hlast rfl hfollows

/-- A state with the revision of the last link is the last link's. -/
theorem eq_last (h : Chain s id links) (hlast : links.getLast? = some before) (hl : l ∈ links)
    (hrevision : before.state.revision = l.state.revision) : before = l := by
  obtain ⟨hget, hlength⟩ := h.length_of_getLast? hlast
  obtain ⟨k, hk⟩ := List.getElem?_of_mem hl
  have hkrevision := h.revision k l hk
  have hindex : k = links.length - 1 := by omega
  rw [hindex, hget] at hk
  exact Option.some.inj hk

/-- All states of a session are on the version of the flow that the first one is on, and tell the
same time of its beginning. -/
theorem origin_eq {first : Link} (h : Chain s id links) (hfirst : links.head? = some first)
    (hl : l ∈ links) :
    l.state.origin = { first.state.origin with revision := l.state.revision } := by
  obtain ⟨k, hk⟩ := List.getElem?_of_mem hl
  rw [List.head?_eq_getElem?] at hfirst
  -- Each turn keeps what the session was begun with but for its revision, so the induction is on
  -- the number of turns before the link.
  induction k generalizing l with
  | zero =>
    obtain rfl : first = l := Option.some.inj (hfirst.symm.trans hk)
    rfl
  | succ k ih =>
    have hlt := (List.getElem?_eq_some_iff.1 hk).1
    have hbefore : links[k]? = some links[k] := List.getElem?_eq_getElem (by omega)
    have horigin := ih (List.getElem_mem _) hbefore
    obtain ⟨j, r, flow, t, -, -, -, -, ht, hstate⟩ := h.next k links[k] l hbefore hk
    calc l.state.origin
        = { t.state.origin with revision := l.state.revision } := by rw [hstate]; rfl
      _ = { links[k].state.origin with revision := l.state.revision } := by
          rw [(nextTurn_spec ht).1]
      _ = { first.state.origin with revision := l.state.revision } := by rw [horigin]

/-- The request of a link has come in. -/
theorem job_lt (h : Chain s id links) (hl : l ∈ links) : l.job < s.jobs.length := by
  obtain ⟨k, hk⟩ := List.getElem?_of_mem hl
  cases k with
  | zero =>
    obtain ⟨j, r, flow, t, hj, -⟩ := h.first l hk
    exact (List.getElem?_eq_some_iff.1 hj).1
  | succ k =>
    have hlt := (List.getElem?_eq_some_iff.1 hk).1
    obtain ⟨j, r, flow, t, hj, -⟩ :=
      h.next k links[k] l (List.getElem?_eq_getElem (by omega)) hk
    exact (List.getElem?_eq_some_iff.1 hj).1

end Chain

/-! ### Requests in service -/

/-- The links of all sessions. -/
abbrev Ledger := String → List Link

namespace Ledger

/-- A request has stored nothing. -/
def Lacks (ledger : Ledger) (i : Nat) : Prop :=
  ∀ id, i ∉ (ledger id).map Link.job

/-- A request has stored one state of one session. -/
def HasOnce (ledger : Ledger) (i : Nat) (id : String) : Prop :=
  ((ledger id).map Link.job).count i = 1 ∧ ∀ other, other ≠ id → i ∉ (ledger other).map Link.job

/-- A ledger goes on without a request having a part in it. -/
def Grows (ledger' ledger : Ledger) (i : Nat) : Prop :=
  ∀ id, ∃ added, ledger' id = ledger id ++ added ∧ i ∉ added.map Link.job

variable {ledger ledger' : Ledger} {i : Nat}

/-- A ledger grows into itself. -/
theorem Grows.refl (ledger : Ledger) (i : Nat) : ledger.Grows ledger i :=
  fun _ => ⟨[], (List.append_nil _).symm, by simp⟩

/-- A request that has stored nothing has still stored nothing. -/
theorem Grows.lacks (h : ledger'.Grows ledger i) (hi : ledger.Lacks i) : ledger'.Lacks i := by
  intro id hmem
  obtain ⟨added, hadded, hno⟩ := h id
  rw [hadded, List.map_append] at hmem
  rcases List.mem_append.1 hmem with hmem | hmem
  · exact hi id hmem
  · exact hno hmem

/-- A request that has stored one state has stored no other one. -/
theorem Grows.hasOnce (h : ledger'.Grows ledger i) (hi : ledger.HasOnce i id) :
    ledger'.HasOnce i id := by
  refine ⟨?_, fun other hother hmem => ?_⟩
  · obtain ⟨added, hadded, hno⟩ := h id
    rw [hadded, List.map_append, List.count_append, hi.1, List.count_eq_zero.2 hno]
  · obtain ⟨added, hadded, hno⟩ := h other
    rw [hadded, List.map_append] at hmem
    rcases List.mem_append.1 hmem with hmem | hmem
    · exact hi.2 other hother hmem
    · exact hno hmem

/-- A link that is in the ledger stays in it. -/
theorem Grows.mem (h : ledger'.Grows ledger i) (hl : l ∈ ledger id) : l ∈ ledger' id := by
  obtain ⟨added, hadded, -⟩ := h id
  rw [hadded]
  exact List.mem_append_left _ hl

/-- A ledger with one more link. -/
def add (ledger : Ledger) (l : Link) : Ledger :=
  fun id => if id = l.state.sessionId then ledger id ++ [l] else ledger id

/-- A new link comes last among those of its session. -/
theorem add_self (ledger : Ledger) (l : Link) :
    ledger.add l l.state.sessionId = ledger l.state.sessionId ++ [l] := if_pos rfl

/-- The links of other sessions are not touched. -/
theorem add_ne (h : id ≠ l.state.sessionId) : ledger.add l id = ledger id := if_neg h

/-- A new link is no part of what other requests have stored. -/
theorem grows_add (h : i ≠ l.job) : (ledger.add l).Grows ledger i := by
  intro id
  by_cases hid : id = l.state.sessionId
  · subst hid
    exact ⟨[l], add_self ledger l, by simpa using h⟩
  · exact ⟨[], by rw [add_ne hid, List.append_nil], by simp⟩

/-- The first link of a request is its only one. -/
theorem hasOnce_add (h : ledger.Lacks l.job) : (ledger.add l).HasOnce l.job l.state.sessionId := by
  constructor
  · rw [add_self, List.map_append, List.count_append, List.count_eq_zero.2 (h _)]
    simp
  · intro other hother
    rw [add_ne hother]
    exact h other

end Ledger

/-- How far the service of a request has come. -/
inductive Stage (store : Store) (ledger : Ledger) (i : Nat) : Job → Prop
  /-- Nothing has been done for it. -/
  | waiting {c r} (h : ledger.Lacks i) : Stage store ledger i ⟨c, r, r.serve c.circumstances⟩
  /-- The session has been looked up. -/
  | loaded {c r id l} (h : ledger.Lacks i) (hid : r.sessionId = some id) (hl : l ∈ ledger id) :
    Stage store ledger i ⟨c, .turn r,
      (proceedFrom c.circumstances id r.inbound r.client l.state).map (Except.map .advanced)⟩
  /-- A further turn has been made, and is not yet stored. -/
  | turned {c r id l flow t} (h : ledger.Lacks i) (hid : r.sessionId = some id)
    (hl : l ∈ ledger id)
    (hflow : store.flow l.state.flowId (some l.state.flowVersion) = .ok flow)
    (ht : nextTurn c.circumstances flow l.state r.inbound r.client = .ok t) :
    Stage store ledger i ⟨c, .turn r,
      (storeNext id l.state.waitingFor t).map (Except.map .advanced)⟩
  /-- A first turn has been made, and is not yet stored. -/
  | begun {c r flow t} (h : ledger.Lacks i) (hid : r.sessionId = none)
    (hflowId : r.flowId = some flow.flowId) (hversion : ∀ n, r.version = some n → flow.version = n)
    (hflow : store.flow flow.flowId (some flow.version) = .ok flow)
    (ht : firstTurn c.circumstances flow r.inbound r.client = .ok t) :
    Stage store ledger i ⟨c, .turn r, (storeFirst c.circumstances t).map (Except.map .advanced)⟩
  | failed {c r e} (h : ledger.Lacks i) : Stage store ledger i ⟨c, r, .done (.error e)⟩
  | advanced {c r reply} (h : ledger.HasOnce i reply.sessionId) :
    Stage store ledger i ⟨c, r, .done (.ok (.advanced reply))⟩
  /-- A request that is no turn is served. -/
  | served {c r reply} (h : ledger.Lacks i) (hno : ∀ a, reply ≠ .advanced a) :
    Stage store ledger i ⟨c, r, .done (.ok reply)⟩

/-- A request stays where it is while others go on. -/
theorem Stage.mono {store store' : Store} {ledger ledger' : Ledger} {i : Nat} {j : Job}
    (h : Stage store ledger i j) (hs : store'.Extends store) (hledger : ledger'.Grows ledger i) :
    Stage store' ledger' i j := by
  -- Each stage says something of the ledger and of versions, and both only grow.
  cases h with
  | waiting h => exact .waiting (hledger.lacks h)
  | loaded h hid hl => exact .loaded (hledger.lacks h) hid (hledger.mem hl)
  | turned h hid hl hflow ht =>
    exact .turned (hledger.lacks h) hid (hledger.mem hl) (hs.flow hflow) ht
  | begun h hid hflowId hversion hflow ht =>
    exact .begun (hledger.lacks h) hid hflowId hversion (hs.flow hflow) ht
  | failed h => exact .failed (hledger.lacks h)
  | advanced h => exact .advanced (hledger.hasOnce h)
  | served h hno => exact .served (hledger.lacks h) hno

/-- A request that has failed has stored nothing. -/
theorem Stage.lacks_of_error {store : Store} {ledger : Ledger} {i : Nat} {j : Job} {e : Failure}
    (h : Stage store ledger i j) (hrest : j.rest = .done (.error e)) : ledger.Lacks i := by
  cases h with
  | waiting h | loaded h | turned h | begun h | failed h | served h => exact h
  | advanced h => cases hrest

/-- A turn that has succeeded has stored one state of its session. -/
theorem Stage.hasOnce_of_advanced {store : Store} {ledger : Ledger} {i : Nat} {j : Job}
    {reply : TurnReply} (h : Stage store ledger i j)
    (hrest : j.rest = .done (.ok (.advanced reply))) : ledger.HasOnce i reply.sessionId := by
  cases h with
  | @waiting c r _ =>
    -- The first thing that is done for a turn is a call, or it fails at once.
    exfalso
    cases r with
    | publish flowId d =>
      simp only [Request.serve, publish] at hrest
      split at hrest <;> cases hrest
    | turn r =>
      simp only [Request.serve, turn] at hrest
      split at hrest <;> cases hrest
    | showFlow flowId version => cases hrest
    | showSession id => cases hrest
  | loaded => cases hrest
  | turned => cases hrest
  | begun => cases hrest
  | failed => cases hrest
  | advanced h =>
    cases hrest
    exact h
  | served h hno =>
    cases hrest
    exact absurd rfl (hno reply)

/-- The chains of all sessions tell what is in the store, and each request is at some stage. -/
structure Recorded (s : Server) (ledger : Ledger) : Prop where
  rows : ∀ id, s.store.sessions.get? id = (ledger id).getLast?.map fun l => .ofState l.state
  chain : ∀ id, Chain s id (ledger id)
  dated : ∀ id, ∀ l ∈ ledger id, l.state.Dated
  stage : ∀ (i : Nat) j, s.jobs[i]? = some j → Stage s.store ledger i j

/-- What one call for a request comes to. -/
inductive Progress (s : Server) (ledger : Ledger) (i : Nat) (c : Setting) (r : Request) :
    Serving Reply × Store → Prop
  /-- The sessions are as they were. -/
  | quiet {rest store} (hstore : store.Extends s.store)
    (hsessions : store.sessions = s.store.sessions) (hstage : Stage store ledger i ⟨c, r, rest⟩) :
    Progress s ledger i c r (rest, store)
  /-- The next state of a session is stored, and the request is served. -/
  | stores {state output} (h : ledger.Lacks i) (hdated : state.Dated)
    (hjoins : Link.Joins s (ledger state.sessionId) ⟨i, state⟩) :
    Progress s ledger i c r
      (.done (.ok (.advanced ⟨state.sessionId, output⟩)), s.store.withSession state)

/-- What fails before it writes leaves the store and the chains. -/
theorem Progress.fails {ledger : Ledger} {i : Nat} {c : Setting} {r : Request}
    (h : ledger.Lacks i) (e : Failure) : Progress s ledger i c r (.done (.error e), s.store) :=
  .quiet (.refl _) rfl (.failed h)

/-- What is only shown leaves them too. -/
theorem Progress.shows {ledger : Ledger} {i : Nat} {c : Setting} {r : Request} {reply : Reply}
    (h : ledger.Lacks i) (hno : ∀ a, reply ≠ .advanced a) :
    Progress s ledger i c r (.done (.ok reply), s.store) :=
  .quiet (.refl _) rfl (.served h hno)

namespace Recorded

variable {ledger : Ledger} {i : Nat} {j : Job} {now : Time.Instant}
  {refusal : Call → Option Store.Error}

/-- A session that is looked up is the last one stored. -/
theorem mem_of_session (h : Recorded s ledger) (hs : s.store.session id = .ok state) :
    ∃ l, (ledger id).getLast? = some l ∧ l.state = state := by
  unfold Store.session at hs
  have hrow := h.rows id
  cases hlast : (ledger id).getLast? with
  | none => simp [hrow, hlast] at hs
  | some l =>
    simp only [hrow, hlast, Option.map_some] at hs
    have hdated := h.dated id l (List.mem_of_getLast? hlast)
    exact ⟨l, rfl, (Store.eq_of_readText hdated hs).symm⟩

/-- The call that publishes a flow. -/
theorem progress_publish {c : Setting} (flowId : Option String) (d : Flow.Definition)
    (hlacks : ledger.Lacks i) :
    Progress s ledger i c (.publish flowId d)
      (((Request.publish flowId d).serve c.circumstances).step (.refusing now refusal)
        s.store) := by
  simp only [Request.serve, publish]
  split
  · obtain ⟨hstore, hsessions⟩ :=
      Store.extends_publish s.store now (flowId.getD c.circumstances.freshFlowId) d
    rcases Storage.refusing_publish now refusal s.store
      (flowId.getD c.circumstances.freshFlowId) d with ⟨e, he⟩ | hok
    · rw [Procedure.step_map, Procedure.step, he]
      exact .fails hlacks ⟨.store e, none⟩
    · rw [Procedure.step_map, Procedure.step, hok]
      exact .quiet hstore hsessions (.served hlacks (by simp))
  · exact .fails hlacks ⟨.unpublishable (d.errors c.circumstances.patterns), none⟩

/-- The call that looks up the session of a turn. -/
theorem progress_proceed (h : Recorded s ledger) {c : Setting} {r : TurnRequest} {id : String}
    (hlacks : ledger.Lacks i) (hid : r.sessionId = some id) :
    Progress s ledger i c (.turn r)
      (((Request.turn r).serve c.circumstances).step (.refusing now refusal) s.store) := by
  simp only [Request.serve, turn, hid, proceed]
  rcases Storage.refusing_session now refusal s.store id with ⟨e, he⟩ | ⟨state, hs, hok⟩
  · rw [Procedure.step_map, Procedure.step, he]
    exact .fails hlacks ⟨.store e, none⟩
  · obtain ⟨l, hl, rfl⟩ := h.mem_of_session hs
    rw [Procedure.step_map, Procedure.step, hok]
    exact .quiet (.refl _) rfl (.loaded hlacks hid (List.mem_of_getLast? hl))

/-- The call that looks up the flow of a session to begin, and the first turn on it. -/
theorem progress_start {c : Setting} {r : TurnRequest} {flowId : String} (hlacks : ledger.Lacks i)
    (hid : r.sessionId = none) (hflowId : r.flowId = some flowId) :
    Progress s ledger i c (.turn r)
      (((Request.turn r).serve c.circumstances).step (.refusing now refusal) s.store) := by
  simp only [Request.serve, turn, hid, hflowId, start]
  rcases Storage.refusing_flow now refusal s.store flowId r.version with
    ⟨e, he⟩ | ⟨flow, hflow, hok⟩
  · rw [Procedure.step_map, Procedure.step, he]
    exact .fails hlacks ⟨.store e, none⟩
  · obtain ⟨rfl, hpinned, -, hversion⟩ := Store.flow_pinned hflow
    rw [Procedure.step_map, Procedure.step, hok]
    dsimp only
    split
    · rename_i e _
      exact .fails hlacks ⟨.turn e, none⟩
    · rename_i t ht
      exact .quiet (.refl _) rfl (.begun hlacks hid hflowId hversion hpinned ht)

/-- The first call for a request. -/
theorem progress_waiting (h : Recorded s ledger) {c : Setting} {r : Request}
    (hlacks : ledger.Lacks i) :
    Progress s ledger i c r ((r.serve c.circumstances).step (.refusing now refusal) s.store) := by
  -- One case per request. A turn looks up its session, or the flow that it starts.
  cases r with
  | publish flowId d => exact progress_publish flowId d hlacks
  | showFlow flowId version =>
    simp only [Request.serve, showFlow]
    rcases Storage.refusing_flow now refusal s.store flowId version with ⟨e, he⟩ | ⟨flow, -, hok⟩
    · rw [Procedure.step_map, Procedure.step, he]
      exact .fails hlacks ⟨.store e, none⟩
    · rw [Procedure.step_map, Procedure.step, hok]
      exact .shows hlacks (by simp)
  | showSession id =>
    simp only [Request.serve, showSession]
    rcases Storage.refusing_session now refusal s.store id with ⟨e, he⟩ | ⟨state, -, hok⟩
    · rw [Procedure.step_map, Procedure.step, he]
      exact .fails hlacks ⟨.store e, none⟩
    · rw [Procedure.step_map, Procedure.step, hok]
      exact .shows hlacks (by simp)
  | turn r =>
    cases hid : r.sessionId with
    | some id => exact h.progress_proceed hlacks hid
    | none =>
      cases hflowId : r.flowId with
      | some flowId => exact progress_start hlacks hid hflowId
      | none =>
        simp only [Request.serve, turn, hid, hflowId]
        exact .fails hlacks ⟨.noTarget, none⟩

/-- The call that looks the version of a session up, and the turn on it. -/
theorem progress_loaded {c : Setting} {r : TurnRequest} {id : String}
    {l : Link} (hlacks : ledger.Lacks i) (hid : r.sessionId = some id) (hl : l ∈ ledger id) :
    Progress s ledger i c (.turn r)
      (((proceedFrom c.circumstances id r.inbound r.client l.state).map
        (Except.map Reply.advanced)).step (.refusing now refusal) s.store) := by
  -- The pinned version is looked up, and the turn is run on it.
  unfold proceedFrom
  rcases Storage.refusing_flow now refusal s.store l.state.flowId (some l.state.flowVersion) with
    ⟨e, he⟩ | ⟨flow, hflow, hok⟩
  · rw [Procedure.step_map, Procedure.step, he]
    exact .fails hlacks _
  · rw [Procedure.step_map, Procedure.step, hok]
    dsimp only
    split
    · exact .fails hlacks _
    · rename_i t ht
      exact .quiet (.refl _) rfl (.turned hlacks hid hl hflow ht)

/-- The call that stores a further turn. -/
theorem progress_turned (h : Recorded s ledger) {c : Setting} {r : TurnRequest}
    {rest : Serving Reply} {id : String} {l : Link} {flow : Store.Published} {t : Turn}
    (hlacks : ledger.Lacks i)
    (hj : s.jobs[i]? = some ⟨c, .turn r, rest⟩) (hid : r.sessionId = some id) (hl : l ∈ ledger id)
    (hflow : s.store.flow l.state.flowId (some l.state.flowVersion) = .ok flow)
    (ht : nextTurn c.circumstances flow l.state r.inbound r.client = .ok t) :
    Progress s ledger i c (.turn r)
      (((storeNext id l.state.waitingFor t).map (Except.map Reply.advanced)).step
        (.refusing now refusal) s.store) := by
  obtain ⟨horigin, hdated⟩ := nextTurn_spec ht
  have hsession : t.state.sessionId = id :=
    (congrArg Origin.sessionId horigin).trans ((h.chain id).sessionId l hl)
  have hrevision : t.state.revision = l.state.revision := congrArg Origin.revision horigin
  unfold storeNext
  rcases Storage.refusing_save now refusal s.store t.state with ⟨e, he⟩ | ⟨next, store, hsave, hok⟩
  · rw [Procedure.step_map, Procedure.step, he]
    exact .fails hlacks _
  · obtain ⟨⟨row, hrow, hrowRevision⟩, rfl, rfl⟩ := Store.save_eq_ok_iff.1 hsave
    -- The row that is replaced has the revision of the session that the turn began with, so no
    -- other state was stored in between.
    rw [hsession, h.rows id] at hrow
    obtain ⟨before, hlast, rfl⟩ := Option.map_eq_some_iff.1 hrow
    obtain rfl := (h.chain id).eq_last hlast hl (hrowRevision.trans hrevision)
    subst hsession
    let next : State := { t.state with revision := t.state.revision + 1 }
    have hnext : next.Dated := by
      have hturn := hdated c.representable (h.dated _ before hl)
      exact ⟨hturn.created, hturn.updated, hturn.log⟩
    have hfollows : Link.Follows s next.sessionId ⟨i, next⟩ before := by
      refine ⟨_, r, flow, t, hj, rfl, hid, hflow, ht, ?_⟩
      rw [← hrevision]
    have hstores : Progress s ledger i c (.turn r)
        (.done (.ok (.advanced ⟨next.sessionId, t.output⟩)), s.store.withSession next) :=
      .stores hlacks hnext (.next hlast hfollows)
    rw [Procedure.step_map, Procedure.step, hok]
    exact hstores

/-- The call that stores a first turn. -/
theorem progress_begun (h : Recorded s ledger) {c : Setting} {r : TurnRequest}
    {rest : Serving Reply} {flow : Store.Published} {t : Turn} (hlacks : ledger.Lacks i)
    (hj : s.jobs[i]? = some ⟨c, .turn r, rest⟩) (hid : r.sessionId = none)
    (hflowId : r.flowId = some flow.flowId) (hversion : ∀ n, r.version = some n → flow.version = n)
    (hflow : s.store.flow flow.flowId (some flow.version) = .ok flow)
    (ht : firstTurn c.circumstances flow r.inbound r.client = .ok t) :
    Progress s ledger i c (.turn r)
      (((storeFirst c.circumstances t).map (Except.map Reply.advanced)).step
        (.refusing now refusal) s.store) := by
  obtain ⟨horigin, hdated⟩ := firstTurn_spec ht
  have hsession : t.state.sessionId = c.circumstances.freshSessionId :=
    congrArg Origin.sessionId horigin
  have hrevision : t.state.revision = 0 := congrArg Origin.revision horigin
  unfold storeFirst
  rcases Storage.refusing_insert now refusal s.store t.state with ⟨e, he⟩ | ⟨store, hinsert, hok⟩
  · rw [Procedure.step_map, Procedure.step, he]
    exact .fails hlacks _
  · obtain ⟨hfree, -, rfl⟩ := Store.insert_eq_ok_iff.1 hinsert
    rw [h.rows, Option.map_eq_none_iff, List.getLast?_eq_none_iff] at hfree
    rw [Procedure.step_map, Procedure.step, hok, ← hsession]
    have hbegins : Link.Begins s ⟨i, t.state⟩ :=
      ⟨_, r, flow, t, hj, rfl, hid, hflowId, hversion, hflow, ht, rfl⟩
    exact .stores hlacks (hdated c.begun c.representable) (.first hfree hrevision hbegins)

/-- Every call of a request comes to something. -/
theorem progress (h : Recorded s ledger) (hj : s.jobs[i]? = some j) :
    Progress s ledger i j.setting j.request (j.rest.step (.refusing now refusal) s.store) := by
  have hstage := h.stage i j hj
  cases hstage with
  | waiting hlacks => exact h.progress_waiting hlacks
  | loaded hlacks hid hl => exact progress_loaded hlacks hid hl
  | turned hlacks hid hl hflow ht => exact h.progress_turned hlacks hj hid hl hflow ht
  | begun hlacks hid hflowId hversion hflow ht =>
    exact h.progress_begun hlacks hj hid hflowId hversion hflow ht
  | failed hlacks => exact .fails hlacks _
  | advanced hone => exact .quiet (.refl _) rfl (.advanced hone)
  | served hlacks hno => exact .shows hlacks hno

/-! ### Events -/

/-- The next call of a request leads on from a server to one that extends it. -/
theorem extends_set (hj : s.jobs[i]? = some j) (rest : Serving Reply) {store : Store}
    (hstore : store.Extends s.store) :
    Server.Extends { store, jobs := s.jobs.set i { j with rest } } s where
  store := hstore
  jobs := by
    intro other j' hj'
    by_cases hother : i = other
    · subst hother
      obtain rfl : j = j' := Option.some.inj (hj.symm.trans hj')
      exact ⟨rest, List.getElem?_set_self (List.getElem?_eq_some_iff.1 hj).1⟩
    · refine ⟨j'.rest, ?_⟩
      show (s.jobs.set i _)[other]? = _
      rw [List.getElem?_set_ne hother, hj']

/-- A further request leaves the others where they are. -/
theorem extends_concat (s : Server) (j : Job) :
    Server.Extends { s with jobs := s.jobs ++ [j] } s where
  store := .refl _
  jobs := by
    intro i j' hj'
    refine ⟨j'.rest, ?_⟩
    show (s.jobs ++ [j])[i]? = _
    rw [List.getElem?_append_left (List.getElem?_eq_some_iff.1 hj').1, hj']

/-- The stages of all requests follow from those of the request that was called for and of the
others. -/
theorem stage_set {ledger' : Ledger} {store : Store} {rest : Serving Reply}
    (hcalled : Stage store ledger' i { j with rest })
    (hothers : ∀ (other : Nat) j', i ≠ other → s.jobs[other]? = some j' →
      Stage store ledger' other j') (other : Nat) (j' : Job)
    (hj' : (s.jobs.set i { j with rest })[other]? = some j') : Stage store ledger' other j' := by
  by_cases hother : i = other
  · subst hother
    rw [List.getElem?_set_self' ] at hj'
    obtain ⟨-, -, rfl⟩ := Option.map_eq_some_iff.1 hj'
    exact hcalled
  · rw [List.getElem?_set_ne hother] at hj'
    exact hothers other j' hother hj'

/-- A call that leaves the sessions alone keeps the chains. -/
theorem quiet (h : Recorded s ledger) (hj : s.jobs[i]? = some j) {rest : Serving Reply}
    {store : Store} (hstore : store.Extends s.store) (hsessions : store.sessions = s.store.sessions)
    (hstage : Stage store ledger i { j with rest }) :
    Recorded { store, jobs := s.jobs.set i { j with rest } } ledger where
  rows := by
    intro id
    rw [hsessions]
    exact h.rows id
  chain := fun id => (h.chain id).extend (extends_set hj rest hstore)
  dated := h.dated
  stage := stage_set hstage fun other j' _ hj' =>
    (h.stage other j' hj').mono hstore (Ledger.Grows.refl ledger other)

/-- A call that stores the next state of a session adds a link to its chain. -/
theorem stores (h : Recorded s ledger) (hj : s.jobs[i]? = some j) {output : Output}
    (hlacks : ledger.Lacks i) (hdated : state.Dated)
    (hjoins : Link.Joins s (ledger state.sessionId) ⟨i, state⟩) :
    Recorded
      { store := s.store.withSession state
        jobs := s.jobs.set i
          { j with rest := .done (.ok (.advanced ⟨state.sessionId, output⟩)) } }
      (ledger.add ⟨i, state⟩) where
  rows := by
    intro id
    show (s.store.withSession state).sessions.get? id = _
    rw [Store.get?_withSession]
    by_cases hid : id = state.sessionId
    · subst hid
      rw [if_pos rfl, Ledger.add_self ledger ⟨i, state⟩, List.getLast?_concat]
      rfl
    · rw [if_neg hid, Ledger.add_ne hid]
      exact h.rows id
  chain := by
    intro id
    have hextends := extends_set hj (.done (.ok (.advanced ⟨state.sessionId, output⟩)))
      (s.store.extends_withSession state)
    by_cases hid : id = state.sessionId
    · subst hid
      rw [Ledger.add_self ledger ⟨i, state⟩]
      have hchain : Chain s state.sessionId (ledger state.sessionId ++ [⟨i, state⟩]) :=
        (h.chain state.sessionId).concat rfl hjoins
      exact hchain.extend hextends
    · rw [Ledger.add_ne hid]
      exact (h.chain id).extend hextends
  dated := by
    intro id l hl
    by_cases hid : id = state.sessionId
    · subst hid
      rw [Ledger.add_self ledger ⟨i, state⟩] at hl
      rcases List.mem_append.1 hl with hl | hl
      · exact h.dated _ l hl
      · rw [List.mem_singleton.1 hl]
        exact hdated
    · rw [Ledger.add_ne hid] at hl
      exact h.dated id l hl
  stage := stage_set (.advanced (Ledger.hasOnce_add hlacks)) fun other j' hother hj' =>
    (h.stage other j' hj').mono (s.store.extends_withSession state)
      (Ledger.grows_add (Ne.symm hother))

/-- The requests that have stored something have come in. -/
theorem lacks_next (h : Recorded s ledger) : ledger.Lacks s.jobs.length := by
  intro id hmem
  obtain ⟨l, hl, hjob⟩ := List.mem_map.1 hmem
  have hlt := (h.chain id).job_lt hl
  omega

/-- A request that comes in stores nothing. -/
theorem arrive (h : Recorded s ledger) (c : Setting) (r : Request) :
    Recorded (s.handle (.arrive c r)) ledger where
  rows := h.rows
  chain := fun id => (h.chain id).extend (extends_concat s _)
  dated := h.dated
  stage := by
    intro i j hj
    rcases Nat.lt_or_ge i s.jobs.length with hi | hi
    · rw [Server.handle, List.getElem?_append_left hi] at hj
      exact h.stage i j hj
    · rw [Server.handle, List.getElem?_append_right hi, List.getElem?_singleton] at hj
      split at hj
      · obtain rfl := Option.some.inj hj
        obtain rfl : i = s.jobs.length := by omega
        exact .waiting h.lacks_next
      · cases hj

/-- A call keeps the chains, or adds a link of the request that it is made for. -/
theorem call (h : Recorded s ledger) (i : Nat) (now : Time.Instant)
    (refusal : Call → Option Store.Error) :
    Recorded (s.handle (.call i now refusal)) ledger ∨
      ∃ l, l.job = i ∧ Recorded (s.handle (.call i now refusal)) (ledger.add l) := by
  cases hj : s.jobs[i]? with
  | none =>
    rw [Server.handle, hj]
    exact .inl h
  | some j =>
    have hprogress : Progress s ledger i j.setting j.request
        (j.rest.step (.refusing now refusal) s.store) := h.progress hj
    rw [Server.handle, hj]
    dsimp only
    generalize j.rest.step (.refusing now refusal) s.store = answer at hprogress
    cases hprogress with
    | quiet hstore hsessions hstage => exact .inl (h.quiet hj hstore hsessions hstage)
    | stores hlacks hdated hjoins => exact .inr ⟨_, rfl, h.stores hj hlacks hdated hjoins⟩

/-- The row of a session that gets no link stays as it is. -/
theorem write?_of_eq {ledger' : Ledger} {e : Event} (h : Recorded s ledger)
    (h' : Recorded (s.handle e) ledger') (hid : ledger' id = ledger id) : s.write? id e = none := by
  cases e with
  | arrive c r => rfl
  | call i now refusal => rw [Server.write?, h'.rows, h.rows, hid, if_pos rfl]

/-- The row of a session that gets a link becomes another one, since its revision does. -/
theorem write?_add (h : Recorded s ledger) (hl : l.job = i)
    (h' : Recorded (s.handle (.call i now refusal)) (ledger.add l)) :
    s.write? l.state.sessionId (.call i now refusal) = some l.write := by
  have hchain := h'.chain l.state.sessionId
  rw [Ledger.add_self] at hchain
  have hne : some (Store.Row.ofState l.state) ≠ s.store.sessions.get? l.state.sessionId := by
    rw [h.rows]
    intro heq
    -- The row of the link before it would have its revision, but the chain counts them.
    obtain ⟨before, hlast, hrow⟩ := Option.map_eq_some_iff.1 heq.symm
    have hrevision : before.state.revision = l.state.revision := congrArg Store.Row.revision hrow
    have hlength := ((h.chain _).length_of_getLast? hlast).2
    have hnext := hchain.revision _ l List.getElem?_concat_length
    omega
  rw [Server.write?, h'.rows, Ledger.add_self, List.getLast?_concat, Option.map_some, if_neg hne,
    Option.map_some, Link.write, hl]

/-- An event keeps the chains, which go on by the rows that it stores. -/
theorem handle (h : Recorded s ledger) (e : Event) :
    ∃ ledger', Recorded (s.handle e) ledger' ∧
      ∀ id, (ledger' id).map Link.write = (ledger id).map Link.write ++ (s.write? id e).toList := by
  have hsame : ∀ {e}, Recorded (s.handle e) ledger → ∀ id,
      (ledger id).map Link.write = (ledger id).map Link.write ++ (s.write? id e).toList := by
    intro e h' id
    rw [h.write?_of_eq h' rfl, Option.toList_none, List.append_nil]
  cases e with
  | arrive c r => exact ⟨ledger, h.arrive c r, hsame (h.arrive c r)⟩
  | call i now refusal =>
    rcases h.call i now refusal with h' | ⟨l, hl, h'⟩
    · exact ⟨ledger, h', hsame h'⟩
    · refine ⟨ledger.add l, h', fun id => ?_⟩
      by_cases hid : id = l.state.sessionId
      · subst hid
        rw [h.write?_add hl h', Ledger.add_self, List.map_append]
        rfl
      · rw [h.write?_of_eq h' (Ledger.add_ne hid), Ledger.add_ne hid, Option.toList_none,
          List.append_nil]

/-- The chains of a server after further events. -/
theorem run (h : Recorded s ledger) (events : List Event) :
    ∃ ledger', Recorded (events.foldl Server.handle s) ledger' ∧
      ∀ id, (ledger' id).map Link.write = (ledger id).map Link.write ++ s.writesFrom id events := by
  -- The ledger is extended event by event, so the one that the rest starts from is left open.
  induction events generalizing s ledger with
  | nil => exact ⟨ledger, h, fun id => (List.append_nil _).symm⟩
  | cons e events ih =>
    obtain ⟨ledger₁, h₁, hwrites₁⟩ := h.handle e
    obtain ⟨ledger₂, h₂, hwrites₂⟩ := ih h₁
    refine ⟨ledger₂, h₂, fun id => ?_⟩
    rw [hwrites₂, hwrites₁, Server.writesFrom, List.append_assoc]

/-- Nothing is stored on a fresh server. -/
theorem fresh : Recorded {} fun _ => [] where
  rows := fun _ => rfl
  chain := fun id => .nil _ id
  dated := by simp
  stage := by simp

/-- The chains of a server after some events are what was stored. -/
theorem after (events : List Event) :
    ∃ ledger, Recorded (Server.after events) ledger ∧
      ∀ id, Server.writes id events = (ledger id).map Link.write := by
  obtain ⟨ledger, h, hwrites⟩ := fresh.run events
  exact ⟨ledger, h, fun id => (hwrites id).symm⟩

end Recorded

/-! ### The chains of a run -/

/-- However the calls of requests come between each other, what is stored of a session is a chain of
turns. The `k`-th state has the revision `k`, beside the text and in it. Every turn that has
succeeded is one link of one chain, and no request that has failed is a link. -/
theorem sessions_are_chains (events : List Event) :
    ∃ ledger : Ledger,
      (∀ id, Server.writes id events = (ledger id).map Link.write ∧
        Chain (Server.after events) id (ledger id)) ∧
      (∀ id (k : Nat) l, (ledger id)[k]? = some l →
        (Store.Row.ofState l.state).revision = k ∧
          (Store.Row.ofState l.state).text = l.state.toJson.write ∧ l.state.revision = k ∧
          ∀ state, Store.readText State.ofJson (Store.Row.ofState l.state).text = .ok state →
            state = l.state) ∧
      ∀ (i : Nat) j, (Server.after events).jobs[i]? = some j →
        (∀ e, j.rest = .done (.error e) → ∀ id, i ∉ (Server.writes id events).map Prod.fst) ∧
        ∀ reply, j.rest = .done (.ok (.advanced reply)) →
          ((Server.writes reply.sessionId events).map Prod.fst).count i = 1 ∧
            ∀ id, id ≠ reply.sessionId → i ∉ (Server.writes id events).map Prod.fst := by
  obtain ⟨ledger, h, hwrites⟩ := Recorded.after events
  have hjobs : ∀ id, (Server.writes id events).map Prod.fst = (ledger id).map Link.job := by
    intro id
    rw [hwrites, List.map_map]
    rfl
  refine ⟨ledger, fun id => ⟨hwrites id, h.chain id⟩, ?_, ?_⟩
  · intro id k l hl
    have hrevision := (h.chain id).revision k l hl
    have hdated := h.dated id l (List.mem_of_getElem? hl)
    exact ⟨hrevision, rfl, hrevision, fun state hstate => Store.eq_of_readText hdated hstate⟩
  · intro i j hj
    have hstage := h.stage i j hj
    constructor
    · intro e hrest id
      rw [hjobs]
      exact hstage.lacks_of_error hrest id
    · intro reply hrest
      obtain ⟨hone, hother⟩ := hstage.hasOnce_of_advanced hrest
      refine ⟨?_, fun id hid => ?_⟩
      · rw [hjobs]
        exact hone
      · rw [hjobs]
        exact hother id hid

end Dialogue.Service
