import Dialogue.Proofs.Session.Stored
import Dialogue.Service.Requests

namespace Dialogue.Service

open Session

/-!
# Many requests at once

A server works on any number of requests at once. Each of them is a procedure, and the calls of all
procedures to the store come in any order; each call is atomic, and each may be refused without
effect.

* `Request`, `Request.serve`: what is asked of the service, and the procedure that serves it.
* `Storage.refusing`: a store that refuses some kinds of calls.
* `Procedure.step`: the next call of a procedure.
* `Server`, `Event`, `Server.after`: the requests in service, and what they have made of the store.
* `Server.writes`: the rows that are stored of a session, one after the other, as they can be seen
  in the store.
-/

/-! ### Requests -/

/-- Circumstances whose clock shows instants of the calendar: their years are in range, and only the
last second of a minute is a leap second. -/
structure Setting where
  circumstances : Circumstances
  begun : circumstances.begunAt.Representable
  representable : circumstances.now.Representable

/-- What is asked of the service. -/
inductive Request
  | publish (flowId : Option String) (d : Flow.Definition)
  | turn (r : TurnRequest)
  | showFlow (flowId : String) (version : Option Int)
  | showSession (id : String)

/-- What the service answers. -/
inductive Reply
  | published (p : Publication)
  | advanced (r : TurnReply)
  | flow (p : Store.Published)
  | session (s : State)

/-- The procedure that serves a request. -/
def Request.serve (c : Circumstances) : Request → Serving Reply
  | .publish flowId d => (Service.publish c flowId d).map (Except.map .published)
  | .turn r => (Service.turn c r).map (Except.map .advanced)
  | .showFlow flowId version => (Service.showFlow flowId version).map (Except.map .flow)
  | .showSession id => (Service.showSession id).map (Except.map .session)

/-! ### Calls -/

/-- The kinds of calls to the store. -/
inductive Call
  | publish
  | flow
  | insert
  | session
  | save
deriving Repr, DecidableEq

/-- The store at some time, but for calls that are refused without effect. -/
def Storage.refusing (now : Time.Instant) (refusal : Call → Option Store.Error) : Storage where
  publish id d s := (refusal .publish).elim ((reliable now).publish id d s) fun e => (.error e, s)
  flow id version s := (refusal .flow).elim ((reliable now).flow id version s) .error
  insert state s := (refusal .insert).elim ((reliable now).insert state s) fun e => (.error e, s)
  session id s := (refusal .session).elim ((reliable now).session id s) .error
  save state s := (refusal .save).elim ((reliable now).save state s) fun e => (.error e, s)

namespace Procedure

variable {α β : Type} {storage : Storage}

/-- The next call of a procedure; a procedure that has ended makes none. -/
def step (storage : Storage) : Procedure α → Store → Procedure α × Store
  | done result, s => (done result, s)
  | publish id d next, s => ((next (storage.publish id d s).1), (storage.publish id d s).2)
  | flow id version next, s => (next (storage.flow id version s), s)
  | insert state next, s => (next (storage.insert state s).1, (storage.insert state s).2)
  | session id next, s => (next (storage.session id s), s)
  | save state next, s => (next (storage.save state s).1, (storage.save state s).2)

/-- Another form of the result changes nothing else of a run. -/
theorem run_map (f : α → β) (p : Procedure α) (s : Store) :
    (p.map f).run storage s = (f (p.run storage s).1, (p.run storage s).2) := by
  induction p generalizing s with
  | done result => rfl
  | publish id d next ih => exact ih _ _
  | flow id version next ih => exact ih _ _
  | insert state next ih => exact ih _ _
  | session id next ih => exact ih _ _
  | save state next ih => exact ih _ _

/-- Another form of the result changes no call. -/
theorem step_map (f : α → β) (p : Procedure α) (s : Store) :
    (p.map f).step storage s = ((p.step storage s).1.map f, (p.step storage s).2) := by
  cases p <;> rfl

end Procedure

/-! ### The server -/

/-- A request in service, with the calls that are still to be made for it. -/
structure Job where
  setting : Setting
  request : Request
  rest : Serving Reply

/-- The store, and the requests that came in, the first one first. -/
structure Server where
  store : Store := {}
  jobs : List Job := []

/-- What happens: a request comes in, or the next call of a request is answered, at some time. -/
inductive Event
  | arrive (c : Setting) (r : Request)
  | call (job : Nat) (now : Time.Instant) (refusal : Call → Option Store.Error)

namespace Server

/-- What an event makes of the server. -/
def handle (s : Server) : Event → Server
  | .arrive c r => { s with jobs := s.jobs ++ [⟨c, r, r.serve c.circumstances⟩] }
  | .call i now refusal =>
    match s.jobs[i]? with
    | none => s
    | some j =>
      let (rest, store) := j.rest.step (.refusing now refusal) s.store
      { store, jobs := s.jobs.set i { j with rest } }

/-- A fresh server after some events. -/
def after (events : List Event) : Server := events.foldl handle {}

/-- The row that an event stores of a session, with the request that stored it: the row that is seen
after the event, if another one or none was seen before it. -/
def write? (s : Server) (id : String) (e : Event) : Option (Nat × Store.Row) :=
  match e with
  | .arrive _ _ => none
  | .call i _ _ =>
    let row := (s.handle e).store.sessions.get? id
    if row = s.store.sessions.get? id then none else row.map fun row => (i, row)

/-- The rows that are stored of a session by one event after the other, each with the request that
stored it. -/
def writesFrom (s : Server) (id : String) : List Event → List (Nat × Store.Row)
  | [] => []
  | e :: rest => (s.write? id e).toList ++ (s.handle e).writesFrom id rest

/-- The rows that are stored of a session on a fresh server. -/
def writes (id : String) (events : List Event) : List (Nat × Store.Row) :=
  writesFrom {} id events

end Server

end Dialogue.Service
