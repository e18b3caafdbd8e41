import Dialogue.Store

namespace Dialogue.Service

/-!
# Procedures

A request is served by a procedure: calls to the store, one after the other, each chosen by the
answers to the calls before it. Between two calls of one procedure the store may serve others.

* `Procedure`: calls to the store that end in a result.
* `Storage`: how calls are answered; `Storage.reliable` is the store itself, at some time.
* `Procedure.run`: a procedure that nothing else comes between.
-/

open Store (Published)

/-- Calls to the store that end in a result. -/
inductive Procedure (α : Type) where
  | done (result : α)
  | publish (flowId : String) (d : Flow.Definition)
      (next : Except Store.Error (Published × Bool) → Procedure α)
  | flow (flowId : String) (version : Option Int)
      (next : Except Store.Error Published → Procedure α)
  | insert (state : Session.State) (next : Except Store.Error Unit → Procedure α)
  | session (id : String) (next : Except Store.Error Session.State → Procedure α)
  | save (state : Session.State) (next : Except Store.Error Session.State → Procedure α)

/-- How calls are answered, and what they make of the store. -/
structure Storage where
  publish : String → Flow.Definition → Store → Except Store.Error (Published × Bool) × Store
  flow : String → Option Int → Store → Except Store.Error Published
  insert : Session.State → Store → Except Store.Error Unit × Store
  session : String → Store → Except Store.Error Session.State
  save : Session.State → Store → Except Store.Error Session.State × Store

namespace Storage

/-- A call that changes the store only if it succeeds. -/
def attempt {α : Type} (s : Store) : Except Store.Error (α × Store) → Except Store.Error α × Store
  -- A call that fails is rolled back.
  | .ok (result, s) => (.ok result, s)
  | .error e => (.error e, s)

/-- The store answers every call itself. Its clock tells when a version is published. -/
def reliable (now : Time.Instant) : Storage where
  publish id d s := attempt s (.ok (s.publish now id d))
  flow id version s := s.flow id version
  insert state s := attempt s ((s.insert state).map fun s => ((), s))
  session id s := s.session id
  save state s := attempt s (s.save state)

end Storage

namespace Procedure

variable {α β : Type}

/-- A procedure with its result put into another form. -/
def map (f : α → β) : Procedure α → Procedure β
  | done result => done (f result)
  | publish id d next => .publish id d fun answer => (next answer).map f
  | flow id version next => .flow id version fun answer => (next answer).map f
  | insert state next => .insert state fun answer => (next answer).map f
  | session id next => .session id fun answer => (next answer).map f
  | save state next => .save state fun answer => (next answer).map f

/-- Runs a procedure to its end. -/
def run (storage : Storage) : Procedure α → Store → α × Store
  | done result, s => (result, s)
  | publish id d next, s =>
    let (answer, s) := storage.publish id d s
    (next answer).run storage s
  | flow id version next, s => (next (storage.flow id version s)).run storage s
  | insert state next, s =>
    let (answer, s) := storage.insert state s
    (next answer).run storage s
  | session id next, s => (next (storage.session id s)).run storage s
  | save state next, s =>
    let (answer, s) := storage.save state s
    (next answer).run storage s

end Procedure

end Dialogue.Service
