import Dialogue.Digest
import Dialogue.Flow.Encoding
import Dialogue.Json.Reader
import Dialogue.Json.Writer
import Dialogue.Session.Encoding

namespace Dialogue

/-!
# The store

Published flows and sessions are kept as JSON texts. A version of a flow never changes; a session is
replaced by its next state only if nobody else has replaced it in between.

* `Store.Version`, `Store.Row`: a version of a flow and a session as they are kept.
* `Store.newest?`: the version with the greatest number.
* `Store.publish`, `Store.flow`: add a version of a flow, look one up.
* `Store.insert`, `Store.session`, `Store.save`: add, look up and replace a session.
* `Store.Error`: why the store refuses.
-/

namespace Store

/-- Why a text cannot be read back. -/
inductive Unreadable
  | text (e : Json.ReadError)
  | shape (m : Json.Misfit)
deriving Repr, DecidableEq

/-- Why the store refuses. -/
inductive Error
  /-- The database does not do what it is asked. -/
  | refused (reason : String)
  | unreadable (u : Unreadable)
  | flowNotFound (id : String) (version : Option Int)
  | sessionNotFound (id : String)
  | revisionConflict (id : String) (expected : Int)
  | sessionExists (id : String)
deriving Repr, DecidableEq

/-- What is wrong with a text, in words. -/
def Unreadable.message : Unreadable → String
  | text e => e.message
  | shape m => m.message

/-- The refusal in words. -/
def Error.message : Error → String
  | refused reason => "Database error: " ++ reason
  | unreadable u => "Serialization error: " ++ u.message
  | flowNotFound id none => "Flow not found: " ++ id
  | flowNotFound id (some version) => "Flow not found: " ++ id ++ " v" ++ toString version
  | sessionNotFound id => "Session not found: " ++ id
  | revisionConflict id expected =>
    "Session " ++ id ++ " was modified concurrently (expected revision " ++ toString expected ++ ")"
  | sessionExists id => "Session already exists: " ++ id

/-- A version of a flow as it is kept. -/
structure Version where
  number : Int
  text : String
  checksum : String
  publishedAt : Time.Instant
deriving Repr, DecidableEq

/-- A session as it is kept. -/
structure Row where
  text : String
  revision : Int
deriving Repr, DecidableEq

/-- A version of a flow as it is given out. -/
structure Published where
  flowId : String
  version : Int
  definition : Flow.Definition
  checksum : String
  publishedAt : Time.Instant

end Store

/-- Published flows and sessions. -/
structure Store where
  /-- The versions of each flow, as they were added. -/
  flows : Dictionary (List Store.Version) := .empty
  sessions : Dictionary Store.Row := .empty

namespace Store

/-- Reads a text that is kept. -/
def readText {α : Type} (decode : Json → Decoded α) (text : String) : Except Error α :=
  match Json.read text with
  | .error e => .error (.unreadable (.text e))
  | .ok j => (decode j).toExcept.mapError fun m => .unreadable (.shape m)

/-! ### Flows -/

/-- The checksum of a flow is that of its text. -/
def checksum (d : Flow.Definition) : String := Digest.hex d.toJson.write

/-- How a flow is kept under a number. -/
def Version.ofDefinition (number : Int) (now : Time.Instant) (d : Flow.Definition) : Version :=
  ⟨number, d.toJson.write, Store.checksum d, now⟩

/-- The version with the greatest number. -/
def newest? : List Version → Option Version
  | [] => none
  | v :: rest =>
    match newest? rest with
    | some w => if v.number < w.number then some w else some v
    | none => some v

/-- The versions of a flow. -/
def versions (s : Store) (flowId : String) : List Version :=
  (s.flows.get? flowId).getD []

/-- The newest version of a flow; if a number is given, of those with that number. -/
def select? (s : Store) (flowId : String) (number : Option Int) : Option Version :=
  newest? ((s.versions flowId).filter fun v => number.all (v.number == ·))

/-- A version of a flow, which stands for its definition, as it is given out. -/
def Version.given (flowId : String) (v : Version) (definition : Flow.Definition) : Published where
  flowId := flowId
  version := v.number
  definition := definition
  checksum := v.checksum
  publishedAt := v.publishedAt

/-- A version of a flow as it is given out. -/
def Version.published (flowId : String) (v : Version) : Except Error Published :=
  (readText Flow.Definition.ofJson v.text).map (v.given flowId)

/-- A version of a flow; without a number, the latest one. -/
def flow (s : Store) (flowId : String) (number : Option Int) : Except Error Published :=
  match s.select? flowId number with
  | some v => v.published flowId
  | none => .error (.flowNotFound flowId number)

/-- Adds the next version of a flow, unless the latest one is the same. The flag tells whether a
version was added. -/
def publish (s : Store) (now : Time.Instant) (flowId : String) (definition : Flow.Definition) :
    (Published × Bool) × Store :=
  -- Only the latest version is compared with: an older one that is the same is added again.
  let latest := newest? (s.versions flowId)
  match latest.filter (·.checksum == checksum definition) with
  | some same => ((same.given flowId definition, false), s)
  | none =>
    let new := Version.ofDefinition (latest.elim 1 (·.number + 1)) now definition
    ((new.given flowId definition, true),
      { s with flows := s.flows.insert flowId (s.versions flowId ++ [new]) })

/-! ### Sessions -/

/-- How a session is kept. -/
def Row.ofState (state : Session.State) : Row := ⟨state.toJson.write, state.revision⟩

/-- A session. -/
def session (s : Store) (id : String) : Except Error Session.State :=
  match s.sessions.get? id with
  | some row => readText Session.State.ofJson row.text
  | none => .error (.sessionNotFound id)

/-- Adds a session on a version of a flow that is kept. -/
def insert (s : Store) (state : Session.State) : Except Error Store :=
  if (s.sessions.get? state.sessionId).isSome then .error (.sessionExists state.sessionId)
  -- The row refers to its version, and there must be one.
  else if (s.select? state.flowId (some state.flowVersion)).isNone then
    .error (.refused "FOREIGN KEY constraint failed")
  else .ok { s with sessions := s.sessions.insert state.sessionId (.ofState state) }

/-- Replaces a session that still has the revision of its new state, and counts the revision up. -/
def save (s : Store) (state : Session.State) : Except Error (Session.State × Store) :=
  match s.sessions.get? state.sessionId with
  | none => .error (.sessionNotFound state.sessionId)
  | some row =>
    if row.revision = state.revision then
      let next := { state with revision := state.revision + 1 }
      .ok (next, { s with sessions := s.sessions.insert state.sessionId (.ofState next) })
    else .error (.revisionConflict state.sessionId state.revision)

end Store

end Dialogue
