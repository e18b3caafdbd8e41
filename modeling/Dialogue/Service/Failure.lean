import Dialogue.Flow.Validation
import Dialogue.Session.Turn
import Dialogue.Store

namespace Dialogue.Service

/-!
# How requests fail

* `Cause`: why a request fails, in the words of what failed.
* `Kind`: the class of a failure, all that a user is told.
* `Failure`: a cause, and what the session still waits for.
-/

/-- Why a request fails. -/
inductive Cause
  | unpublishable (errors : List Flow.Issue)
  /-- The request names neither a session nor a flow. -/
  | noTarget
  | store (e : Store.Error)
  | turn (e : Session.Error)
deriving Repr, DecidableEq

/-- The class of a failure. -/
inductive Kind
  | graphIntegrity
  | script
  | storage
  | conflict
  | notFound
  | badRequest
deriving Repr, DecidableEq

/-- The written name of a class. -/
def Kind.name : Kind → String
  | graphIntegrity => "graph_integrity"
  | script => "script"
  | storage => "storage"
  | conflict => "conflict"
  | notFound => "not_found"
  | badRequest => "bad_request"

/-- The class of a refusal of the store. -/
def Kind.ofStore : Store.Error → Kind
  | .flowNotFound _ _ | .sessionNotFound _ => notFound
  | .revisionConflict _ _ | .sessionExists _ => conflict
  | .refused _ | .unreadable _ => storage

/-- The class of a cause. -/
def Cause.kind : Cause → Kind
  | unpublishable _ | noTarget => .badRequest
  | store e => .ofStore e
  | turn (.graph _) => .graphIntegrity
  | turn (.script _ _) => .script

/-- A cause in words. -/
def Cause.message : Cause → String
  | unpublishable errors =>
    "Flow is not publishable: " ++ "; ".intercalate (errors.map fun i => i.problem.message)
  | noTarget => "Either sessionId or flowId is required"
  | store e => e.message
  | turn e => e.message

/-- A failed request. -/
structure Failure where
  cause : Cause
  /-- What the session waits for as it is stored, if the request got to know it. -/
  waitingFor : Option Session.Awaited := none
deriving Repr, DecidableEq

end Dialogue.Service
