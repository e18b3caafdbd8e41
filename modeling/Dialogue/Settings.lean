import Dialogue.Decimal.Integer
import Dialogue.Decimal.Word
import Dialogue.Session.Turn
import Dialogue.Text.Trim

namespace Dialogue

/-!
# Settings

The settings are given by environment variables. A variable that is not set, or that cannot be
read, leaves its setting at the default; blanks around a value do not count.

* `Settings`, `Settings.read`: how conversations are run.
* `Endpoint`, `Endpoint.read`: where data are kept and requests are received.
-/

namespace Session.FailurePolicy

/-- The policy that a text names, in any case; else the name that none has. -/
def ofText (text : String) : Except String FailurePolicy :=
  match (Text.trimmed text).toLower with
  | "skip" => .ok .skip
  | "retry" => .ok .retry
  | other => .error other

/-- What is wrong with a text that names no policy. -/
def unknownMessage (name : String) : String :=
  "unknown script failure policy '" ++ name ++ "'"

end Session.FailurePolicy

/-- How conversations are run. -/
structure Settings where
  maxHops : Nat := 64
  policy : Session.FailurePolicy := .skip
  limits : Script.Limits := {}
deriving Repr, DecidableEq

/-- Where data are kept and requests are received. -/
structure Endpoint where
  databasePath : String
  port : Nat := 8000
deriving Repr, DecidableEq

/-- The number that a variable holds, if it is at most `most`; else the default. -/
def numberSetting (vars : Dictionary String) (name : String) (most default : Nat) : Nat :=
  ((vars.get? name).bind fun value =>
    Decimal.readNat? most (Text.trim value.toList)).getD default

/-- The policy that a variable names; else the default. -/
def policySetting (vars : Dictionary String) (name : String)
    (default : Session.FailurePolicy) : Session.FailurePolicy :=
  match (vars.get? name).map Session.FailurePolicy.ofText with
  | some (.ok policy) => policy
  | _ => default

/-- The settings that environment variables give. -/
def Settings.read (vars : Dictionary String) : Settings :=
  let default : Settings := {}
  let number := fun name => numberSetting vars name Decimal.greatestWord
  { maxHops := number "CHATFLOW_MAX_HOPS" default.maxHops
    policy := policySetting vars "CHATFLOW_SCRIPT_FAILURE" default.policy
    limits :=
      { timeout := number "CHATFLOW_SCRIPT_TIMEOUT_MS" default.limits.timeout
        maxSteps := number "CHATFLOW_SCRIPT_MAX_STEPS" default.limits.maxSteps
        maxVariables := number "CHATFLOW_SCRIPT_MAX_VARIABLES" default.limits.maxVariables
        maxVariableBytes :=
          number "CHATFLOW_SCRIPT_MAX_VARIABLE_BYTES" default.limits.maxVariableBytes } }

/-- The place that environment variables give. The data are kept in the home directory unless a
path is set. -/
def Endpoint.read (vars : Dictionary String) : Endpoint where
  databasePath := (vars.get? "CHATFLOW_DB_PATH").getD
    ((vars.get? "HOME").getD "/tmp" ++ "/.chatflow/chatflow.db")
  port := numberSetting vars "CHATFLOW_PORT" 65535 8000

end Dialogue
