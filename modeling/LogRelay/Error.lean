import LogRelay.Failure
import LogRelay.Message

/-!
# Errors of a logging session

Every way in which a session, a delivery or the reading of settings can fail,
with its message and whether it ends the program.
-/

namespace LogRelay

inductive Error where
  | io (failure : Failure)
  | serialization (detail : String)
  | configuration (detail : String)
  | noPipes
  | read (source : Source) (failure : Failure)
  | dispatch (attempts : Nat) (lastError : String)
  | ready (detail : String)
  | connection (detail : String)
  | sink (detail : String)
  | task (detail : String)
  deriving DecidableEq, Repr, Inhabited

namespace Error

def message : Error → String
  | io failure => "I/O error: " ++ failure.text
  | serialization detail => "Serialization error: " ++ detail
  | configuration detail => "Configuration error: " ++ detail
  | noPipes => "no container pipes available: stdout and stderr are both missing"
  | read source failure =>
    "failed to read logs from " ++ source.name ++ " pipe: " ++ failure.text
  | dispatch attempts lastError =>
    "sending container logs to destination has been retried for " ++ toString attempts ++
      " times: " ++ lastError
  | ready detail => "failed to check container ready status: " ++ detail
  | connection detail => "Connection error: " ++ detail
  | sink detail => "Sink error: " ++ detail
  | task detail => "pipeline task failed: " ++ detail

/-- A logging outage never ends the program; everything else does. -/
def isFatal : Error → Bool
  | dispatch _ _ | connection _ | sink _ => false
  | _ => true

/-- The text of the error that lies beneath this one. -/
def cause? : Error → Option String
  | io failure => some failure.text
  | serialization detail => some detail
  | read _ failure => some failure.text
  | _ => none

end Error

end LogRelay
