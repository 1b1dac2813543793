import LogRelay.Error
import LogRelay.Retry.Backoff

/-!
# Delivering one message

A message is handed to the sink until the sink takes it or the attempts of the
policy are used up.  Between two attempts there is a pause of the backoff.
-/

namespace LogRelay

/-- What the sink makes of a call. -/
inductive Reply where
  | accepted
  | refused (error : Error)
  /-- The sink crashes. -/
  | crashed
  deriving DecidableEq, Repr, Inhabited

/-- A delivery while the sink is being called. -/
structure Delivery where
  message : Message
  /-- How many calls there may be. -/
  attempts : Nat
  /-- How many calls have been made, the present one included. -/
  made : Nat
  backoff : Backoff
  deriving DecidableEq, Repr

namespace Delivery

/-- The first call.  Every delivery starts a backoff of its own. -/
def start (policy : RetryPolicy) (message : Message) : Delivery where
  message := message
  attempts := policy.attempts
  made := 1
  backoff := policy.backoff

/-- What follows an answer of the sink. -/
inductive Outcome where
  | delivered
  | failed (error : Error)
  /-- The delivery goes on with the next call after a pause. -/
  | pause (duration : Duration) (next : Delivery)
  /-- The sink has crashed, or the pause cannot be computed. -/
  | crashed
  deriving DecidableEq, Repr

/-- `draw` chooses the random part of the pause. -/
def answer (delivery : Delivery) (draw : Nat) : Reply → Outcome
  | .accepted => .delivered
  | .crashed => .crashed
  | .refused error =>
    if delivery.attempts ≤ delivery.made then .failed (.dispatch delivery.made error.message)
    else
      match delivery.backoff.next? draw with
      | some (pause, backoff) =>
        .pause pause { delivery with made := delivery.made + 1, backoff := backoff }
      | none => .crashed

end Delivery

end LogRelay
