import LogRelay.Behaviour.Sink

/-!
# Deliveries on a timeline

One dispatcher sends messages one after the other to a sink of known behaviour.
Times are whole milliseconds; a pause is over at the first millisecond that is
not before its end.
-/

namespace LogRelay.Delivery

/-- How one delivery went: when the sink was called and when it was over, both
from the start of the delivery. -/
structure Report where
  message : Message
  calls : List Nat
  elapsed : Nat
  result : Except Error Unit

/-- `left` bounds the calls that are still to be made, and `calls` are the times
of the earlier ones in reverse.  There is no report if the delivery crashes. -/
def runFor (draws : Nat → Nat) (sink : SinkBehaviour) (clock : Nat) (calls : List Nat) :
    (left : Nat) → Delivery → Option (Report × SinkBehaviour)
  | 0, _ => none
  | left + 1, delivery =>
    let (delayMs, reply, sink) := sink.call delivery.message.source
    let calls := clock :: calls
    let clock := clock + delayMs
    match delivery.answer (draws delivery.made) reply with
    | .delivered => some (⟨delivery.message, calls.reverse, clock, .ok ()⟩, sink)
    | .failed error => some (⟨delivery.message, calls.reverse, clock, .error error⟩, sink)
    | .pause duration next => runFor draws sink (clock + duration.ceilMillis) calls left next
    | .crashed => none

/-- A delivery from its first call on; it never makes more calls than it may. -/
def run (policy : RetryPolicy) (draws : Nat → Nat) (sink : SinkBehaviour) (message : Message) :
    Option (Report × SinkBehaviour) :=
  runFor draws sink 0 [] policy.attempts (start policy message)

/-- The deliveries of all messages, each begun when the one before it is over. -/
def runAll (policy : RetryPolicy) (draws : Nat → Nat) (sink : SinkBehaviour) :
    List Message → Option (List Report)
  | [] => some []
  | message :: rest => do
    let (report, sink) ← run policy draws sink message
    return report :: (← runAll policy draws sink rest)

end LogRelay.Delivery
