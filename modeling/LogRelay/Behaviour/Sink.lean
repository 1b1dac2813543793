import LogRelay.Delivery.Basic

/-!
# How a sink behaves

A sink is described by what its calls will do, one after the other: how long
each takes and what it answers.  After the end of the description every call
succeeds at once.
-/

namespace LogRelay

structure SinkStep where
  delayMs : Nat
  reply : Reply
  /-- How many calls in a row do this. -/
  times : Nat
  deriving DecidableEq, Repr

abbrev SinkScript := List SinkStep

namespace SinkScript

/-- What the next call does, and the description of the calls after it. -/
def next : SinkScript → Nat × Reply × SinkScript
  | [] => (0, .accepted, [])
  | step :: rest =>
    if step.times = 0 then next rest
    else (step.delayMs, step.reply, { step with times := step.times - 1 } :: rest)

end SinkScript

/-- A sink answers the calls for messages of either source on their own. -/
structure SinkBehaviour where
  stdout : SinkScript
  stderr : SinkScript
  deriving DecidableEq, Repr, Inhabited

namespace SinkBehaviour

def script (behaviour : SinkBehaviour) : Source → SinkScript
  | .stdout => behaviour.stdout
  | .stderr => behaviour.stderr

def setScript (behaviour : SinkBehaviour) (source : Source) (script : SinkScript) :
    SinkBehaviour :=
  match source with
  | .stdout => { behaviour with stdout := script }
  | .stderr => { behaviour with stderr := script }

/-- What a call for a message of the source does. -/
def call (behaviour : SinkBehaviour) (source : Source) : Nat × Reply × SinkBehaviour :=
  let (delayMs, reply, script) := (behaviour.script source).next
  (delayMs, reply, behaviour.setScript source script)

end SinkBehaviour

end LogRelay
