import LogRelay.Duration.Basic
import LogRelay.Retry.Policy

/-!
# Backoff

The pauses of one delivery.  A pause is the current delay and a random part
below `jitter` times the delay; after it the delay grows by the multiplier, up
to a cap.
-/

namespace LogRelay

structure Backoff where
  current : Duration
  cap : Duration
  jitter : Binary64
  multiplier : Binary64
  /-- How many pauses have been handed out. -/
  count : Nat
  deriving DecidableEq, Repr

namespace Backoff

/-- Starts at `initial` or the cap.  The jitter is brought into the unit interval
and the multiplier up to one. -/
def start (initial cap : Duration) (jitter multiplier : Binary64) : Backoff where
  current := initial.min cap
  cap := cap
  jitter := jitter.clamp (Binary64.zero false) Binary64.one
  multiplier := multiplier.max Binary64.one
  count := 0

/-- The delay after the current one.  A product that is no duration counts as
the cap. -/
def grown (backoff : Backoff) : Duration :=
  ((Duration.ofSeconds? (backoff.current.seconds * backoff.multiplier)).getD backoff.cap).min
    backoff.cap

def advance (backoff : Backoff) : Backoff :=
  { backoff with current := backoff.grown, count := backoff.count + 1 }

/-- The bound of the random part. -/
def spread? (backoff : Backoff) : Option Duration :=
  backoff.current.scale? backoff.jitter

/-- The next pause, with a random part chosen by `draw`.  There is none if the
spread or the sum is no duration. -/
def pause? (backoff : Backoff) (draw : Nat) : Option Duration := do
  let spread ← backoff.spread?
  if spread.isZero then return backoff.current
  else Duration.ofNanos? (backoff.current.nanos + draw % spread.nanos)

/-- The next pause and the state after it. -/
def next? (backoff : Backoff) (draw : Nat) : Option (Duration × Backoff) := do
  return (← backoff.pause? draw, backoff.advance)

end Backoff

/-- The pauses of one delivery under the policy. -/
def RetryPolicy.backoff (policy : RetryPolicy) : Backoff :=
  Backoff.start (Duration.ofMillis policy.initialDelayMs) (Duration.ofMillis policy.maxDelayMs)
    policy.jitter policy.multiplier

end LogRelay
