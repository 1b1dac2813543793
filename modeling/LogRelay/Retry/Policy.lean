import LogRelay.Number.Binary64

/-!
# Retry policies

How often a failed delivery is tried, and how the pauses between the attempts
grow.
-/

namespace LogRelay

structure RetryPolicy where
  /-- All attempts, the first one included. -/
  maxAttempts : UInt32
  initialDelayMs : UInt64
  maxDelayMs : UInt64
  /-- The greatest random addition to a pause, as a fraction of it. -/
  jitter : Binary64
  /-- The factor from one pause to the next. -/
  multiplier : Binary64
  deriving DecidableEq, Repr

namespace RetryPolicy

def standard : RetryPolicy where
  maxAttempts := 3
  initialDelayMs := 500
  maxDelayMs := 1000
  jitter := Binary64.ofDecimal false 3 (-1)
  multiplier := Binary64.ofNat 2

instance : Inhabited RetryPolicy := ⟨standard⟩

/-- Retries without any pause. -/
def immediate (maxAttempts : UInt32) : RetryPolicy where
  maxAttempts := maxAttempts
  initialDelayMs := 0
  maxDelayMs := 0
  jitter := Binary64.zero false
  multiplier := Binary64.one

/-- How often a message is handed to the sink at most; always once. -/
def attempts (policy : RetryPolicy) : Nat :=
  max policy.maxAttempts.toNat 1

end RetryPolicy

end LogRelay
