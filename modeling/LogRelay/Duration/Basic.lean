import LogRelay.Number.Binary64

/-!
# Durations

A span of time is a whole number of nanoseconds whose seconds fit 64 bits.
Seconds also come as double precision numbers; both ways of the conversion are
here.
-/

namespace LogRelay

def nanosPerSecond : Nat := 1000000000

def nanosPerMilli : Nat := 1000000

structure Duration where
  nanos : Nat
  inRange : nanos < UInt64.size * nanosPerSecond
  deriving DecidableEq, Repr

namespace Duration

/-- The span of that many nanoseconds, unless its seconds need more than 64 bits. -/
def ofNanos? (nanos : Nat) : Option Duration :=
  if hrange : nanos < UInt64.size * nanosPerSecond then some ⟨nanos, hrange⟩ else none

def zero : Duration := ⟨0, by decide⟩

instance : Inhabited Duration := ⟨zero⟩

def ofMillis (millis : UInt64) : Duration :=
  ⟨millis.toNat * nanosPerMilli, by
    have := millis.toNat_lt
    simp only [nanosPerMilli, nanosPerSecond, UInt64.size]
    omega⟩

def ofSeconds (seconds : UInt64) : Duration :=
  ⟨seconds.toNat * nanosPerSecond, by
    have := seconds.toNat_lt
    simp only [nanosPerSecond, UInt64.size]
    omega⟩

def isZero (duration : Duration) : Bool :=
  duration.nanos = 0

def min (left right : Duration) : Duration :=
  if right.nanos < left.nanos then right else left

def add? (left right : Duration) : Option Duration :=
  ofNanos? (left.nanos + right.nanos)

/-- The span in seconds: the whole seconds and the fraction are each rounded,
and so is their sum. -/
def seconds (duration : Duration) : Binary64 :=
  Binary64.ofNat (duration.nanos / nanosPerSecond) +
    Binary64.ofNat (duration.nanos % nanosPerSecond) / Binary64.ofNat nanosPerSecond

/-- The span nearest to a number of seconds, ties to the even nanosecond.
There is none for NaN, a negative number or one that is too great. -/
def ofSeconds? : Binary64 → Option Duration
  | .nan => none
  | .infinite _ => none
  | .finite number =>
    if number.negative && !number.isZero then none
    else
      let (num, den) := number.ratio
      ofNanos? (roundHalfEven (num * nanosPerSecond) den)

/-- The span `factor` times as long. -/
def scale? (duration : Duration) (factor : Binary64) : Option Duration :=
  ofSeconds? (factor * duration.seconds)

/-- The first whole millisecond at which the span is over. -/
def ceilMillis (duration : Duration) : Nat :=
  (duration.nanos + (nanosPerMilli - 1)) / nanosPerMilli

end Duration

end LogRelay
