import LogRelay.Duration.Basic
import LogRelay.Tracer

/-!
# Reports on a timeline

What the reporting task reports when it is known what is counted when.  Times
are whole milliseconds; an interval is over at the first of them that is not
before its end.
-/

namespace LogRelay.TracerTimeline

/-- Something that is counted at some time. -/
structure Count where
  time : Nat
  counter : Counter
  amount : Nat
  deriving DecidableEq, Repr

structure Report where
  time : Nat
  sample : Counters
  deriving DecidableEq, Repr

/-- The end of the interval of that number; an interval is no shorter than a
millisecond. -/
def tickTime (period : Duration) (number : Nat) : Nat :=
  (number * max period.nanos nanosPerMilli + (nanosPerMilli - 1)) / nanosPerMilli

/-- Counts everything up to the time; the rest is left. -/
def countUpTo (time : Nat) (tracer : Tracer) : List Count → Tracer × List Count
  | [] => (tracer, [])
  | count :: rest =>
    if count.time ≤ time then countUpTo time (tracer.record count.counter count.amount) rest
    else (tracer, count :: rest)

/-- Reports at the end of every interval before `stopAt`, and then once more.
The reports so far are in reverse. -/
def reportFrom (period : Duration) (stopAt : Nat) (reports : List Report) :
    (fuel : Nat) → (number : Nat) → Tracer → List Count → List Report
  | 0, _, _, _ => reports.reverse
  | fuel + 1, number, tracer, counts =>
    let time := tickTime period number
    let now := min time stopAt
    let (tracer, counts) := countUpTo now tracer counts
    let (tracer, sample) := tracer.sample
    let reports := ⟨now, sample⟩ :: reports
    if time < stopAt then reportFrom period stopAt reports fuel (number + 1) tracer counts
    else reports.reverse

/-- There are at most as many intervals as milliseconds. -/
def run (period : Duration) (stopAt : Nat) (counts : List Count) : List Report :=
  reportFrom period stopAt [] (stopAt + 1) 1 Tracer.create counts

def total (reports : List Report) : Counters :=
  reports.foldl (fun sum report => sum.add report.sample) Counters.zero

end LogRelay.TracerTimeline
