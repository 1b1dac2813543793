/-!
# Routing counters

Bytes read, bytes sent and newlines, counted modulo two to the 64th.  Taking a
sample resets the counters one after the other, so that what is counted in
between shows up either in this sample or in a later one.
-/

namespace LogRelay

/-- The three counters, or what a sample found in them. -/
structure Counters where
  read : UInt64
  sent : UInt64
  newlines : UInt64
  deriving DecidableEq, Repr, Inhabited

inductive Counter where
  | read
  | sent
  | newlines
  deriving DecidableEq, Repr

namespace Counters

def zero : Counters := ⟨0, 0, 0⟩

def get (counters : Counters) : Counter → UInt64
  | .read => counters.read
  | .sent => counters.sent
  | .newlines => counters.newlines

def set (counters : Counters) (counter : Counter) (value : UInt64) : Counters :=
  match counter with
  | .read => { counters with read := value }
  | .sent => { counters with sent := value }
  | .newlines => { counters with newlines := value }

def record (counters : Counters) (counter : Counter) (amount : Nat) : Counters :=
  counters.set counter (counters.get counter + UInt64.ofNat amount)

def add (left right : Counters) : Counters :=
  ⟨left.read + right.read, left.sent + right.sent, left.newlines + right.newlines⟩

def text (sample : Counters) : String :=
  "bytes read: " ++ toString sample.read.toNat ++ ", bytes sent: " ++ toString sample.sent.toNat ++
    ", newlines: " ++ toString sample.newlines.toNat

end Counters

/-- Where the reporting task stands.  `last` tells whether the sample being taken
is the final one. -/
inductive ReportStage where
  | starting
  | waiting
  | taking (next : Counter) (soFar : Counters) (last : Bool)
  | finished
  deriving DecidableEq, Repr, Inhabited

/-- The counters with the task that reports them. -/
structure Tracer where
  counters : Counters
  stage : ReportStage
  /-- Whether the task has been told to stop. -/
  stopping : Bool
  deriving DecidableEq, Repr, Inhabited

namespace Tracer

def create : Tracer := ⟨Counters.zero, .starting, false⟩

inductive Action where
  /-- Some task counts something. -/
  | record (counter : Counter) (amount : Nat)
  /-- The task is told to stop. -/
  | stop
  /-- The task runs for the first time; the tick that begins the first interval
  reports nothing. -/
  | start
  /-- An interval is over. -/
  | tick
  /-- The task notices that it is to stop. -/
  | conclude
  /-- The next counter of the sample is read and reset. -/
  | take
  deriving DecidableEq, Repr

/-- Reads and resets one counter; the third one completes the sample. -/
def take (tracer : Tracer) (counter : Counter) (soFar : Counters) (last : Bool) :
    Tracer × Option Counters :=
  let soFar := soFar.set counter (tracer.counters.get counter)
  let counters := tracer.counters.set counter 0
  match counter with
  | .read => ({ tracer with counters := counters, stage := .taking .sent soFar last }, none)
  | .sent => ({ tracer with counters := counters, stage := .taking .newlines soFar last }, none)
  | .newlines =>
    ({ tracer with counters := counters, stage := if last then .finished else .waiting },
      some soFar)

/-- One atomic step, if it is possible, and the sample that it completes. -/
def step? (tracer : Tracer) : Action → Option (Tracer × Option Counters)
  | .record counter amount =>
    some ({ tracer with counters := tracer.counters.record counter amount }, none)
  | .stop => some ({ tracer with stopping := true }, none)
  | .start =>
    if tracer.stage = .starting then some ({ tracer with stage := .waiting }, none) else none
  | .tick =>
    if tracer.stage = .waiting then
      some ({ tracer with stage := .taking .read Counters.zero false }, none)
    else none
  | .conclude =>
    if tracer.stage = .waiting ∧ tracer.stopping then
      some ({ tracer with stage := .taking .read Counters.zero true }, none)
    else none
  | .take =>
    match tracer.stage with
    | .taking counter soFar last => some (tracer.take counter soFar last)
    | _ => none

/-- A whole sample, with nothing counted in between. -/
def sample (tracer : Tracer) : Tracer × Counters :=
  ({ tracer with counters := Counters.zero }, tracer.counters)

def record (tracer : Tracer) (counter : Counter) (amount : Nat) : Tracer :=
  { tracer with counters := tracer.counters.record counter amount }

end Tracer

end LogRelay
