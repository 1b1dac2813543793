import LogRelay.Session.Basic

/-!
# Reports of a session

What an outside observer sees of a session: the calls of the sink, the samples
of the tracer and the lines of the diagnostic log.
-/

namespace LogRelay

inductive Severity where
  | info
  | warning
  | error
  deriving DecidableEq, Repr

def Severity.name : Severity → String
  | info => "INFO"
  | warning => "WARN"
  | error => "ERROR"

/-- A line of the diagnostic log. -/
abbrev LogLine := Severity × String

namespace Session

structure CallReport where
  time : Nat
  message : Message
  reply : Reply
  deriving DecidableEq, Repr

/-- The calls for messages of one source, in order, repeated attempts included. -/
def calls (session : Session) (source : Source) : List CallReport :=
  session.history.filterMap fun (time, entry) =>
    match entry with
    | .called message reply => if message.source = source then some ⟨time, message, reply⟩ else none
    | _ => none

/-- The messages that the sink has taken, in order. -/
def delivered (session : Session) : List Message :=
  session.history.filterMap fun (_, entry) =>
    match entry with
    | .delivered message => some message
    | _ => none

def samples (session : Session) : List (Nat × Counters) :=
  session.history.filterMap fun (time, entry) =>
    match entry with
    | .reported sample => some (time, sample)
    | _ => none

def sampleTotal (session : Session) : Counters :=
  session.samples.foldl (fun sum (_, sample) => sum.add sample) Counters.zero

def readyCalled (session : Session) : Bool :=
  session.history.any fun (_, entry) => entry = .readyCalled

/-- The line that an entry leaves in the diagnostic log, if it leaves one. -/
def logLine? : Entry → Option LogLine
  | .abandoned message error =>
    some (.error, "Dropping message from " ++ message.source.name ++ " pipe: " ++ error.message)
  | .joined _ result => result.error?.map fun error => (.error, error.message)
  | .overflowed count =>
    some (.warning, "Dropped " ++ toString count ++ " messages because the buffer was full")
  | _ => none

def logLines (session : Session) : List LogLine :=
  session.history.filterMap fun (_, entry) => logLine? entry

/-- How a session stands. -/
inductive Verdict where
  | finished
  | failed (error : Error)
  | crashed
  | unfinished
  deriving DecidableEq, Repr

def verdict (session : Session) : Verdict :=
  match session.main with
  | .done (.ok ()) => .finished
  | .done (.error error) => .failed error
  | .crashed => .crashed
  | _ => .unfinished

end Session

end LogRelay
