import LogRelay.Behaviour.Pipe
import LogRelay.Behaviour.Sink
import LogRelay.Buffer.Basic
import LogRelay.Session.Options
import LogRelay.Tracer

/-!
# Sessions

A session reads the pipes of a container and delivers their messages until
every pipe is closed.  Its tasks are one reader for each pipe, a drain that
empties the buffer in non-blocking mode, the reporting of the tracer, and the
main task, which waits for the others, flushes the buffer and cleans up.

This file holds the states of the tasks and the journal of what has happened.
-/

namespace LogRelay

/-- What is fixed for the whole session: its options and what chance and the
outside decide. -/
structure Plan where
  options : SessionOptions
  cleanup : Duration
  /-- The error that the ready callback returns. -/
  readyError : Option Error
  /-- The identifier of each run of a source. -/
  runIds : Source → Nat → String
  /-- What chooses the random part of each pause. -/
  draws : Nat → Nat
  /-- The time of day at each moment of the session, in milliseconds. -/
  timeOfDay : Nat → Timestamp

/-- How a task ended. -/
inductive TaskResult where
  | finished
  | failed (error : Error)
  | crashed
  | aborted
  deriving DecidableEq, Repr

namespace TaskResult

/-- What the main task is told of a task that has crashed.  The words of the runtime,
with the number of the task and the text of its panic, are not part of a session:
these stand for them. -/
def crashText : String := "task crashed"

/-- What the main task is told of a task that was ended from outside, in place of the
words of the runtime. -/
def abortText : String := "task was cancelled"

/-- The error that the main task sees when it joins the task. -/
def error? : TaskResult → Option Error
  | finished => none
  | failed error => some error
  | crashed => some (.task crashText)
  | aborted => some (.task abortText)

end TaskResult

/-- A delivery waits for the answer of the sink or for the end of a pause. -/
inductive SendStage where
  | calling (answerAt : Nat) (reply : Reply)
  | pausing (wakeAt : Nat)
  deriving DecidableEq, Repr

structure Sending where
  delivery : Delivery
  stage : SendStage
  deriving DecidableEq, Repr

namespace Sending

/-- The earliest time at which the delivery can go on. -/
def dueAt (sending : Sending) : Nat :=
  match sending.stage with
  | .calling answerAt _ => answerAt
  | .pausing wakeAt => wakeAt

end Sending

inductive ReaderStage where
  /-- About to ask the framer for a message. -/
  | asking
  /-- A read is under way.  While it is being looked at, a cancellation goes
  unnoticed. -/
  | reading (asked : Nat) (looking : Bool)
  | sending (sending : Sending)
  | ended (result : TaskResult)
  deriving DecidableEq, Repr

structure Reader where
  framer : Framer
  pipe : PipeScript
  stage : ReaderStage
  deriving DecidableEq, Repr

inductive DrainStage where
  | waiting
  | sending (sending : Sending)
  | ended (result : TaskResult)
  deriving DecidableEq, Repr

/-- The tasks that the main task joins. -/
inductive Task where
  | drain
  | reader (source : Source)
  deriving DecidableEq, Repr

inductive MainStage where
  | starting
  /-- The tasks have been spawned and the ready callback is about to be called. -/
  | launched
  | joining
  | flushing (remaining : List Message)
  | flushSending (sending : Sending) (remaining : List Message)
  | cleaning (wakeAt : Nat)
  /-- Waits for the last report of the tracer. -/
  | stopping (result : Except Error Unit)
  | done (result : Except Error Unit)
  | crashed

/-- What has happened. -/
inductive Entry where
  | readyCalled
  | cancelled
  | readBegun (source : Source) (asked : Nat)
  | readDone (source : Source) (asked : Nat) (result : ReadResult)
  /-- The framer has handed a message to its reader. -/
  | framed (message : Message)
  | stored (message : Message)
  | refused (message : Message)
  | producerClosed (source : Source)
  /-- A message has been handed to the dispatcher. -/
  | handed (message : Message)
  /-- The sink is called, and this is what it will answer. -/
  | called (message : Message) (reply : Reply)
  | answered (message : Message) (reply : Reply)
  | delivered (message : Message)
  /-- All attempts have failed, and the message is given up. -/
  | abandoned (message : Message) (error : Error)
  | ended (task : Task) (result : TaskResult)
  | joined (task : Task) (result : TaskResult)
  | flushed (messages : List Message)
  /-- Messages were refused by the buffer; this is their number. -/
  | overflowed (count : Nat)
  | reported (sample : Counters)
  deriving DecidableEq, Repr

structure Session where
  /-- Milliseconds since the start. -/
  clock : Nat
  cancelled : Bool
  stdout : Option Reader
  stderr : Option Reader
  drain : Option DrainStage
  buffer : Option Buffer
  sink : SinkBehaviour
  tracer : Tracer
  /-- How many random choices have been made. -/
  drawn : Nat
  /-- The tasks that have ended and have not been joined, in order. -/
  toJoin : List Task
  /-- How many tasks have not been joined. -/
  unjoined : Nat
  firstError : Option Error
  main : MainStage
  /-- What has happened and when, the latest first. -/
  journal : List (Nat × Entry)

namespace Session

def newReader (plan : Plan) (source : Source) (pipe : PipeScript) : Reader where
  framer := Framer.create source plan.options.bufferSize plan.options.readLimit
  pipe := pipe
  stage := .asking

/-- A session before its start; a pipe that is missing has no reader. -/
def create (plan : Plan) (stdout stderr : Option PipeScript) (sink : SinkBehaviour) : Session :=
  let pipes := (if stdout.isSome then 1 else 0) + (if stderr.isSome then 1 else 0)
  let buffered : Bool := plan.options.mode = .nonBlocking
  { clock := 0
    cancelled := false
    stdout := stdout.map (newReader plan .stdout)
    stderr := stderr.map (newReader plan .stderr)
    drain := if buffered then some .waiting else none
    buffer := if buffered then some (Buffer.create plan.options.maxBufferSize pipes) else none
    sink := sink
    tracer := Tracer.create
    drawn := 0
    toJoin := []
    unjoined := pipes + if buffered then 1 else 0
    firstError := none
    main := .starting
    journal := [] }

def reader? (session : Session) : Source → Option Reader
  | .stdout => session.stdout
  | .stderr => session.stderr

def setReader (session : Session) (source : Source) (reader : Reader) : Session :=
  match source with
  | .stdout => { session with stdout := some reader }
  | .stderr => { session with stderr := some reader }

def note (session : Session) (entry : Entry) : Session :=
  { session with journal := (session.clock, entry) :: session.journal }

/-- What has happened, in order. -/
def history (session : Session) : List (Nat × Entry) :=
  session.journal.reverse

def record (session : Session) (counter : Counter) (amount : Nat) : Session :=
  { session with tracer := session.tracer.record counter amount }

end Session

end LogRelay
