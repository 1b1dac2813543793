import LogRelay.Behaviour.Pipe
import LogRelay.Error
import LogRelay.Tracer

/-!
# A framer on a timeline

A framer reads a pipe of known behaviour.  Time passes only while the pipe
keeps the framer waiting.
-/

namespace LogRelay

structure FramerTimeline where
  framer : Framer
  pipe : PipeScript
  clock : Nat
  cancelled : Bool
  /-- The sizes that the reads asked for, the latest first. -/
  asked : List Nat
  tracer : Tracer
  deriving Repr

namespace FramerTimeline

/-- What a request for a message comes to. -/
inductive Answer where
  | message (message : Message)
  | finished
  | failed (error : Error)
  /-- Nothing came before the time limit. -/
  | hang
  | crashed
  deriving DecidableEq, Repr

/-- What the pipe and the clock give it to do. -/
structure World where
  ids : Nat → String
  time : Nat → Timestamp
  /-- How long one request may take. -/
  patienceMs : Nat

/-- A bound for the number of looks at a pipe. -/
def work : PipeScript → Nat
  | [] => 1
  | .data bytes :: rest => bytes.length + 1 + work rest
  | _ :: rest => 3 + work rest

/-- Takes note of a read and of how much it has brought. -/
def countRead (timeline : FramerTimeline) (asked : Nat) (result : ReadResult) : FramerTimeline :=
  let tracer :=
    match result with
    | .data bytes => timeline.tracer.record .read bytes.length
    | .failed _ => timeline.tracer
  { timeline with asked := asked :: timeline.asked, tracer := tracer }

/-- Frames what a read has brought, and counts the newlines that the pass over the
buffer has met. -/
def takeUp (world : World) (timeline : FramerTimeline) (bytes : Bytes) : FramerTimeline :=
  let received := timeline.framer.receive world.ids (world.time timeline.clock) bytes
  { timeline with
    framer := received.1
    tracer := timeline.tracer.record .newlines received.2 }

/-- Asks for the next message.  `looking` tells that a read is being looked at,
during which a cancellation goes unnoticed. -/
def nextFor (world : World) (deadline : Nat) :
    (fuel : Nat) → (looking : Bool) → FramerTimeline → FramerTimeline × Answer
  | 0, _, timeline => (timeline, .hang)
  | fuel + 1, looking, timeline =>
    match timeline.framer.demand (timeline.cancelled && !looking) with
    | .message message framer => ({ timeline with framer := framer }, .message message)
    | .finished => (timeline, .finished)
    | .read asked =>
      let (answer, pipe) := timeline.pipe.look timeline.clock asked
      let timeline := { timeline with pipe := pipe }
      match answer with
      | .ready result =>
        let timeline := timeline.countRead asked result
        match result with
        | .failed failure =>
          if failure.isInterruption then nextFor world deadline fuel false timeline
          else (timeline, .failed (.read timeline.framer.source failure))
        | .data bytes => nextFor world deadline fuel false (timeline.takeUp world bytes)
      | .crashed => (timeline, .crashed)
      | .cancels => nextFor world deadline fuel true { timeline with cancelled := true }
      | .pending until? =>
        if timeline.cancelled then (timeline, .finished)
        else
          match until? with
          | none => ({ timeline with clock := deadline }, .hang)
          | some time =>
            if deadline < time then ({ timeline with clock := deadline }, .hang)
            else nextFor world deadline fuel false { timeline with clock := time }

def next (world : World) (timeline : FramerTimeline) : FramerTimeline × Answer :=
  nextFor world (timeline.clock + world.patienceMs) (work timeline.pipe + 2) false timeline

/-- Asks for messages until an answer is not a message; the answers in order. -/
def drainFor (world : World) : Nat → FramerTimeline → FramerTimeline × List Answer
  | 0, timeline => (timeline, [])
  | fuel + 1, timeline =>
    match timeline.next world with
    | (timeline, .message message) =>
      let (timeline, answers) := drainFor world fuel timeline
      (timeline, .message message :: answers)
    | (timeline, answer) => (timeline, [answer])

/-- There are no more messages than pending ones and bytes still to come. -/
def drain (world : World) (timeline : FramerTimeline) : FramerTimeline × List Answer :=
  drainFor world (work timeline.pipe + timeline.framer.pending.length + 2) timeline

end FramerTimeline

end LogRelay
