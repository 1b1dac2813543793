import LogRelay.Failure
import LogRelay.Message
import LogRelay.Text.Lines

/-!
# The framer of a pipe

A line ends at a newline.  A line that fills the working buffer before it ends
is cut into a run of segments, and so is one that the end of the stream leaves
unfinished.  Empty lines are not messages.

A framer asks its pipe for bytes, never for more than its buffer has room for.
After each read it passes over its buffer: the lines that have ended are taken
out, a buffer that is full of one unfinished line becomes a segment, and what is
left is moved to the front.  The messages are handed out in order.

Of the buffer only the filled part is kept here.  The bytes behind it are old,
and no pass looks at them.
-/

namespace LogRelay

/-- A split line in progress: the segments so far share the identifier and the
time, and `ordinal` is the place of the latest one.  It is a 32-bit number, which
begins again at zero if a line ever has that many segments. -/
structure OpenRun where
  id : String
  ordinal : UInt32
  time : Timestamp
  deriving DecidableEq, Repr

/-- The run that the next segment belongs to, with the place of that segment.  If
no run is in progress, one begins with that identifier and time. -/
def OpenRun.next (run? : Option OpenRun) (id : String) (now : Timestamp) : OpenRun :=
  match run? with
  | none => ⟨id, 1, now⟩
  | some run => { run with ordinal := run.ordinal + 1 }

/-- What one read of a pipe comes to.  No bytes at all are the end of the stream. -/
inductive ReadResult where
  | data (bytes : Bytes)
  | failed (failure : Failure)
  deriving DecidableEq, Repr

/-- How far a pass over the buffer has come. -/
structure Pass where
  run : Option OpenRun
  /-- How many runs have begun; each takes the identifier of its number. -/
  runsBegun : Nat
  /-- The messages that the pass has made, the latest first. -/
  made : List Message
  /-- How many bytes at the front of the buffer are done with. -/
  consumed : Nat
  newlines : Nat
  deriving DecidableEq, Repr

namespace Pass

/-- A line that a newline has ended: a whole one, or the last segment of the run in
progress.  An empty line that belongs to no run is dropped. -/
def emitLine (pass : Pass) (source : Source) (now : Timestamp) (line : Bytes) : Pass :=
  match pass.run with
  | none =>
    if line.isEmpty then pass
    else { pass with made := Message.complete line source now :: pass.made }
  | some run =>
    { pass with
      run := none
      made := ⟨line, source, run.time, some ⟨run.id, run.ordinal + 1, true⟩⟩ :: pass.made }

/-- A segment that no newline has ended. -/
def emitPartial (pass : Pass) (source : Source) (ids : Nat → String) (now : Timestamp)
    (line : Bytes) (last : Bool) : Pass :=
  let run := OpenRun.next pass.run (ids pass.runsBegun) now
  { pass with
    run := if last then none else some run
    runsBegun := pass.runsBegun + if pass.run.isNone then 1 else 0
    made := ⟨line, source, run.time, some ⟨run.id, run.ordinal, last⟩⟩ :: pass.made }

/-- Takes a line out of the buffer, and its newline with it. -/
def takeLine (source : Source) (now : Timestamp) (pass : Pass) (line : Bytes) : Pass :=
  { pass.emitLine source now line with
    consumed := pass.consumed + line.length + 1
    newlines := pass.newlines + 1 }

/-- Looks for the newlines in what is left of the buffer, and takes a line out at each
of them.  `rest` is what stands in `left` behind the `place` bytes looked at so far. -/
def takeLines (source : Source) (now : Timestamp) :
    (pass : Pass) → (left : Bytes) → (place : Nat) → (rest : Bytes) → Pass
  | pass, _, _, [] => pass
  | pass, left, place, byte :: rest =>
    if byte = newline then
      takeLines source now (pass.takeLine source now (left.take place)) rest 0 rest
    else takeLines source now pass left (place + 1) rest

end Pass

structure Framer where
  source : Source
  /-- The size of the working buffer. -/
  capacity : Nat
  /-- The filled part of the working buffer. -/
  buffer : Bytes
  /-- The most bytes that one read asks for. -/
  readLimit : Nat
  run : Option OpenRun
  runsBegun : Nat
  /-- Messages that have been made and not yet been handed out. -/
  pending : List Message
  ended : Bool
  deriving DecidableEq, Repr, Inhabited

namespace Framer

/-- The buffer holds at least one byte, and a read asks for one at least.  Every size
is taken, also one of 2 to the 63rd bytes or more, for which a machine has no memory. -/
def create (source : Source) (bufferSize readLimit : Nat) : Framer where
  source := source
  capacity := max bufferSize 1
  buffer := []
  readLimit := max 1 (min readLimit (max bufferSize 1))
  run := none
  runsBegun := 0
  pending := []
  ended := false

/-- How many bytes the next read asks for. -/
def request (framer : Framer) : Nat :=
  min framer.readLimit (framer.capacity - framer.buffer.length)

/-- What the framer does when it is asked for a message. -/
inductive Demand where
  | message (message : Message) (framer : Framer)
  | finished
  | read (asked : Nat)
  deriving Repr

/-- Pending messages come first; then the end of the stream and a cancellation
end it; otherwise the pipe has to be read. -/
def demand (framer : Framer) (cancelled : Bool) : Demand :=
  match framer.pending with
  | message :: rest => .message message { framer with pending := rest }
  | [] => if framer.ended || cancelled then .finished else .read framer.request

/-- A pass that has not looked at the buffer yet. -/
def startPass (framer : Framer) : Pass where
  run := framer.run
  runsBegun := framer.runsBegun
  made := []
  consumed := 0
  newlines := 0

/-- The end of a pass.  The buffer counts as full only if no line has been taken out of
it: then there is room again.  At the end of the stream what is left of a line is the
last segment of its run, and a run whose bytes are all out is closed by an empty one. -/
def finishPass (framer : Framer) (ids : Nat → String) (now : Timestamp) (pass : Pass) : Pass :=
  let full : Bool := framer.buffer.length = framer.capacity && pass.consumed = 0
  if (full || framer.ended) && pass.consumed < framer.buffer.length then
    { pass.emitPartial framer.source ids now (framer.buffer.drop pass.consumed) framer.ended with
      consumed := framer.buffer.length }
  else if framer.ended && pass.run.isSome then pass.emitPartial framer.source ids now [] true
  else pass

/-- The pass over the buffer that follows a read. -/
def pass (framer : Framer) (ids : Nat → String) (now : Timestamp) : Pass :=
  framer.finishPass ids now
    (Pass.takeLines framer.source now framer.startPass framer.buffer 0 framer.buffer)

/-- What a pass leaves: the bytes that are not done with are moved to the front. -/
def keep (framer : Framer) (pass : Pass) : Framer :=
  { framer with
    buffer := framer.buffer.drop pass.consumed
    run := pass.run
    runsBegun := pass.runsBegun
    pending := framer.pending ++ pass.made.reverse }

/-- Puts what a read has brought behind the filled part of the buffer. -/
def fill (framer : Framer) (bytes : Bytes) : Framer :=
  if bytes.isEmpty then { framer with ended := true }
  else { framer with buffer := framer.buffer ++ bytes }

/-- Takes what a read has brought, and passes over the buffer.  Also says how many
newlines the pass has met. -/
def receive (framer : Framer) (ids : Nat → String) (now : Timestamp) (bytes : Bytes) :
    Framer × Nat :=
  let filled := framer.fill bytes
  let pass := filled.pass ids now
  (filled.keep pass, pass.newlines)

end Framer

end LogRelay
