import LogRelay.Fifo
import LogRelay.Message

/-!
# The buffer between readers and sender

A queue of messages bounded by the bytes of their lines.  Producers never wait:
a message that does not fit is refused.  An empty queue takes every message, so
that a line longer than the capacity still gets through.
-/

namespace LogRelay

structure Buffer where
  queue : Fifo Message
  /-- The line bytes in the queue. -/
  size : Nat
  capacity : Nat
  producers : Nat
  closedProducers : Nat
  closed : Bool
  /-- How many messages were refused. -/
  dropped : Nat
  deriving DecidableEq, Repr, Inhabited

namespace Buffer

/-- An empty buffer, which closes once that many producers have finished. -/
def create (capacity producers : Nat) : Buffer where
  queue := Fifo.empty
  size := 0
  capacity := capacity
  producers := producers
  closedProducers := 0
  closed := producers = 0
  dropped := 0

def messages (buffer : Buffer) : List Message :=
  buffer.queue.toList

/-- Whether the message is taken: it fits, or it would be alone. -/
def accepts (buffer : Buffer) (message : Message) : Bool :=
  buffer.queue.isEmpty || buffer.size + message.size ≤ buffer.capacity

/-- Adds the message at the end, or counts it as dropped. -/
def enqueue (buffer : Buffer) (message : Message) : Buffer :=
  if buffer.accepts message then
    { buffer with queue := buffer.queue.push message, size := buffer.size + message.size }
  else
    { buffer with dropped := buffer.dropped + 1 }

/-- Takes the oldest message. -/
def dequeue? (buffer : Buffer) : Option (Message × Buffer) :=
  match buffer.queue.pop? with
  | some (message, queue) =>
    some (message, { buffer with queue := queue, size := buffer.size - message.size })
  | none => none

/-- One more producer has finished; the last one closes the buffer. -/
def closeProducer (buffer : Buffer) : Buffer :=
  { buffer with
    closedProducers := buffer.closedProducers + 1
    closed := buffer.closed || buffer.producers ≤ buffer.closedProducers + 1 }

/-- The buffer after everything in it has been taken. -/
def flush (buffer : Buffer) : Buffer :=
  { buffer with queue := Fifo.empty, size := 0 }

end Buffer

end LogRelay
