import LogRelay.Buffer.Basic

/-!
# The buffer as a list of messages

What each operation does to the messages of the buffer, in the order in which
they will be taken, and what it leaves as it is.
-/

namespace LogRelay.Buffer

variable {buffer rest : Buffer} {message : Message}

theorem messages_enqueue (buffer : Buffer) (message : Message) :
    (buffer.enqueue message).messages =
      buffer.messages ++ if buffer.accepts message then [message] else [] := by
  rw [enqueue]
  split
  · exact Fifo.toList_push _ _
  · exact (List.append_nil _).symm

@[simp]
theorem closed_enqueue (buffer : Buffer) (message : Message) :
    (buffer.enqueue message).closed = buffer.closed := by
  rw [enqueue]
  split <;> rfl

theorem dropped_enqueue (buffer : Buffer) (message : Message) :
    (buffer.enqueue message).dropped =
      buffer.dropped + if buffer.accepts message then 0 else 1 := by
  rw [enqueue]
  split <;> rfl

/-- A message that is taken was the first one. -/
theorem messages_of_dequeue? (hdequeue : buffer.dequeue? = some (message, rest)) :
    buffer.messages = message :: rest.messages := by
  rw [dequeue?] at hdequeue
  cases hpop : buffer.queue.pop? with
  | none => simp [hpop] at hdequeue
  | some popped =>
      obtain ⟨first, queue⟩ := popped
      simp only [hpop, Option.some.injEq, Prod.mk.injEq] at hdequeue
      obtain ⟨rfl, rfl⟩ := hdequeue
      exact Fifo.toList_of_pop? hpop

theorem dequeue?_eq_none_iff : buffer.dequeue? = none ↔ buffer.messages = [] := by
  rw [messages, ← Fifo.pop?_eq_none_iff, dequeue?]
  cases buffer.queue.pop? <;> simp

/-- All that a dequeue changes besides the queue is the number of bytes. -/
theorem eq_of_dequeue? (hdequeue : buffer.dequeue? = some (message, rest)) :
    rest = { buffer with queue := rest.queue, size := buffer.size - message.size } := by
  rw [dequeue?] at hdequeue
  cases hpop : buffer.queue.pop? with
  | none => simp [hpop] at hdequeue
  | some popped =>
      simp only [hpop, Option.some.injEq, Prod.mk.injEq] at hdequeue
      obtain ⟨rfl, rfl⟩ := hdequeue
      rfl

theorem closed_of_dequeue? (hdequeue : buffer.dequeue? = some (message, rest)) :
    rest.closed = buffer.closed := by
  rw [eq_of_dequeue? hdequeue]

theorem dropped_of_dequeue? (hdequeue : buffer.dequeue? = some (message, rest)) :
    rest.dropped = buffer.dropped := by
  rw [eq_of_dequeue? hdequeue]

@[simp]
theorem messages_closeProducer (buffer : Buffer) :
    buffer.closeProducer.messages = buffer.messages := rfl

@[simp]
theorem dropped_closeProducer (buffer : Buffer) :
    buffer.closeProducer.dropped = buffer.dropped := rfl

@[simp]
theorem messages_flush (buffer : Buffer) : buffer.flush.messages = [] := rfl

@[simp]
theorem dropped_flush (buffer : Buffer) : buffer.flush.dropped = buffer.dropped := rfl

end LogRelay.Buffer
