import LogRelay.Proofs.Buffer.Messages
import LogRelay.Proofs.Framing.Bytes
import Mathlib.Logic.Relation

/-!
# What a buffer keeps beside its queue

A buffer counts the bytes of its queue and remembers whether it is closed.
Whatever operations it has seen, and in whatever order, the count agrees with the
messages in the queue, and it is closed exactly when all of its producers have
finished.  The bytes are within the capacity, but for a message that was too
large and came in alone.
-/

namespace LogRelay.Buffer

variable {fits : Message → Prop} {buffer rest after : Buffer} {message : Message}

/-! ## Single operations -/

theorem accepts_iff : buffer.accepts message = true ↔
    buffer.messages = [] ∨ buffer.size + message.size ≤ buffer.capacity := by
  rw [accepts, Bool.or_eq_true, Fifo.isEmpty_iff, decide_eq_true_iff]
  rfl

theorem accepts_eq_false_iff : buffer.accepts message = false ↔
    buffer.messages ≠ [] ∧ buffer.capacity < buffer.size + message.size := by
  rw [← Bool.not_eq_true, accepts_iff, not_or, Nat.not_le]

theorem enqueue_of_accepts (haccepts : buffer.accepts message = true) :
    buffer.enqueue message =
      { buffer with queue := buffer.queue.push message, size := buffer.size + message.size } :=
  if_pos haccepts

theorem enqueue_of_refuses (hrefuses : buffer.accepts message = false) :
    buffer.enqueue message = { buffer with dropped := buffer.dropped + 1 } :=
  if_neg (Bool.eq_false_iff.mp hrefuses)

/-! ## Soundness -/

/-- One operation on a buffer; the messages that are offered to it satisfy `fits`. -/
inductive Operation (fits : Message → Prop) (buffer : Buffer) : Buffer → Prop where
  | enqueues (message : Message) (hfits : fits message) :
      Operation fits buffer (buffer.enqueue message)
  | dequeues (message : Message) (rest : Buffer)
      (hdequeue : buffer.dequeue? = some (message, rest)) : Operation fits buffer rest
  | closes : Operation fits buffer buffer.closeProducer
  | flushes : Operation fits buffer buffer.flush

/-- The one buffer becomes the other by operations, one after the other. -/
def Reaches (fits : Message → Prop) (buffer after : Buffer) : Prop :=
  Relation.ReflTransGen (Operation fits) buffer after

/-- What is kept beside the queue agrees with it. -/
structure IsSound (buffer : Buffer) : Prop where
  size_eq : buffer.size = totalSize buffer.messages
  size_le : buffer.size ≤ buffer.capacity ∨ buffer.messages.length = 1
  closed_iff : buffer.closed = true ↔ buffer.producers ≤ buffer.closedProducers

theorem isSound_create (capacity producers : Nat) : (create capacity producers).IsSound where
  size_eq := rfl
  size_le := Or.inl (Nat.zero_le _)
  closed_iff := by simp [create]

theorem IsSound.enqueue (hsound : buffer.IsSound) (message : Message) :
    (buffer.enqueue message).IsSound := by
  cases haccepts : buffer.accepts message with
  | false =>
      rw [enqueue_of_refuses haccepts]
      exact ⟨hsound.size_eq, hsound.size_le, hsound.closed_iff⟩
  | true =>
      have hmessages := messages_enqueue buffer message
      rw [if_pos haccepts] at hmessages
      rw [enqueue_of_accepts haccepts] at hmessages ⊢
      refine ⟨?_, ?_, hsound.closed_iff⟩
      · rw [hmessages, totalSize_append, totalSize_cons, totalSize_nil, ← hsound.size_eq]
        rfl
      · rw [hmessages, List.length_append, List.length_singleton]
        rcases accepts_iff.mp haccepts with hempty | hroom
        · exact Or.inr (by rw [hempty, List.length_nil])
        · exact Or.inl hroom

/-- The bytes of a message that is taken have been counted. -/
theorem IsSound.size_le_of_dequeue? (hsound : buffer.IsSound)
    (hdequeue : buffer.dequeue? = some (message, rest)) : message.size ≤ buffer.size := by
  rw [hsound.size_eq, messages_of_dequeue? hdequeue, totalSize_cons]
  exact Nat.le_add_right _ _

theorem IsSound.dequeue? (hsound : buffer.IsSound)
    (hdequeue : buffer.dequeue? = some (message, rest)) : rest.IsSound := by
  have hmessages := messages_of_dequeue? hdequeue
  have htotal := hsound.size_eq
  rw [hmessages, totalSize_cons] at htotal
  have hrest := eq_of_dequeue? hdequeue
  have hsize : rest.size = buffer.size - message.size := by rw [hrest]
  have hcapacity : rest.capacity = buffer.capacity := by rw [hrest]
  refine ⟨?_, ?_, ?_⟩
  · rw [hsize, htotal, Nat.add_sub_cancel_left]
  · rw [hsize, hcapacity]
    rcases hsound.size_le with hle | hlength
    · exact Or.inl (Nat.le_trans (Nat.sub_le _ _) hle)
    · -- The only message has been taken, so no byte is left.
      rw [hmessages, List.length_cons, Nat.succ.injEq, List.length_eq_zero_iff] at hlength
      rw [hlength, totalSize_nil, Nat.add_zero] at htotal
      exact Or.inl (by rw [htotal, Nat.sub_self]; exact Nat.zero_le _)
  · rw [hrest]
    exact hsound.closed_iff

theorem IsSound.closeProducer (hsound : buffer.IsSound) : buffer.closeProducer.IsSound where
  size_eq := hsound.size_eq
  size_le := hsound.size_le
  closed_iff := by
    rw [Buffer.closeProducer, Bool.or_eq_true, hsound.closed_iff, decide_eq_true_iff]
    dsimp only
    omega

theorem IsSound.flush (hsound : buffer.IsSound) : buffer.flush.IsSound where
  size_eq := rfl
  size_le := Or.inl (Nat.zero_le _)
  closed_iff := hsound.closed_iff

/-- There is nothing to be done to an empty buffer. -/
theorem IsSound.flush_eq_self (hsound : buffer.IsSound) (hempty : buffer.messages = []) :
    buffer.flush = buffer := by
  have hsize := hsound.size_eq
  rw [hempty, totalSize_nil] at hsize
  rw [Buffer.flush, ← Fifo.eq_empty_of_toList hempty, ← hsize]

theorem IsSound.operation (hsound : buffer.IsSound) (hoperation : buffer.Operation fits after) :
    after.IsSound := by
  cases hoperation with
  | enqueues message hfits => exact hsound.enqueue message
  | dequeues message rest hdequeue => exact hsound.dequeue? hdequeue
  | closes => exact hsound.closeProducer
  | flushes => exact hsound.flush

theorem IsSound.reaches (hsound : buffer.IsSound) (hreaches : buffer.Reaches fits after) :
    after.IsSound := by
  induction hreaches with
  | refl => exact hsound
  | tail hbefore hoperation ih => exact ih.operation hoperation

/-! ## What operations keep -/

/-- The capacity and the number of producers are settled when the buffer is created. -/
theorem Operation.settings_eq (hoperation : buffer.Operation fits after) :
    after.capacity = buffer.capacity ∧ after.producers = buffer.producers := by
  cases hoperation with
  | enqueues message hfits =>
      rw [enqueue]
      split <;> exact ⟨rfl, rfl⟩
  | dequeues message rest hdequeue =>
      rw [eq_of_dequeue? hdequeue]
      exact ⟨rfl, rfl⟩
  | closes | flushes => exact ⟨rfl, rfl⟩

theorem Reaches.settings_eq (hreaches : buffer.Reaches fits after) :
    after.capacity = buffer.capacity ∧ after.producers = buffer.producers := by
  induction hreaches with
  | refl => exact ⟨rfl, rfl⟩
  | tail hbefore hoperation ih =>
      obtain ⟨hcapacity, hproducers⟩ := hoperation.settings_eq
      exact ⟨hcapacity.trans ih.1, hproducers.trans ih.2⟩

/-- A closed buffer stays closed. -/
theorem Operation.closed (hoperation : buffer.Operation fits after)
    (hclosed : buffer.closed = true) : after.closed = true := by
  cases hoperation with
  | enqueues message hfits => rw [closed_enqueue, hclosed]
  | dequeues message rest hdequeue => rw [closed_of_dequeue? hdequeue, hclosed]
  | closes => rw [Buffer.closeProducer, hclosed, Bool.true_or]
  | flushes => exact hclosed

theorem Reaches.closed (hreaches : buffer.Reaches fits after) (hclosed : buffer.closed = true) :
    after.closed = true := by
  induction hreaches with
  | refl => exact hclosed
  | tail hbefore hoperation ih => exact hoperation.closed ih

/-- The messages in the queue are among those that were offered. -/
theorem Operation.forall_fits (hoperation : buffer.Operation fits after)
    (hmessages : ∀ message ∈ buffer.messages, fits message) :
    ∀ message ∈ after.messages, fits message := by
  intro message hmem
  cases hoperation with
  | enqueues offered hfits =>
      rw [messages_enqueue, List.mem_append] at hmem
      rcases hmem with hbefore | hnew
      · exact hmessages message hbefore
      · split at hnew
        · rw [List.mem_singleton.mp hnew]
          exact hfits
        · exact absurd hnew List.not_mem_nil
  | dequeues taken rest hdequeue =>
      apply hmessages
      rw [messages_of_dequeue? hdequeue]
      exact List.mem_cons_of_mem _ hmem
  | closes => exact hmessages message hmem
  | flushes => exact absurd hmem List.not_mem_nil

theorem Reaches.forall_fits (hreaches : buffer.Reaches fits after)
    (hmessages : ∀ message ∈ buffer.messages, fits message) :
    ∀ message ∈ after.messages, fits message := by
  induction hreaches with
  | refl => exact hmessages
  | tail hbefore hoperation ih => exact hoperation.forall_fits ih

/-- No more bytes are in the queue than the capacity or the largest message has. -/
theorem IsSound.totalSize_le {bound : Nat} (hsound : buffer.IsSound)
    (hmessages : ∀ message ∈ buffer.messages, message.size ≤ bound) :
    totalSize buffer.messages ≤ max buffer.capacity bound := by
  rcases hsound.size_le with hle | hlength
  · rw [← hsound.size_eq]
    exact Nat.le_trans hle (Nat.le_max_left _ _)
  · obtain ⟨message, heq⟩ := List.length_eq_one_iff.mp hlength
    rw [heq, totalSize_cons, totalSize_nil, Nat.add_zero]
    exact Nat.le_trans (hmessages message (heq ▸ List.mem_singleton_self _)) (Nat.le_max_right _ _)

end LogRelay.Buffer
