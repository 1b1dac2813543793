import LogRelay.Proofs.Buffer.Operations

/-!
# The numbers of a buffer in words

A machine keeps the numbers of a buffer in words of 64 bits, where a sum wraps around.  As
long as the capacity and one more of the largest messages fit a word, the bytes of the queue
never wrap around, so the buffer decides as it would with numbers of any size.  The count of
refused messages is bounded by nothing: it is kept modulo 2 to the 64th.
-/

namespace LogRelay

/-- A buffer whose numbers are words. -/
structure WordBuffer where
  queue : List Message
  size : UInt64
  capacity : UInt64
  producers : UInt64
  closedProducers : UInt64
  closed : Bool
  dropped : UInt64
  deriving DecidableEq, Repr

/-- What can be asked of a buffer. -/
inductive BufferCall where
  | offer (message : Message)
  | take
  | close
  | flush
  deriving DecidableEq, Repr

namespace BufferCall

/-- The bytes of the message that is offered, if one is. -/
def size : BufferCall → Nat
  | offer message => message.size
  | _ => 0

/-- How many producers finish with the calls. -/
def closings : List BufferCall → Nat
  | [] => 0
  | close :: calls => closings calls + 1
  | _ :: calls => closings calls

end BufferCall

namespace WordBuffer

def create (capacity producers : UInt64) : WordBuffer :=
  ⟨[], 0, capacity, producers, 0, producers = 0, 0⟩

def perform (buffer : WordBuffer) : BufferCall → WordBuffer
  | .offer message =>
    if buffer.queue.isEmpty || buffer.size + UInt64.ofNat message.size ≤ buffer.capacity then
      { buffer with
        queue := buffer.queue ++ [message], size := buffer.size + UInt64.ofNat message.size }
    else { buffer with dropped := buffer.dropped + 1 }
  | .take =>
    match buffer.queue with
    | message :: rest =>
      { buffer with queue := rest, size := buffer.size - UInt64.ofNat message.size }
    | [] => buffer
  | .close =>
    { buffer with
      closedProducers := buffer.closedProducers + 1
      closed := buffer.closed || buffer.producers ≤ buffer.closedProducers + 1 }
  | .flush => if buffer.queue.isEmpty then buffer else { buffer with queue := [], size := 0 }

end WordBuffer

namespace Buffer

variable {buffer : Buffer} {call : BufferCall} {calls : List BufferCall} {bound closings : Nat}

def perform (buffer : Buffer) : BufferCall → Buffer
  | .offer message => buffer.enqueue message
  | .take =>
    match buffer.dequeue? with
    | some (_, rest) => rest
    | none => buffer
  | .close => buffer.closeProducer
  | .flush => buffer.flush

/-- The buffer with its numbers in words. -/
def toWords (buffer : Buffer) : WordBuffer where
  queue := buffer.messages
  size := UInt64.ofNat buffer.size
  capacity := UInt64.ofNat buffer.capacity
  producers := UInt64.ofNat buffer.producers
  closedProducers := UInt64.ofNat buffer.closedProducers
  closed := buffer.closed
  dropped := UInt64.ofNat buffer.dropped

/-- Refused messages are counted modulo the range of a word. -/
theorem toNat_dropped_toWords (buffer : Buffer) :
    buffer.toWords.dropped.toNat = buffer.dropped % UInt64.size :=
  UInt64.toNat_ofNat'

/-- In the buffer and in calls with messages up to that bound no number but the count of
refused messages outgrows a word, if as many producers are still to finish. -/
structure FitsWords (bound closings : Nat) (buffer : Buffer) : Prop where
  sound : buffer.IsSound
  messages_le : ∀ message ∈ buffer.messages, message.size ≤ bound
  sizes_lt : max buffer.capacity bound + bound < UInt64.size
  producers_lt : buffer.producers < UInt64.size
  closed_lt : buffer.closedProducers + closings < UInt64.size

theorem FitsWords.size_add_lt {message : Message} (hfits : buffer.FitsWords bound closings)
    (hmessage : message.size ≤ bound) : buffer.size + message.size < UInt64.size := by
  have htotal := hfits.sound.totalSize_le hfits.messages_le
  rw [← hfits.sound.size_eq] at htotal
  exact Nat.lt_of_le_of_lt (Nat.add_le_add htotal hmessage) hfits.sizes_lt

theorem FitsWords.capacity_lt (hfits : buffer.FitsWords bound closings) :
    buffer.capacity < UInt64.size :=
  Nat.lt_of_le_of_lt (Nat.le_trans (Nat.le_max_left _ _) (Nat.le_add_right _ _)) hfits.sizes_lt

/-! ## One call -/

theorem ofNat_le_ofNat_iff {left right : Nat} (hleft : left < UInt64.size)
    (hright : right < UInt64.size) : UInt64.ofNat left ≤ UInt64.ofNat right ↔ left ≤ right := by
  rw [UInt64.le_iff_toNat_le, UInt64.toNat_ofNat_of_lt' hleft, UInt64.toNat_ofNat_of_lt' hright]

theorem toWords_enqueue {message : Message} (hfits : buffer.FitsWords bound closings)
    (hmessage : message.size ≤ bound) :
    (buffer.enqueue message).toWords = buffer.toWords.perform (.offer message) := by
  have haccepts : buffer.accepts message = (buffer.toWords.queue.isEmpty ||
      decide (buffer.toWords.size + UInt64.ofNat message.size ≤ buffer.toWords.capacity)) := by
    rw [Bool.eq_iff_iff, accepts_iff, Bool.or_eq_true, List.isEmpty_iff, decide_eq_true_iff,
      toWords, ← UInt64.ofNat_add,
      ofNat_le_ofNat_iff (hfits.size_add_lt hmessage) hfits.capacity_lt]
  rw [WordBuffer.perform, ← haccepts]
  cases hcase : buffer.accepts message with
  | true =>
      have hmessages := messages_enqueue buffer message
      rw [hcase, if_pos rfl] at hmessages
      rw [if_pos rfl, toWords, hmessages, enqueue_of_accepts hcase]
      simp [toWords]
  | false =>
      have hmessages := messages_enqueue buffer message
      rw [hcase, if_neg Bool.false_ne_true, List.append_nil] at hmessages
      rw [if_neg Bool.false_ne_true, toWords, hmessages, enqueue_of_refuses hcase]
      simp [toWords]

theorem toWords_take (hsound : buffer.IsSound) :
    (buffer.perform .take).toWords = buffer.toWords.perform .take := by
  cases hdequeue : buffer.dequeue? with
  | none =>
      have hempty := dequeue?_eq_none_iff.mp hdequeue
      simp only [perform, hdequeue, WordBuffer.perform, toWords, hempty]
  | some taken =>
      obtain ⟨message, rest⟩ := taken
      have hmessages := messages_of_dequeue? hdequeue
      have hle := hsound.size_le_of_dequeue? hdequeue
      simp only [perform, hdequeue, WordBuffer.perform, toWords, hmessages]
      rw [eq_of_dequeue? hdequeue]
      simp only [UInt64.ofNat_sub hle]

theorem toWords_closeProducer (hproducers : buffer.producers < UInt64.size)
    (hclosed : buffer.closedProducers + 1 < UInt64.size) :
    buffer.closeProducer.toWords = buffer.toWords.perform .close := by
  have hle := ofNat_le_ofNat_iff hproducers hclosed
  rw [UInt64.ofNat_add] at hle
  simp only [closeProducer, toWords, WordBuffer.perform, UInt64.ofNat_add, messages]
  congr 2
  exact decide_eq_decide.mpr hle.symm

theorem toWords_flush (hsound : buffer.IsSound) :
    buffer.flush.toWords = buffer.toWords.perform .flush := by
  rw [WordBuffer.perform]
  split
  · next hempty => rw [hsound.flush_eq_self (List.isEmpty_iff.mp hempty)]
  · rfl

/-! ## Runs of calls -/

theorem perform_reaches (buffer : Buffer) (hcall : call.size ≤ bound) :
    buffer.Reaches (·.size ≤ bound) (buffer.perform call) := by
  cases call with
  | offer message => exact .single (.enqueues message hcall)
  | take =>
      rw [perform]
      split
      · next message rest hdequeue => exact .single (.dequeues message rest hdequeue)
      · exact .refl
  | close => exact .single .closes
  | flush => exact .single .flushes

/-- A producer that has finished is not still to finish. -/
theorem closedProducers_perform (buffer : Buffer) (call : BufferCall) (calls : List BufferCall) :
    (buffer.perform call).closedProducers + BufferCall.closings calls =
      buffer.closedProducers + BufferCall.closings (call :: calls) := by
  cases call with
  | offer message =>
      rw [perform, enqueue]
      split <;> rfl
  | take =>
      rw [perform]
      split
      · next message rest hdequeue =>
          rw [eq_of_dequeue? hdequeue]
          rfl
      · rfl
  | close => exact Nat.add_right_comm _ _ _
  | flush => rfl

theorem FitsWords.perform (hfits : buffer.FitsWords bound (BufferCall.closings (call :: calls)))
    (hcall : call.size ≤ bound) :
    (buffer.perform call).FitsWords bound (BufferCall.closings calls) := by
  have hreaches := perform_reaches buffer hcall
  obtain ⟨hcapacity, hproducers⟩ := hreaches.settings_eq
  refine ⟨hfits.sound.reaches hreaches, hreaches.forall_fits hfits.messages_le, ?_, ?_, ?_⟩
  · rw [hcapacity]
    exact hfits.sizes_lt
  · rw [hproducers]
    exact hfits.producers_lt
  · rw [closedProducers_perform]
    exact hfits.closed_lt

theorem toWords_perform (hfits : buffer.FitsWords bound (BufferCall.closings (call :: calls)))
    (hcall : call.size ≤ bound) :
    (buffer.perform call).toWords = buffer.toWords.perform call := by
  cases call with
  | offer message => exact toWords_enqueue hfits hcall
  | take => exact toWords_take hfits.sound
  | close =>
      refine toWords_closeProducer hfits.producers_lt (Nat.lt_of_le_of_lt ?_ hfits.closed_lt)
      exact Nat.add_le_add_left (Nat.le_add_left _ _) _
  | flush => exact toWords_flush hfits.sound

theorem FitsWords.toWords_foldl (hfits : buffer.FitsWords bound (BufferCall.closings calls))
    (hcalls : ∀ call ∈ calls, call.size ≤ bound) :
    (calls.foldl Buffer.perform buffer).toWords =
      calls.foldl WordBuffer.perform buffer.toWords := by
  induction calls generalizing buffer with
  | nil => rfl
  | cons call calls ih =>
      obtain ⟨hcall, hlater⟩ := List.forall_mem_cons.mp hcalls
      rw [List.foldl_cons, List.foldl_cons, ih (hfits.perform hcall) hlater,
        toWords_perform hfits hcall]

/-- A buffer of words does what one does whose numbers have no bound, whatever it is asked,
if the capacity and one more message fit a word and so do the producers that finish.  Only
the count of refused messages may wrap around. -/
theorem toWords_foldl_create {capacity producers : Nat}
    (hsizes : max capacity bound + bound < UInt64.size) (hproducers : producers < UInt64.size)
    (hcloses : BufferCall.closings calls < UInt64.size)
    (hcalls : ∀ call ∈ calls, call.size ≤ bound) :
    (calls.foldl perform (create capacity producers)).toWords =
      calls.foldl WordBuffer.perform
        (.create (UInt64.ofNat capacity) (UInt64.ofNat producers)) := by
  have hfits : (create capacity producers).FitsWords bound (BufferCall.closings calls) :=
    ⟨isSound_create capacity producers, fun _ hmem => absurd hmem List.not_mem_nil, hsizes,
      hproducers, (Nat.zero_add _).symm ▸ hcloses⟩
  have hzero : (UInt64.ofNat producers = 0) ↔ producers = 0 := by
    rw [← UInt64.toNat_inj, UInt64.toNat_ofNat_of_lt' hproducers]
    rfl
  rw [hfits.toWords_foldl hcalls]
  congr 1
  simp [toWords, create, WordBuffer.create, messages, hzero]

end Buffer

end LogRelay
