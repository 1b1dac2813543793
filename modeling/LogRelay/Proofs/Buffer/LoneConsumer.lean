import LogRelay.Proofs.Buffer.Turns

/-!
# A buffer with one consumer

Where only one consumer takes from a buffer and each operation runs to its end before the
next one begins, the consumer either is not registered or waits.  If it waits without a
signal, there is nothing for it to find.  So what its turn comes to depends on nothing but
the buffer.
-/

namespace LogRelay.Monitor

variable {monitor : Monitor} {name : Nat} {waiting : Prop}

/-- Nobody is on the list but the consumer with that name, if it may wait. -/
def IsLone (name : Nat) (waiting : Prop) (consumers : List Consumer) : Prop :=
  consumers = [] ∨ waiting ∧ ∃ signal, consumers = [⟨name, signal, true⟩]

/-- No wake-up is owed, and nobody waits but the one consumer. -/
structure Serves (name : Nat) (waiting : Prop) (monitor : Monitor) : Prop where
  attentive : monitor.Attentive
  no_wakes : monitor.owedWakes = 0
  no_broadcasts : monitor.owedBroadcasts = 0
  lone : IsLone name waiting monitor.consumers

theorem serves_create (capacity producers name : Nat) (waiting : Prop) :
    (create capacity producers).Serves name waiting :=
  ⟨attentive_create capacity producers, rfl, rfl, Or.inl rfl⟩

theorem Serves.mono {later : Prop} (hserves : monitor.Serves name waiting)
    (himp : waiting → later) : monitor.Serves name later :=
  { hserves with lone := hserves.lone.imp_right (And.imp_left himp) }

/-! ## Producers -/

theorem IsLone.wakeOne (hlone : IsLone name waiting monitor.consumers) :
    IsLone name waiting monitor.wakeOne.consumers := by
  rcases hlone with hnone | ⟨hwaiting, _ | signal, hone⟩
  · exact Or.inl (by simp [Monitor.wakeOne, hnone, choose])
  · exact Or.inr ⟨hwaiting, some .chosen, by simp [Monitor.wakeOne, hone, choose]⟩
  · exact Or.inr ⟨hwaiting, some signal, by simp [Monitor.wakeOne, hone, choose]⟩

theorem IsLone.wakeAll (hlone : IsLone name waiting monitor.consumers) :
    IsLone name waiting monitor.wakeAll.consumers := by
  rcases hlone with hnone | ⟨hwaiting, _ | signal, hone⟩
  · exact Or.inl (by simp [Monitor.wakeAll, hnone])
  · exact Or.inr ⟨hwaiting, some .broadcast, by simp [Monitor.wakeAll, hone]⟩
  · exact Or.inr ⟨hwaiting, some signal, by simp [Monitor.wakeAll, hone]⟩

@[simp]
theorem buffer_put (monitor : Monitor) (message : Message) :
    (monitor.put message).1.buffer = monitor.buffer.enqueue message :=
  buffer_wakeOne _

@[simp]
theorem buffer_finishProducer (monitor : Monitor) :
    monitor.finishProducer.buffer = monitor.buffer.closeProducer := by
  rw [finishProducer]
  split <;> rfl

theorem Serves.put (hserves : monitor.Serves name waiting) (message : Message) :
    (monitor.put message).1.Serves name waiting where
  attentive := (reaches_put monitor message).attentive hserves.attentive
  no_wakes := (owedWakes_wakeOne _).trans hserves.no_wakes
  no_broadcasts := (owedBroadcasts_wakeOne _).trans hserves.no_broadcasts
  lone := IsLone.wakeOne hserves.lone

theorem Serves.finishProducer (hserves : monitor.Serves name waiting) :
    monitor.finishProducer.Serves name waiting := by
  have hattentive := (reaches_finishProducer monitor).attentive hserves.attentive
  have hbroadcasts := hserves.no_broadcasts
  rw [Monitor.finishProducer] at hattentive ⊢
  split at hattentive
  · next howed =>
      rw [if_pos howed]
      refine ⟨hattentive, hserves.no_wakes, ?_, IsLone.wakeAll hserves.lone⟩
      simp only [wakeAll, close, hbroadcasts] at howed ⊢
      split <;> rfl
  · next howed =>
      rw [if_neg howed]
      exact ⟨hattentive, hserves.no_wakes, Nat.eq_zero_of_not_pos howed, hserves.lone⟩

theorem Serves.takeAll (hserves : monitor.Serves name waiting) :
    monitor.takeAll.1.Serves name waiting :=
  { hserves with attentive := (reaches_takeAll monitor).attentive hserves.attentive }

/-! ## The consumer -/

theorem Serves.looked (hserves : monitor.Serves name waiting) {consumer : Consumer}
    (hfind : monitor.find? name = some consumer) : consumer.looked = true := by
  have hmem := (mem_of_find? hfind).1
  rcases hserves.lone with hnone | ⟨-, signal, hone⟩
  · exact absurd (hnone ▸ hmem) List.not_mem_nil
  · rw [hone] at hmem
    rw [List.mem_singleton.mp hmem]

/-- The consumer is given up, be it while it waits. -/
theorem Serves.abandon (hserves : monitor.Serves name waiting) :
    monitor.Turn (monitor.abandon name) ∧ (monitor.abandon name).buffer = monitor.buffer ∧
      (monitor.abandon name).Serves name False := by
  have hturn : monitor.Turn (monitor.abandon name) := .givesUp name fun _ => hserves.looked
  have hattentive := hturn.reaches.attentive hserves.attentive
  refine ⟨hturn, ?_⟩
  rcases hserves.lone with hnone | ⟨-, signal, hone⟩
  · have hsame : monitor.abandon name = monitor := by simp [Monitor.abandon, find?, hnone]
    rw [hsame]
    exact ⟨rfl, { hserves with lone := Or.inl hnone }⟩
  · have hleave : monitor.abandon name = monitor.leave ⟨name, signal, true⟩ := by
      simp [Monitor.abandon, find?, hone]
    have hnames := names_leave monitor ⟨name, signal, true⟩
    rw [names, names, hone] at hnames
    rw [hleave] at hattentive ⊢
    refine ⟨buffer_leave _ _, hattentive, ?_, ?_, ?_⟩
    · rw [owedWakes_leave, hserves.no_wakes]
    · rw [owedBroadcasts_leave, hserves.no_broadcasts]
    · exact Or.inl (List.map_eq_nil_iff.mp (hnames.trans (by simp)))

/-- A consumer that registers afresh looks, and looks again if the permit was left for it. -/
theorem pollFor_register (hnone : monitor.consumers = []) (rounds : Nat) :
    (monitor.register name).pollFor (rounds + 4) name =
      match monitor.buffer.dequeue? with
      | some (message, rest) =>
        ({ monitor with buffer := rest, permit := false }, some (some message))
      | none =>
        if monitor.buffer.closed then ({ monitor with permit := false }, some none)
        else ({ monitor with consumers := [⟨name, none, true⟩], permit := false }, none) := by
  obtain ⟨buffer, consumers, permit, owedWakes, owedBroadcasts⟩ := monitor
  obtain rfl : consumers = [] := hnone
  cases hdequeue : buffer.dequeue? with
  | some taken =>
      obtain ⟨message, rest⟩ := taken
      cases permit <;>
        simp [pollFor, register, find?, look, leave, remove, takenOf?, hdequeue]
  | none =>
      cases hclosed : buffer.closed <;> cases permit <;>
        simp [pollFor, register, find?, look, leave, remove, takenOf?, hdequeue, hclosed]

/-- If the consumer waits without a signal, it would find nothing. -/
theorem Serves.nothing_of_idle {consumer : Consumer} (hserves : monitor.Serves name waiting)
    (hmem : consumer ∈ monitor.consumers) (hidle : consumer.IsIdle) :
    monitor.buffer.dequeue? = none ∧ monitor.buffer.closed = false := by
  have hsettled : monitor.Settled := by
    refine ⟨hserves.no_wakes, hserves.no_broadcasts, fun other hother => ?_⟩
    rcases hserves.lone with hnone | ⟨-, signal, hone⟩
    · exact absurd (hnone ▸ hmem) List.not_mem_nil
    · rw [hone] at hmem hother
      rw [List.mem_singleton.mp hother, ← List.mem_singleton.mp hmem]
      exact hidle
  rw [Buffer.dequeue?_eq_none_iff]
  exact hserves.attentive.nothing_of_settled hsettled (List.ne_nil_of_mem hmem)

/-- What the turn of the consumer comes to is a matter of the buffer alone. -/
theorem Serves.turn_eq (hserves : monitor.Serves name waiting) :
    ∃ permit, monitor.turn name =
      match monitor.buffer.dequeue? with
      | some (message, rest) =>
        ({ monitor with buffer := rest, consumers := [], permit := permit }, some (some message))
      | none =>
        if monitor.buffer.closed then
          ({ monitor with consumers := [], permit := permit }, some none)
        else ({ monitor with consumers := [⟨name, none, true⟩], permit := permit }, none) := by
  rcases hserves.lone with hnone | ⟨-, _ | signal, hone⟩
  · refine ⟨false, ?_⟩
    rw [Monitor.turn, if_pos (by simp [find?, hnone]), poll, pollFor_register hnone 2, hnone]
  · -- It waits without a signal, so there is nothing to be found.
    obtain ⟨hempty, hopen⟩ := hserves.nothing_of_idle (hone ▸ List.mem_singleton_self _)
      ⟨rfl, rfl⟩
    have hturn : monitor.turn name = (monitor, none) := by
      simp [Monitor.turn, poll, pollFor, find?, hone]
    refine ⟨monitor.permit, ?_⟩
    rw [hturn, hempty, hopen, ← hone]
    rfl
  · -- It was given a signal, and registers again.
    have hremoved : (monitor.remove name).consumers = [] := by simp [remove, hone]
    have hturn : monitor.turn name = ((monitor.remove name).register name).pollFor 5 name := by
      simp [Monitor.turn, poll, pollFor, find?, hone]
    refine ⟨false, ?_⟩
    rw [hturn, pollFor_register hremoved 1, hremoved]
    rfl

/-- The consumer is on the list afterwards if and only if its turn came to nothing. -/
theorem Serves.turn (hserves : monitor.Serves name waiting) :
    (monitor.turn name).1.Serves name ((monitor.turn name).2 = none) := by
  have hattentive := (reaches_turn monitor name).attentive hserves.attentive
  obtain ⟨permit, hturn⟩ := hserves.turn_eq
  cases hdequeue : monitor.buffer.dequeue? with
  | some taken =>
      rw [hturn, hdequeue] at hattentive ⊢
      exact ⟨hattentive, hserves.no_wakes, hserves.no_broadcasts, Or.inl rfl⟩
  | none =>
      cases hclosed : monitor.buffer.closed with
      | true =>
          rw [hturn, hdequeue, hclosed] at hattentive ⊢
          exact ⟨hattentive, hserves.no_wakes, hserves.no_broadcasts, Or.inl rfl⟩
      | false =>
          rw [hturn, hdequeue, hclosed] at hattentive ⊢
          exact ⟨hattentive, hserves.no_wakes, hserves.no_broadcasts, Or.inr ⟨rfl, none, rfl⟩⟩

end LogRelay.Monitor
