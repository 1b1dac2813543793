import LogRelay.Proofs.Buffer.Moves

/-!
# No wake-up is lost

As long as some consumer waits without a signal, there are at least as many
looks due as there are messages, and a closed buffer has a broadcast that is
owed.  So once nothing is owed and every consumer that was woken has looked, a
consumer that still waits stands before an empty, open buffer.
-/

namespace LogRelay.Monitor

/-- While a consumer is idle, every message has a look that is due, and a closed
buffer has a broadcast that is owed. -/
structure Attentive (monitor : Monitor) : Prop where
  names_nodup : monitor.names.Nodup
  length_le : (∃ consumer ∈ monitor.consumers, consumer.IsIdle) →
    monitor.buffer.messages.length ≤ monitor.looksDue
  broadcast : monitor.buffer.closed = true → monitor.owedBroadcasts = 0 →
    ∀ consumer ∈ monitor.consumers, ¬ consumer.IsIdle

variable {monitor : Monitor}

theorem attentive_create (capacity producers : Nat) : (create capacity producers).Attentive where
  names_nodup := List.nodup_nil
  length_le := fun _ => Nat.zero_le _
  broadcast := fun _ _ _ hmem => absurd hmem List.not_mem_nil

/-! ## Producers -/

theorem Attentive.offer (hattentive : monitor.Attentive) (message : Message) :
    (monitor.offer message).1.Attentive where
  names_nodup := hattentive.names_nodup
  length_le := by
    intro hidle
    have hlength := hattentive.length_le hidle
    have hstored : (monitor.buffer.enqueue message).messages.length ≤
        monitor.buffer.messages.length + 1 := by
      rw [Buffer.messages_enqueue, List.length_append]
      split <;> simp
    simp only [Monitor.offer, looksDue] at hlength ⊢
    omega
  broadcast := by
    intro hclosed howed
    rw [Monitor.offer, Buffer.closed_enqueue] at hclosed
    exact hattentive.broadcast hclosed howed

/-- The wake-up that was owed becomes a look of the consumer that is chosen. -/
theorem Attentive.wake (hattentive : monitor.Attentive) (howed : 0 < monitor.owedWakes) :
    ({ monitor with owedWakes := monitor.owedWakes - 1 } : Monitor).wakeOne.Attentive where
  names_nodup := by
    rw [names_wakeOne]
    exact hattentive.names_nodup
  length_le := by
    rintro ⟨consumer, hmem, hidle⟩
    obtain ⟨hmem', hlooks⟩ := looksDue_wakeOne hmem hidle
    have hlength := hattentive.length_le ⟨consumer, hmem', hidle⟩
    rw [buffer_wakeOne, hlooks]
    simp only [looksDue] at hlength ⊢
    omega
  broadcast := by
    intro hclosed hnone consumer hmem hidle
    rw [buffer_wakeOne] at hclosed
    rw [owedBroadcasts_wakeOne] at hnone
    obtain ⟨hmem', -⟩ := looksDue_wakeOne hmem hidle
    exact hattentive.broadcast hclosed hnone consumer hmem' hidle

theorem Attentive.close (hattentive : monitor.Attentive) : monitor.close.Attentive where
  names_nodup := hattentive.names_nodup
  length_le := hattentive.length_le
  broadcast := by
    intro hclosed howed
    simp only [Monitor.close] at hclosed howed ⊢
    cases hbefore : monitor.buffer.closed with
    | true =>
        apply hattentive.broadcast hbefore
        omega
    | false =>
        rw [hclosed, hbefore] at howed
        exact absurd howed (Nat.succ_ne_zero _)

/-- Afterwards no consumer is without a signal. -/
theorem Attentive.wakeAll (hattentive : monitor.Attentive) (owed : Nat) :
    ({ monitor with owedBroadcasts := owed } : Monitor).wakeAll.Attentive := by
  have hawake : ∀ consumer ∈
      ({ monitor with owedBroadcasts := owed } : Monitor).wakeAll.consumers,
      ¬ consumer.IsIdle := by
    rintro consumer hmem ⟨-, hnone⟩
    obtain ⟨before, -, rfl⟩ := List.mem_map.mp hmem
    split at hnone
    · exact absurd hnone (Option.some_ne_none _)
    · next hsignal => exact hsignal (Option.isNone_iff_eq_none.mpr hnone)
  refine ⟨?_, ?_, fun _ _ => hawake⟩
  · rw [names_wakeAll]
    exact hattentive.names_nodup
  · rintro ⟨consumer, hmem, hidle⟩
    exact absurd hidle (hawake consumer hmem)

/-! ## Consumers -/

/-- A consumer that registers has still to look. -/
theorem mem_register {name : Nat} {consumer : Consumer}
    (hmem : consumer ∈ (monitor.register name).consumers) (hidle : consumer.IsIdle) :
    consumer ∈ monitor.consumers := by
  rcases List.mem_append.mp hmem with hbefore | hnew
  · exact hbefore
  · rw [List.mem_singleton.mp hnew] at hidle
    exact absurd hidle.1 Bool.false_ne_true

theorem looksDue_register (monitor : Monitor) (name : Nat) :
    (monitor.register name).looksDue = monitor.looksDue + 1 := by
  simp only [looksDue, register, consumerLooks_append, consumerLooks, Consumer.looksDue]
  cases monitor.permit <;> simp [Nat.add_assoc]

theorem nodup_names_leave (hnodup : monitor.names.Nodup) (consumer : Consumer) :
    (monitor.leave consumer).names.Nodup := by
  rw [names_leave]
  exact hnodup.filter _

theorem nodup_names_register {name : Nat} (hnodup : monitor.names.Nodup)
    (hname : name ∉ monitor.names) : (monitor.register name).names.Nodup := by
  rw [names_register]
  exact hnodup.append (List.nodup_singleton name)
    (List.disjoint_singleton.mpr hname)

theorem Attentive.register (hattentive : monitor.Attentive) {name : Nat}
    (hname : name ∉ monitor.names) : (monitor.register name).Attentive where
  names_nodup := nodup_names_register hattentive.names_nodup hname
  length_le := by
    rintro ⟨consumer, hmem, hidle⟩
    have hlength := hattentive.length_le ⟨consumer, mem_register hmem hidle, hidle⟩
    rw [looksDue_register]
    exact Nat.le_succ_of_le hlength
  broadcast := fun hclosed howed consumer hmem hidle =>
    hattentive.broadcast hclosed howed consumer (mem_register hmem hidle) hidle

/-- A consumer that was woken goes back to the end of the list: the look it was
chosen for is now the one it takes after it has registered. -/
theorem Attentive.resume (hattentive : monitor.Attentive) {consumer : Consumer}
    (hmem : consumer ∈ monitor.consumers) (hlooked : consumer.looked = true) :
    ((monitor.remove consumer.name).register consumer.name).Attentive where
  names_nodup := by
    rw [names_register, names_remove]
    refine (hattentive.names_nodup.filter _).append (List.nodup_singleton _) ?_
    exact List.disjoint_singleton.mpr fun hname => of_decide_eq_true (List.mem_filter.mp hname).2 rfl
  length_le := by
    rintro ⟨idle, hidlemem, hidle⟩
    have hbefore := (List.mem_filter.mp (mem_register hidlemem hidle)).1
    have hlength := hattentive.length_le ⟨idle, hbefore, hidle⟩
    have hlooks := consumerLooks_filter hattentive.names_nodup hmem
    have hown : consumer.looksDue ≤ 1 := by
      rw [Consumer.looksDue, hlooked, if_pos rfl]
      split <;> omega
    rw [looksDue_register]
    simp only [looksDue, remove, Monitor.register, hlooks] at hlength ⊢
    omega
  broadcast := fun hclosed howed idle hidlemem hidle =>
    hattentive.broadcast hclosed howed idle
      (List.mem_filter.mp (mem_register hidlemem hidle)).1 hidle

theorem leave_broadcast (hattentive : monitor.Attentive) {consumer : Consumer}
    (hmem : consumer ∈ monitor.consumers) (hclosed : monitor.buffer.closed = true)
    (howed : (monitor.leave consumer).owedBroadcasts = 0) :
    ∀ idle ∈ (monitor.leave consumer).consumers, ¬ idle.IsIdle := by
  intro idle hidlemem hidle
  rw [owedBroadcasts_leave] at howed
  obtain ⟨hbefore, -⟩ := looksDue_leave hattentive.names_nodup hmem hidlemem hidle
  exact hattentive.broadcast hclosed howed idle hbefore hidle

/-- A consumer that is given up while it waits passes on what was meant for it. -/
theorem Attentive.abandon (hattentive : monitor.Attentive) {consumer : Consumer}
    (hmem : consumer ∈ monitor.consumers) (hlooked : consumer.looked = true) :
    (monitor.leave consumer).Attentive where
  names_nodup := nodup_names_leave hattentive.names_nodup consumer
  length_le := by
    rintro ⟨idle, hidlemem, hidle⟩
    obtain ⟨hbefore, hlooks⟩ :=
      looksDue_leave hattentive.names_nodup hmem hidlemem hidle
    have hlength := hattentive.length_le ⟨idle, hbefore, hidle⟩
    rw [hlooked, if_pos rfl] at hlooks
    rw [buffer_leave]
    omega
  broadcast := by
    intro hclosed howed
    rw [buffer_leave] at hclosed
    exact leave_broadcast hattentive hmem hclosed howed

/-- The message that is taken away is the one that the consumer was to look for. -/
theorem Attentive.take (hattentive : monitor.Attentive) {consumer : Consumer} {message : Message}
    {rest : Buffer} (hmem : consumer ∈ monitor.consumers) (hlooked : consumer.looked = false)
    (hdequeue : monitor.buffer.dequeue? = some (message, rest)) :
    (({ monitor with buffer := rest } : Monitor).leave consumer).Attentive := by
  -- All but the buffer is as before, so what is known of the consumers stays.
  have hnodup : ({ monitor with buffer := rest } : Monitor).names.Nodup :=
    hattentive.names_nodup
  refine ⟨nodup_names_leave hnodup consumer, ?_, ?_⟩
  · rintro ⟨idle, hidlemem, hidle⟩
    obtain ⟨hbefore, hlooks⟩ := looksDue_leave hnodup hmem hidlemem hidle
    have hlength := hattentive.length_le ⟨idle, hbefore, hidle⟩
    rw [Buffer.messages_of_dequeue? hdequeue, List.length_cons] at hlength
    rw [hlooked, if_neg Bool.false_ne_true] at hlooks
    rw [buffer_leave]
    simp only [looksDue] at hlength hlooks ⊢
    omega
  · intro hclosed howed idle hidlemem hidle
    rw [buffer_leave, Buffer.closed_of_dequeue? hdequeue] at hclosed
    rw [owedBroadcasts_leave] at howed
    obtain ⟨hbefore, -⟩ := looksDue_leave hnodup hmem hidlemem hidle
    exact hattentive.broadcast hclosed howed idle hbefore hidle

theorem Attentive.finish (hattentive : monitor.Attentive) {consumer : Consumer}
    (hmem : consumer ∈ monitor.consumers) (hempty : monitor.buffer.messages = [])
    (hclosed : monitor.buffer.closed = true) : (monitor.leave consumer).Attentive where
  names_nodup := nodup_names_leave hattentive.names_nodup consumer
  length_le := by
    rintro -
    rw [buffer_leave, hempty]
    exact Nat.zero_le _
  broadcast := fun _ howed => leave_broadcast hattentive hmem hclosed howed

/-- A consumer that stays has found the queue empty and the buffer open. -/
theorem Attentive.wait (hattentive : monitor.Attentive) (consumer : Consumer)
    (hempty : monitor.buffer.messages = []) (hopen : monitor.buffer.closed = false) :
    (monitor.markLooked consumer).Attentive where
  names_nodup := by
    rw [names_markLooked]
    exact hattentive.names_nodup
  length_le := by
    rintro -
    rw [markLooked, hempty]
    exact Nat.zero_le _
  broadcast := fun hclosed => absurd (hopen.symm.trans hclosed) Bool.false_ne_true

theorem Attentive.flush (hattentive : monitor.Attentive) :
    ({ monitor with buffer := monitor.buffer.flush } : Monitor).Attentive where
  names_nodup := hattentive.names_nodup
  length_le := fun _ => Nat.zero_le _
  broadcast := hattentive.broadcast

/-! ## Runs -/

theorem Attentive.move {next : Monitor} {action : Action} {event : Event}
    (hattentive : monitor.Attentive) (hmove : monitor.Move action next event) :
    next.Attentive := by
  cases hmove with
  | stores message | refuses message => exact hattentive.offer message
  | wakes howed => exact hattentive.wake howed
  | closes => exact hattentive.close
  | broadcasts => exact hattentive.wakeAll _
  | registers name hname => exact hattentive.register hname
  | takes consumer message rest hmem hlooked hdequeue => exact hattentive.take hmem hlooked hdequeue
  | ends consumer hmem hlooked hempty hclosed => exact hattentive.finish hmem hempty hclosed
  | waits consumer hmem hlooked hempty hopen => exact hattentive.wait consumer hempty hopen
  | resumes consumer hmem hlooked => exact hattentive.resume hmem hlooked
  | abandons consumer hmem hlooked => exact hattentive.abandon hmem hlooked
  | flushes => exact hattentive.flush

theorem Attentive.run {last : Monitor} {actions : List Action} {events : List Event}
    (hattentive : monitor.Attentive) (hrun : monitor.run? actions = some (last, events)) :
    last.Attentive :=
  run?_induction hrun hattentive fun _ _ _ _ hbefore hmove => hbefore.move hmove

/-- Every operation that was started has finished, and every consumer that was
woken has run again: what is left are consumers that wait. -/
def Settled (monitor : Monitor) : Prop :=
  monitor.owedWakes = 0 ∧ monitor.owedBroadcasts = 0 ∧
    ∀ consumer ∈ monitor.consumers, consumer.IsIdle

instance : Decidable monitor.Settled :=
  inferInstanceAs (Decidable (_ ∧ _ ∧ ∀ consumer ∈ monitor.consumers, consumer.IsIdle))

theorem Settled.looksDue_eq_zero (hsettled : monitor.Settled) : monitor.looksDue = 0 := by
  obtain ⟨hwakes, -, hidle⟩ := hsettled
  have hnone : ∀ consumer ∈ monitor.consumers, consumer.looksDue = 0 := by
    intro consumer hmem
    obtain ⟨hlooked, hsignal⟩ := hidle consumer hmem
    rw [Consumer.looksDue, hlooked, hsignal]
    rfl
  rw [looksDue, hwakes, consumerLooks_eq_zero hnone]

/-- A consumer that still waits where everything has settled has nothing to find. -/
theorem Attentive.nothing_of_settled (hattentive : monitor.Attentive)
    (hsettled : monitor.Settled) (hwaiting : monitor.consumers ≠ []) :
    monitor.buffer.messages = [] ∧ monitor.buffer.closed = false := by
  obtain ⟨consumer, hmem⟩ := List.exists_mem_of_ne_nil _ hwaiting
  have hidle := hsettled.2.2 consumer hmem
  constructor
  · have hlength := hattentive.length_le ⟨consumer, hmem, hidle⟩
    rw [hsettled.looksDue_eq_zero] at hlength
    exact List.length_eq_zero_iff.mp (Nat.le_zero.mp hlength)
  · apply Bool.eq_false_iff.mpr
    intro hclosed
    exact hattentive.broadcast hclosed hsettled.2.1 consumer hmem hidle

/-- Whatever the steps were and in whatever order they came: where the buffer has
settled and a consumer still waits, there is nothing for it to find. -/
theorem empty_and_open_of_settled {capacity producers : Nat} {actions : List Action}
    {events : List Event} (hrun : (create capacity producers).run? actions = some (monitor, events))
    (hsettled : monitor.Settled) (hwaiting : monitor.consumers ≠ []) :
    monitor.buffer.messages = [] ∧ monitor.buffer.closed = false :=
  ((attentive_create capacity producers).run hrun).nothing_of_settled hsettled hwaiting

/-- The second consumer takes the message before the first one, which was woken
for it, runs again; the first one finds nothing and waits. -/
theorem empty_and_open_after_overtaking :
    ∃ monitor events,
      (create 64 2).run?
        [.register 1, .look 1, .offer (.complete [97] .stdout default), .register 2, .wake, .look 2,
          .close, .resume 1, .look 1] = some (monitor, events) ∧
      monitor.Settled ∧ monitor.consumers ≠ [] ∧
      monitor.buffer.messages = [] ∧ monitor.buffer.closed = false := by
  have hrun : (create 64 2).run?
      [.register 1, .look 1, .offer (.complete [97] .stdout default), .register 2, .wake, .look 2,
        .close, .resume 1, .look 1] =
      some (⟨⟨⟨[], []⟩, 0, 64, 2, 1, false, 0⟩, [⟨1, none, true⟩], false, 0, 0⟩,
        [.quiet, .quiet, .stored (.complete [97] .stdout default), .quiet, .quiet,
          .taken 2 (.complete [97] .stdout default), .quiet, .quiet, .quiet]) := by decide
  have hsettled : (⟨⟨⟨[], []⟩, 0, 64, 2, 1, false, 0⟩, [⟨1, none, true⟩], false, 0, 0⟩ :
      Monitor).Settled := by decide
  have hwaiting : [(⟨1, none, true⟩ : Consumer)] ≠ [] := List.cons_ne_nil _ _
  exact ⟨_, _, hrun, hsettled, hwaiting, empty_and_open_of_settled hrun hsettled hwaiting⟩

end LogRelay.Monitor
