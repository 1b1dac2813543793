import LogRelay.Proofs.Buffer.Looks
import LogRelay.Proofs.Buffer.Messages

/-!
# The atomic steps at the buffer

A step is one of a few moves.  Each of them says what it asks of the state, what it
makes of it and what is reported of it, so that what a step keeps is shown move by move.
-/

namespace LogRelay.Monitor

variable {monitor next last : Monitor} {consumer : Consumer} {message : Message}
variable {action : Action} {actions : List Action} {event : Event} {events : List Event}

/-! ## Looks at the queue -/

/-- The consumer has looked and stays on the list. -/
def markLooked (monitor : Monitor) (consumer : Consumer) : Monitor :=
  { monitor with
    consumers := monitor.consumers.map fun other =>
      if other.name = consumer.name then { other with looked := true } else other }

theorem names_markLooked (monitor : Monitor) (consumer : Consumer) :
    (monitor.markLooked consumer).names = monitor.names := by
  rw [names, markLooked, List.map_map]
  apply List.map_congr_left
  intro other _
  rw [Function.comp_apply]
  split <;> rfl

theorem look_taken {buffer : Buffer}
    (hdequeue : monitor.buffer.dequeue? = some (message, buffer)) :
    monitor.look consumer =
      (({ monitor with buffer := buffer } : Monitor).leave consumer,
        .taken consumer.name message) := by
  rw [look, hdequeue]

theorem look_ended (hdequeue : monitor.buffer.dequeue? = none)
    (hclosed : monitor.buffer.closed = true) :
    monitor.look consumer = (monitor.leave consumer, .ended consumer.name) := by
  rw [look, hdequeue]
  exact if_pos hclosed

theorem look_quiet (hdequeue : monitor.buffer.dequeue? = none)
    (hclosed : monitor.buffer.closed = false) :
    monitor.look consumer = (monitor.markLooked consumer, .quiet) := by
  rw [look, hdequeue]
  exact if_neg (Bool.eq_false_iff.mp hclosed)

/-! ## Moves -/

/-- What a step makes of the state, and what is reported of it. -/
inductive Move (monitor : Monitor) : Action → Monitor → Event → Prop where
  | stores (message : Message) (haccepts : monitor.buffer.accepts message = true) :
      Move monitor (.offer message) (monitor.offer message).1 (.stored message)
  | refuses (message : Message) (hrefuses : monitor.buffer.accepts message = false) :
      Move monitor (.offer message) (monitor.offer message).1 (.refused message)
  | wakes (howed : 0 < monitor.owedWakes) :
      Move monitor .wake
        ({ monitor with owedWakes := monitor.owedWakes - 1 } : Monitor).wakeOne .quiet
  | closes : Move monitor .close monitor.close .quiet
  | broadcasts (howed : 0 < monitor.owedBroadcasts) :
      Move monitor .broadcast
        ({ monitor with owedBroadcasts := monitor.owedBroadcasts - 1 } : Monitor).wakeAll .quiet
  | registers (name : Nat) (hname : name ∉ monitor.names) :
      Move monitor (.register name) (monitor.register name) .quiet
  | takes (consumer : Consumer) (message : Message) (rest : Buffer)
      (hmem : consumer ∈ monitor.consumers) (hlooked : consumer.looked = false)
      (hdequeue : monitor.buffer.dequeue? = some (message, rest)) :
      Move monitor (.look consumer.name)
        (({ monitor with buffer := rest } : Monitor).leave consumer)
        (.taken consumer.name message)
  | ends (consumer : Consumer) (hmem : consumer ∈ monitor.consumers)
      (hlooked : consumer.looked = false) (hempty : monitor.buffer.messages = [])
      (hclosed : monitor.buffer.closed = true) :
      Move monitor (.look consumer.name) (monitor.leave consumer) (.ended consumer.name)
  | waits (consumer : Consumer) (hmem : consumer ∈ monitor.consumers)
      (hlooked : consumer.looked = false) (hempty : monitor.buffer.messages = [])
      (hopen : monitor.buffer.closed = false) :
      Move monitor (.look consumer.name) (monitor.markLooked consumer) .quiet
  | resumes (consumer : Consumer) (hmem : consumer ∈ monitor.consumers)
      (hlooked : consumer.looked = true) (hsignal : consumer.signal.isSome = true) :
      Move monitor (.resume consumer.name)
        ((monitor.remove consumer.name).register consumer.name) .quiet
  | abandons (consumer : Consumer) (hmem : consumer ∈ monitor.consumers)
      (hlooked : consumer.looked = true) :
      Move monitor (.abandon consumer.name) (monitor.leave consumer) .quiet
  | flushes :
      Move monitor .flush { monitor with buffer := monitor.buffer.flush }
        (.flushed monitor.buffer.messages)

theorem move_offer (monitor : Monitor) (message : Message) :
    monitor.Move (.offer message) (monitor.offer message).1 (monitor.offer message).2 := by
  cases haccepts : monitor.buffer.accepts message with
  | true =>
      have hevent : (monitor.offer message).2 = .stored message := if_pos haccepts
      rw [hevent]
      exact .stores message haccepts
  | false =>
      have hevent : (monitor.offer message).2 = .refused message :=
        if_neg (Bool.eq_false_iff.mp haccepts)
      rw [hevent]
      exact .refuses message haccepts

theorem move_look (hmem : consumer ∈ monitor.consumers) (hlooked : consumer.looked = false) :
    monitor.Move (.look consumer.name) (monitor.look consumer).1 (monitor.look consumer).2 := by
  cases hdequeue : monitor.buffer.dequeue? with
  | some taken =>
      obtain ⟨message, rest⟩ := taken
      rw [look_taken hdequeue]
      exact .takes consumer message rest hmem hlooked hdequeue
  | none =>
      have hempty := Buffer.dequeue?_eq_none_iff.mp hdequeue
      cases hclosed : monitor.buffer.closed with
      | true =>
          rw [look_ended hdequeue hclosed]
          exact .ends consumer hmem hlooked hempty hclosed
      | false =>
          rw [look_quiet hdequeue hclosed]
          exact .waits consumer hmem hlooked hempty hclosed

theorem move_of_step? (hstep : monitor.step? action = some (next, event)) :
    monitor.Move action next event := by
  cases action with
  | offer message =>
      cases hstep
      exact move_offer monitor message
  | wake =>
      simp only [step?, Option.ite_none_right_eq_some, Option.some.injEq, Prod.mk.injEq] at hstep
      obtain ⟨howed, rfl, rfl⟩ := hstep
      exact .wakes howed
  | close =>
      cases hstep
      exact .closes
  | broadcast =>
      simp only [step?, Option.ite_none_right_eq_some, Option.some.injEq, Prod.mk.injEq] at hstep
      obtain ⟨howed, rfl, rfl⟩ := hstep
      exact .broadcasts howed
  | register name =>
      simp only [step?, Option.ite_none_right_eq_some, Option.some.injEq, Prod.mk.injEq] at hstep
      obtain ⟨hname, rfl, rfl⟩ := hstep
      exact .registers name (name_notMem_of_find? hname)
  | look name =>
      cases hfind : monitor.find? name with
      | none => simp [step?, hfind] at hstep
      | some consumer =>
          simp only [step?, hfind, Option.ite_none_left_eq_some, Option.some.injEq] at hstep
          obtain ⟨hlooked, hlook⟩ := hstep
          obtain ⟨hmem, rfl⟩ := mem_of_find? hfind
          have hmove := move_look hmem (Bool.eq_false_iff.mpr hlooked)
          rw [hlook] at hmove
          exact hmove
  | resume name =>
      cases hfind : monitor.find? name with
      | none => simp [step?, hfind] at hstep
      | some consumer =>
          simp only [step?, hfind, Option.ite_none_right_eq_some, Option.some.injEq,
            Prod.mk.injEq] at hstep
          obtain ⟨⟨hlooked, hsignal⟩, rfl, rfl⟩ := hstep
          obtain ⟨hmem, rfl⟩ := mem_of_find? hfind
          exact .resumes consumer hmem hlooked hsignal
  | abandon name =>
      cases hfind : monitor.find? name with
      | none => simp [step?, hfind] at hstep
      | some consumer =>
          simp only [step?, hfind, Option.ite_none_right_eq_some, Option.some.injEq,
            Prod.mk.injEq] at hstep
          obtain ⟨hlooked, rfl, rfl⟩ := hstep
          obtain ⟨hmem, rfl⟩ := mem_of_find? hfind
          exact .abandons consumer hmem hlooked
  | flush =>
      cases hstep
      exact .flushes

/-! ## Runs -/

theorem exists_of_run?_cons (hrun : monitor.run? (action :: actions) = some (last, events)) :
    ∃ next event later, monitor.step? action = some (next, event) ∧
      next.run? actions = some (last, later) ∧ events = event :: later := by
  simp only [run?, Option.bind_eq_bind, Option.bind_eq_some_iff] at hrun
  obtain ⟨⟨next, event⟩, hstep, ⟨last', later⟩, hrest, hlast⟩ := hrun
  cases hlast
  exact ⟨next, event, later, hstep, hrest, rfl⟩

/-- What every step keeps holds at the end of a run. -/
theorem run?_induction {motive : Monitor → Prop}
    (hrun : monitor.run? actions = some (last, events)) (hstart : motive monitor)
    (hmove : ∀ monitor action next event, motive monitor → Move monitor action next event →
      motive next) : motive last := by
  induction actions generalizing monitor events with
  | nil =>
      cases hrun
      exact hstart
  | cons action rest ih =>
      obtain ⟨next, event, later, hstep, hrest, rfl⟩ := exists_of_run?_cons hrun
      exact ih hrest (hmove monitor action next event hstart (move_of_step? hstep))

end LogRelay.Monitor
