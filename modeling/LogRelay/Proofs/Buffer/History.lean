import LogRelay.Proofs.Buffer.Moves
import LogRelay.Proofs.Buffer.Operations

/-!
# Where the messages of a buffer go

Every message that the buffer has accepted leaves it once, to one consumer or in
one flush, and the messages leave in the order in which they came.  This holds of
every interleaving of producers and consumers, however many of them there are and
whichever of them give up.
-/

namespace LogRelay.Monitor

namespace Event

def accepted? : Event → Option Message
  | .stored message => some message
  | _ => none

def refused? : Event → Option Message
  | .refused message => some message
  | _ => none

/-- The messages that leave the buffer. -/
def removed : Event → List Message
  | .taken _ message => [message]
  | .flushed messages => messages
  | _ => []

end Event

/-- The messages that the buffer has accepted, in order. -/
def accepted (events : List Event) : List Message :=
  events.filterMap Event.accepted?

/-- The messages that the buffer has refused, in order. -/
def refused (events : List Event) : List Message :=
  events.filterMap Event.refused?

/-- The messages that have left the buffer, in order. -/
def removed (events : List Event) : List Message :=
  events.flatMap Event.removed

variable {monitor next last : Monitor} {action : Action} {event : Event}
variable {actions : List Action} {events : List Event}

theorem accepted_cons (event : Event) (events : List Event) :
    accepted (event :: events) = event.accepted?.toList ++ accepted events := by
  rw [accepted, List.filterMap_cons]
  cases event.accepted? <;> rfl

theorem refused_cons (event : Event) (events : List Event) :
    refused (event :: events) = event.refused?.toList ++ refused events := by
  rw [refused, List.filterMap_cons]
  cases event.refused? <;> rfl

/-! ## What a step makes of the buffer -/

/-- What becomes of the buffer in a step that is reported as the event. -/
inductive Effect (buffer : Buffer) : Event → Buffer → Prop where
  | nothing : Effect buffer .quiet buffer
  | stores (message : Message) (haccepts : buffer.accepts message = true) :
      Effect buffer (.stored message) (buffer.enqueue message)
  | refuses (message : Message) (hrefuses : buffer.accepts message = false) :
      Effect buffer (.refused message) (buffer.enqueue message)
  | closes : Effect buffer .quiet buffer.closeProducer
  | takes (name : Nat) (message : Message) (rest : Buffer)
      (hdequeue : buffer.dequeue? = some (message, rest)) :
      Effect buffer (.taken name message) rest
  | ends (name : Nat) : Effect buffer (.ended name) buffer
  | flushes : Effect buffer (.flushed buffer.messages) buffer.flush

theorem Move.effect (hmove : monitor.Move action next event) :
    Effect monitor.buffer event next.buffer := by
  cases hmove with
  | stores message haccepts => exact .stores message haccepts
  | refuses message hrefuses => exact .refuses message hrefuses
  | wakes =>
      rw [buffer_wakeOne]
      exact .nothing
  | closes => exact .closes
  | takes consumer message rest hmem hlooked hdequeue =>
      rw [buffer_leave]
      exact .takes consumer.name message rest hdequeue
  | ends consumer =>
      rw [buffer_leave]
      exact .ends consumer.name
  | abandons =>
      rw [buffer_leave]
      exact .nothing
  | broadcasts | registers | waits | resumes => exact .nothing
  | flushes => exact .flushes

/-- What leaves the buffer was at its front, and what it accepts goes to its end. -/
theorem Effect.removed_append {buffer after : Buffer} (heffect : Effect buffer event after) :
    event.removed ++ after.messages = buffer.messages ++ event.accepted?.toList := by
  cases heffect with
  | nothing | closes | ends => exact (List.append_nil _).symm
  | stores message haccepts =>
      rw [Buffer.messages_enqueue, if_pos haccepts]
      rfl
  | refuses message hrefuses =>
      rw [Buffer.messages_enqueue, if_neg (Bool.eq_false_iff.mp hrefuses)]
      rfl
  | takes name message rest hdequeue =>
      rw [Buffer.messages_of_dequeue? hdequeue]
      exact (List.append_nil _).symm
  | flushes => rfl

theorem Effect.dropped_eq {buffer after : Buffer} (heffect : Effect buffer event after) :
    after.dropped = buffer.dropped + event.refused?.toList.length := by
  cases heffect with
  | nothing | closes | ends | flushes => rfl
  | stores message haccepts => rw [Buffer.dropped_enqueue, if_pos haccepts]; rfl
  | refuses message hrefuses =>
      rw [Buffer.dropped_enqueue, if_neg (Bool.eq_false_iff.mp hrefuses)]
      rfl
  | takes name message rest hdequeue => exact Buffer.dropped_of_dequeue? hdequeue

theorem Effect.reaches {buffer after : Buffer} (heffect : Effect buffer event after) :
    buffer.Reaches (fun _ => True) after := by
  cases heffect with
  | nothing | ends => exact .refl
  | stores message | refuses message => exact .single (.enqueues message trivial)
  | closes => exact .single .closes
  | takes name message rest hdequeue => exact .single (.dequeues message _ hdequeue)
  | flushes => exact .single .flushes

/-! ## Runs -/

theorem reaches_of_run? (hrun : monitor.run? actions = some (last, events)) :
    monitor.buffer.Reaches (fun _ => True) last.buffer :=
  run?_induction (motive := fun later => monitor.buffer.Reaches (fun _ => True) later.buffer) hrun
    .refl fun _ _ _ _ hbefore hmove => hbefore.trans hmove.effect.reaches

theorem removed_append_of_run? (hrun : monitor.run? actions = some (last, events)) :
    removed events ++ last.buffer.messages = monitor.buffer.messages ++ accepted events := by
  induction actions generalizing monitor events with
  | nil =>
      cases hrun
      exact (List.append_nil _).symm
  | cons action rest ih =>
      obtain ⟨next, event, later, hstep, hrest, rfl⟩ := exists_of_run?_cons hrun
      have hlater := ih hrest
      have heffect := (move_of_step? hstep).effect.removed_append
      calc removed (event :: later) ++ last.buffer.messages
          = event.removed ++ (removed later ++ last.buffer.messages) := List.append_assoc _ _ _
        _ = (event.removed ++ next.buffer.messages) ++ accepted later := by
            rw [hlater, List.append_assoc]
        _ = monitor.buffer.messages ++ accepted (event :: later) := by
            rw [heffect, accepted_cons, List.append_assoc]

theorem dropped_of_run? (hrun : monitor.run? actions = some (last, events)) :
    last.buffer.dropped = monitor.buffer.dropped + (refused events).length := by
  induction actions generalizing monitor events with
  | nil =>
      cases hrun
      rfl
  | cons action rest ih =>
      obtain ⟨next, event, later, hstep, hrest, rfl⟩ := exists_of_run?_cons hrun
      rw [ih hrest, (move_of_step? hstep).effect.dropped_eq, refused_cons, List.length_append,
        Nat.add_assoc]

/-- A run of two parts is a run of the first and, from where that ends, one of the
second. -/
theorem exists_of_run?_append {before after : List Action}
    (hrun : monitor.run? (before ++ after) = some (last, events)) :
    ∃ middle first second, monitor.run? before = some (middle, first) ∧
      middle.run? after = some (last, second) ∧ events = first ++ second ∧
      first.length = before.length := by
  induction before generalizing monitor events with
  | nil => exact ⟨monitor, [], events, rfl, hrun, rfl, rfl⟩
  | cons action rest ih =>
      rw [List.cons_append] at hrun
      obtain ⟨next, event, later, hstep, hrest, rfl⟩ := exists_of_run?_cons hrun
      obtain ⟨middle, first, second, hfirst, hsecond, rfl, hlength⟩ := ih hrest
      refine ⟨middle, event :: first, second, ?_, hsecond, rfl, ?_⟩
      · simp [run?, hstep, hfirst]
      · rw [List.length_cons, hlength, List.length_cons]

/-! ## Consumers that wait -/

/-- A consumer comes on the list by its registration. -/
theorem Move.mem_names {name : Nat} (hmove : monitor.Move action next event)
    (hmem : name ∈ next.names) : name ∈ monitor.names ∨ action = .register name := by
  cases hmove with
  | wakes =>
      rw [names_wakeOne] at hmem
      exact Or.inl hmem
  | broadcasts =>
      rw [names_wakeAll] at hmem
      exact Or.inl hmem
  | registers other =>
      rw [names_register, List.mem_append, List.mem_singleton] at hmem
      exact hmem.imp_right fun hname => by rw [hname]
  | takes | ends | abandons =>
      rw [names_leave] at hmem
      exact Or.inl (List.mem_of_mem_filter hmem)
  | waits =>
      rw [names_markLooked] at hmem
      exact Or.inl hmem
  | resumes consumer hconsumer =>
      rw [names_register, names_remove, List.mem_append, List.mem_singleton] at hmem
      rcases hmem with hbefore | rfl
      · exact Or.inl (List.mem_of_mem_filter hbefore)
      · exact Or.inl (List.mem_map_of_mem hconsumer)
  | stores | refuses | closes | flushes => exact Or.inl hmem

/-- A consumer leaves with the message that it takes. -/
theorem Move.notMem_names_of_taken {name : Nat} {message : Message}
    (hmove : monitor.Move action next (.taken name message)) : name ∉ next.names := by
  cases hmove with
  | takes consumer =>
      rw [names_leave, List.mem_filter]
      exact fun hmem => of_decide_eq_true hmem.2 rfl

/-- A consumer that is still on the list has not taken a message since it registered. -/
theorem not_taken_of_waiting {name : Nat} (hrun : monitor.run? actions = some (last, events))
    (hregister : Action.register name ∉ actions) (hwaiting : name ∈ last.names) :
    name ∈ monitor.names ∧ ∀ message, Event.taken name message ∉ events := by
  induction actions generalizing monitor events with
  | nil =>
      cases hrun
      exact ⟨hwaiting, fun _ => List.not_mem_nil⟩
  | cons action rest ih =>
      obtain ⟨next, event, later, hstep, hrest, rfl⟩ := exists_of_run?_cons hrun
      have hmove := move_of_step? hstep
      rw [List.mem_cons, not_or] at hregister
      obtain ⟨hnext, hlater⟩ := ih hrest hregister.2
      refine ⟨(hmove.mem_names hnext).resolve_right (Ne.symm hregister.1), ?_⟩
      intro message hmem
      rcases List.mem_cons.mp hmem with rfl | hmem
      · exact hmove.notMem_names_of_taken hnext
      · exact hlater message hmem

/-- After every run, of whatever steps in whatever order: the messages that have left the
buffer, followed by those in the queue, are the accepted ones in order of acceptance, and
those that were refused have been counted.  A message is refused exactly when the queue
is not empty and has no room for it, and this changes the count alone.  A consumer that
still waits has taken nothing since it registered, and nothing happens to the buffer
when it gives up. -/
theorem accepted_leave_once_in_order {capacity producers : Nat}
    (hrun : (create capacity producers).run? actions = some (monitor, events)) :
    removed events ++ monitor.buffer.messages = accepted events ∧
    monitor.buffer.dropped = (refused events).length ∧
    (∀ message next event, monitor.step? (.offer message) = some (next, event) →
      (event = .refused message ↔ monitor.buffer.messages ≠ [] ∧
        capacity < totalSize monitor.buffer.messages + message.size) ∧
      (event = .refused message ∧
          next.buffer = { monitor.buffer with dropped := monitor.buffer.dropped + 1 } ∨
        event = .stored message ∧
          next.buffer.messages = monitor.buffer.messages ++ [message])) ∧
    ∀ before during name, actions = before ++ .register name :: during →
      .register name ∉ during → (monitor.find? name).isSome = true →
      (∀ message, .taken name message ∉ events.drop before.length) ∧
      ∀ next event, monitor.step? (.abandon name) = some (next, event) →
        event = .quiet ∧ next.buffer = monitor.buffer := by
  have hreaches := reaches_of_run? hrun
  have hsound := (Buffer.isSound_create capacity producers).reaches hreaches
  have hcapacity : monitor.buffer.capacity = capacity := hreaches.settings_eq.1
  refine ⟨removed_append_of_run? hrun, ?_, ?_, ?_⟩
  · rw [dropped_of_run? hrun]
    exact Nat.zero_add _
  · rintro message next event hstep
    cases hstep
    have hrefuses : monitor.buffer.accepts message = false ↔ monitor.buffer.messages ≠ [] ∧
        capacity < totalSize monitor.buffer.messages + message.size := by
      rw [Buffer.accepts_eq_false_iff, hcapacity, hsound.size_eq]
    rw [← hrefuses]
    cases haccepts : monitor.buffer.accepts message with
    | false => simp [haccepts, Buffer.enqueue_of_refuses]
    | true => simp [haccepts, Buffer.messages_enqueue]
  · rintro before during name rfl hregister hwaiting
    have hname : name ∈ monitor.names := by
      obtain ⟨consumer, hfind⟩ := Option.isSome_iff_exists.mp hwaiting
      obtain ⟨hconsumer, rfl⟩ := mem_of_find? hfind
      exact List.mem_map_of_mem hconsumer
    obtain ⟨middle, first, second, -, hsecond, rfl, hlength⟩ := exists_of_run?_append hrun
    rw [← hlength, List.drop_left]
    constructor
    · obtain ⟨registered, event, later, hstep, hrest, rfl⟩ := exists_of_run?_cons hsecond
      obtain ⟨hnext, hlater⟩ := not_taken_of_waiting hrest hregister hname
      intro message hmem
      rcases List.mem_cons.mp hmem with rfl | hmem
      · exact (move_of_step? hstep).notMem_names_of_taken hnext
      · exact hlater message hmem
    · intro next event hstep
      cases move_of_step? hstep with
      | abandons consumer => exact ⟨rfl, buffer_leave _ _⟩

/-- The first consumer waits twice and gives up; the second one takes a message, one
is refused and two are flushed, and a message that is too large comes in alone. -/
theorem accepted_leave_once_in_order_of_mixed_run :
    ∃ monitor events,
      (create 3 2).run?
        [.register 1, .look 1, .offer (.complete [97, 98] .stdout default), .register 2, .look 2,
          .wake, .resume 1, .look 1, .abandon 1, .offer (.complete [99, 100] .stderr default),
          .offer (.complete [101, 102] .stdout default), .offer (.complete [103] .stdout default),
          .flush, .offer (.complete [104, 105, 106, 107] .stderr default)] =
        some (monitor, events) ∧
      (removed events).map (·.line) = [[97, 98], [99, 100], [103]] ∧
      (refused events).map (·.line) = [[101, 102]] ∧
      monitor.buffer.messages.map (·.line) = [[104, 105, 106, 107]] ∧
      removed events ++ monitor.buffer.messages = accepted events ∧
      monitor.buffer.dropped = (refused events).length := by
  have hrun : (create 3 2).run?
      [.register 1, .look 1, .offer (.complete [97, 98] .stdout default), .register 2, .look 2,
        .wake, .resume 1, .look 1, .abandon 1, .offer (.complete [99, 100] .stderr default),
        .offer (.complete [101, 102] .stdout default), .offer (.complete [103] .stdout default),
        .flush, .offer (.complete [104, 105, 106, 107] .stderr default)] =
      some (⟨⟨⟨[], [.complete [104, 105, 106, 107] .stderr default]⟩, 4, 3, 2, 0, false, 1⟩, [],
          false, 4, 0⟩,
        [.quiet, .quiet, .stored (.complete [97, 98] .stdout default), .quiet,
          .taken 2 (.complete [97, 98] .stdout default), .quiet, .quiet, .quiet, .quiet,
          .stored (.complete [99, 100] .stderr default),
          .refused (.complete [101, 102] .stdout default),
          .stored (.complete [103] .stdout default),
          .flushed [.complete [99, 100] .stderr default, .complete [103] .stdout default],
          .stored (.complete [104, 105, 106, 107] .stderr default)]) := by decide
  obtain ⟨hremoved, hdropped, -, -⟩ := accepted_leave_once_in_order hrun
  exact ⟨_, _, hrun, rfl, rfl, rfl, hremoved, hdropped⟩

end LogRelay.Monitor
