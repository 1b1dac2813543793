import LogRelay.Proofs.Session.Ledger
import LogRelay.Proofs.Session.Tasks

/-!
# What the buffer accepts is handed over

In non-blocking mode every message that the buffer has accepted is in one of
three places: it has been handed to the dispatcher, it waits in the flush of the
main task, or it is still in the buffer.  A message moves from the buffer on by
the drain, while the tasks are at work, or by the flush, when all of them have
ended; so it is handed over once, and in the order of acceptance.
-/

namespace LogRelay

namespace MainStage

/-- The messages of the flush that have not been handed over. -/
def remaining : MainStage → List Message
  | .flushing remaining => remaining
  | .flushSending _ remaining => remaining
  | _ => []

/-- The tasks have been spawned and are not all joined. -/
def isRelaying : MainStage → Bool
  | .launched | .joining => true
  | _ => false

/-- All tasks have been joined, or there were none. -/
def isJoined : MainStage → Bool
  | .starting | .launched | .joining => false
  | _ => true

end MainStage

namespace Session

/-- Where the accepted messages are, and that nothing comes into the buffer and
nothing is left in it when the tasks have been joined. -/
structure Balanced (session : Session) (buffer : Buffer) : Prop where
  stored_eq : session.main ≠ .crashed →
    session.stored = session.handed ++ session.main.remaining ++ buffer.messages
  stored_sublist : session.stored.Sublist session.framed
  length_framed : session.framed.length = session.stored.length + session.refused.length
  dropped_eq : buffer.dropped = session.refused.length
  messages_eq_nil : session.main.isRelaying = false → buffer.messages = []
  readers_ended : session.main.isJoined = true → session.readersAtWork = 0

variable {plan : Plan} {session next : Session} {buffer : Buffer}

theorem remaining_of_isRelaying {stage : MainStage} (hrelaying : stage.isRelaying = true) :
    stage.remaining = [] ∧ stage.isJoined = false := by
  cases stage with
  | launched | joining => exact ⟨rfl, rfl⟩
  | _ => simp [MainStage.isRelaying] at hrelaying

theorem isRelaying_of_isJoined {stage : MainStage} (hjoined : stage.isJoined = true) :
    stage.isRelaying = false := by
  cases stage with
  | starting | launched | joining => simp [MainStage.isJoined] at hjoined
  | _ => rfl

theorem isRelaying_of_isLaunched (hlaunched : session.isLaunched = true)
    (hjoined : session.main.isJoined = false) : session.main.isRelaying = true := by
  cases hmain : session.main with
  | starting => simp [isLaunched, hmain] at hlaunched
  | launched | joining => rfl
  | _ => simp [hmain, MainStage.isJoined] at hjoined

/-- A buffer that holds a message shows that the tasks are at work. -/
theorem Balanced.isRelaying_of_dequeue? {message : Message} {rest : Buffer}
    (hbalanced : session.Balanced buffer) (hdequeue : buffer.dequeue? = some (message, rest)) :
    session.main.isRelaying = true := by
  apply Bool.of_not_eq_false
  intro hnot
  have hempty := hbalanced.messages_eq_nil hnot
  rw [Buffer.messages_of_dequeue? hdequeue] at hempty
  exact absurd hempty (List.cons_ne_nil _ _)

/-- A step that leaves the main task, the readers and the messages as they are. -/
theorem Balanced.of_same {after : Buffer} (hbalanced : session.Balanced buffer)
    (hledger : next.ledger = session.ledger) (hmain : next.main = session.main)
    (hreaders : session.readersAtWork = 0 → next.readersAtWork = 0)
    (hmessages : after.messages = buffer.messages) (hdropped : after.dropped = buffer.dropped) :
    next.Balanced after := by
  obtain ⟨hframed, hstored, hrefused, hhanded⟩ := Ledger.mk.inj hledger
  constructor
  · rw [hstored, hhanded, hmain, hmessages]
    exact hbalanced.stored_eq
  · rw [hstored, hframed]
    exact hbalanced.stored_sublist
  · rw [hstored, hframed, hrefused]
    exact hbalanced.length_framed
  · rw [hdropped, hrefused]
    exact hbalanced.dropped_eq
  · rw [hmain, hmessages]
    exact hbalanced.messages_eq_nil
  · rw [hmain]
    exact fun hjoined => hreaders (hbalanced.readers_ended hjoined)

/-! ## Readers -/

theorem Balanced.offer {message : Message} (hbalanced : session.Balanced buffer)
    (hledger : next.ledger = session.ledger.offer message (buffer.accepts message))
    (hmain : next.main = session.main) (hrelaying : session.main.isRelaying = true) :
    next.Balanced (buffer.enqueue message) := by
  obtain ⟨hframed, hstored, hrefused, hhanded⟩ := Ledger.mk.inj hledger
  obtain ⟨hremaining, hjoined⟩ := remaining_of_isRelaying hrelaying
  constructor
  · intro hcrashed
    have hbefore := hbalanced.stored_eq (hmain ▸ hcrashed)
    simp only [ledger] at hstored hhanded
    rw [hstored, hhanded, hbefore, hmain, hremaining, Buffer.messages_enqueue,
      List.append_nil, List.append_assoc]
  · rw [hstored, hframed]
    apply hbalanced.stored_sublist.append
    split
    · exact List.Sublist.refl _
    · exact List.nil_sublist _
  · have hlength := hbalanced.length_framed
    simp only [hframed, hstored, hrefused, ledger, List.length_append, List.length_singleton]
    split <;> simp <;> omega
  · have hdropped := hbalanced.dropped_eq
    rw [Buffer.dropped_enqueue, hrefused, List.length_append, hdropped]
    split <;> rfl
  · rw [hmain, hrelaying]
    exact fun hnot => absurd hnot Bool.noConfusion
  · rw [hmain, hjoined]
    exact fun hnot => absurd hnot Bool.noConfusion

theorem Balanced.reader {source : Source} {reader : Reader} (hbalanced : session.Balanced buffer)
    (hbuffer : session.buffer = some buffer) (hlaunched : session.isLaunched = true)
    (hreader : session.reader? source = some reader)
    (hmove : session.ReaderMove plan source reader next) :
    ∃ after, next.buffer = some after ∧ next.Balanced after := by
  obtain ⟨-, hmain, -⟩ := hmove.changes
  obtain ⟨hwork, -⟩ := hmove.counts hreader
  have hrelaying : session.main.isRelaying = true := by
    refine isRelaying_of_isLaunched hlaunched (Bool.eq_false_iff.mpr fun hjoined => ?_)
    have hended := hbalanced.readers_ended hjoined
    omega
  rcases hmove.ledger_cases hbuffer with ⟨message, hafter, hledger⟩ | ⟨hafter, hledger⟩
  · exact ⟨_, hafter, hbalanced.offer hledger hmain hrelaying⟩
  · have hreaders : session.readersAtWork = 0 → next.readersAtWork = 0 :=
      fun hnone => absurd hnone (Nat.ne_of_gt hwork)
    rcases hafter with hafter | hafter
    · exact ⟨_, hafter, hbalanced.of_same hledger hmain hreaders rfl rfl⟩
    · exact ⟨_, hafter, hbalanced.of_same hledger hmain hreaders (Buffer.messages_closeProducer _)
        (Buffer.dropped_closeProducer _)⟩

/-! ## Drain -/

theorem Balanced.drain {stage : DrainStage} (hbalanced : session.Balanced buffer)
    (hbuffer : session.buffer = some buffer) (hmove : session.DrainMove plan buffer stage next) :
    ∃ after, next.buffer = some after ∧ next.Balanced after := by
  obtain ⟨-, hreaders, hmain, -⟩ := hmove.counts
  rcases hmove.ledger_cases hbuffer with ⟨message, rest, hdequeue, hafter, hledger⟩ |
    ⟨hafter, hledger⟩
  · refine ⟨rest, hafter, ?_⟩
    obtain ⟨hframed, hstored, hrefused, hhanded⟩ := Ledger.mk.inj hledger
    have hrelaying := hbalanced.isRelaying_of_dequeue? hdequeue
    obtain ⟨hremaining, hjoined⟩ := remaining_of_isRelaying hrelaying
    constructor
    · intro hcrashed
      have hbefore := hbalanced.stored_eq (hmain ▸ hcrashed)
      rw [hstored, hhanded, hmain, hremaining, List.append_nil]
      rw [hremaining, Buffer.messages_of_dequeue? hdequeue,
        List.append_nil] at hbefore
      simp only [ledger, hbefore, List.append_assoc, List.singleton_append]
    · rw [hstored, hframed]
      exact hbalanced.stored_sublist
    · rw [hstored, hframed, hrefused]
      exact hbalanced.length_framed
    · rw [hrefused, Buffer.dropped_of_dequeue? hdequeue]
      exact hbalanced.dropped_eq
    · rw [hmain, hrelaying]
      exact fun hnot => absurd hnot Bool.noConfusion
    · rw [hmain, hjoined]
      exact fun hnot => absurd hnot Bool.noConfusion
  · exact ⟨buffer, hafter, hbalanced.of_same hledger hmain (hreaders.trans ·) rfl rfl⟩

/-! ## Main task -/

/-- The tasks have been joined, so that the buffer gets no more messages. -/
theorem Balanced.flush (hbalanced : session.Balanced buffer) (hcounted : session.Counted)
    (hmain : session.main = .joining) (hunjoined : session.unjoined = 0) :
    (({ session with
        buffer := some buffer.flush
        main := .flushing buffer.messages } : Session).note
      (.flushed buffer.messages)).Balanced buffer.flush := by
  have hbefore := hbalanced.stored_eq (by simp [hmain])
  simp only [hmain, MainStage.remaining, List.append_nil] at hbefore
  rw [Counted, hunjoined, atWork] at hcounted
  constructor
  · intro _
    simpa [stored, handed, MainStage.remaining] using hbefore
  · simpa [stored, framed] using hbalanced.stored_sublist
  · simpa [stored, framed, refused] using hbalanced.length_framed
  · simpa [refused] using hbalanced.dropped_eq
  · exact fun _ => rfl
  · intro _
    simp only [readersAtWork, note_keeps] at hcounted ⊢
    omega

theorem Balanced.hand {message : Message} {remaining : List Message}
    (hbalanced : session.Balanced buffer) (hmain : session.main = .flushing (message :: remaining)) :
    ({ (session.hand plan message).1 with
      main := .flushSending (session.hand plan message).2 remaining } : Session).Balanced
        buffer := by
  have hbefore := hbalanced.stored_eq (by simp [hmain])
  rw [hmain, MainStage.remaining] at hbefore
  constructor
  · intro _
    simpa [stored, handed, MainStage.remaining] using hbefore
  · simpa [stored, framed] using hbalanced.stored_sublist
  · simpa [stored, framed, refused] using hbalanced.length_framed
  · simpa [refused] using hbalanced.dropped_eq
  · exact fun _ => hbalanced.messages_eq_nil (congrArg MainStage.isRelaying hmain)
  · intro _
    have hended := hbalanced.readers_ended (congrArg MainStage.isJoined hmain)
    simpa [readersAtWork] using hended

/-- A crash ends the main task. -/
theorem MainMove.ne_crashed {stage : MainStage} (hmove : session.MainMove plan stage next) :
    stage ≠ .crashed := by
  cases hmove <;> exact MainStage.noConfusion

/-- A step of the main task that moves no message. -/
theorem Balanced.of_main (hbalanced : session.Balanced buffer) (hcrashed : session.main ≠ .crashed)
    (hledger : next.ledger = session.ledger)
    (hremaining : next.main ≠ .crashed → next.main.remaining = session.main.remaining)
    (hrelaying : next.main.isRelaying = false → buffer.messages = [])
    (hended : next.main.isJoined = true → next.readersAtWork = 0) :
    next.Balanced buffer := by
  obtain ⟨hframed, hstored, hrefused, hhanded⟩ := Ledger.mk.inj hledger
  constructor
  · intro hnot
    rw [hstored, hhanded, hremaining hnot]
    exact hbalanced.stored_eq hcrashed
  · rw [hstored, hframed]
    exact hbalanced.stored_sublist
  · rw [hstored, hframed, hrefused]
    exact hbalanced.length_framed
  · rw [hrefused]
    exact hbalanced.dropped_eq
  · exact hrelaying
  · exact hended

/-- A step of the main task when the others have been joined. -/
theorem Balanced.of_joined (hbalanced : session.Balanced buffer) (hcrashed : session.main ≠ .crashed)
    (hjoined : session.main.isJoined = true)
    (hledger : next.ledger = session.ledger) (hreaders : next.readersAtWork = session.readersAtWork)
    (hremaining : next.main ≠ .crashed → next.main.remaining = session.main.remaining) :
    next.Balanced buffer :=
  hbalanced.of_main hcrashed hledger hremaining
    (fun _ => hbalanced.messages_eq_nil (isRelaying_of_isJoined hjoined))
    fun _ => hreaders.trans (hbalanced.readers_ended hjoined)

theorem Balanced.main (hready : plan.readyError = none) (hbalanced : session.Balanced buffer)
    (hcounted : session.Counted) (hbuffer : session.buffer = some buffer)
    (hmove : session.MainMove plan session.main next) :
    ∃ after, next.buffer = some after ∧ next.Balanced after := by
  obtain ⟨hreaders, -⟩ := hmove.counts hready
  have hcrashed := hmove.ne_crashed
  generalize hmain : session.main = stage at hmove
  cases hmove with
  | refuses hstdout hstderr =>
      refine ⟨buffer, hbuffer, hbalanced.of_main hcrashed rfl ?_ ?_ ?_⟩
      · intro _
        rw [hmain]
        rfl
      · exact fun _ => hbalanced.messages_eq_nil (congrArg MainStage.isRelaying hmain)
      · intro _
        simp [readersAtWork, hstdout, hstderr]
  | launches hpipes =>
      refine ⟨buffer, hbuffer, hbalanced.of_main hcrashed rfl ?_ ?_ ?_⟩
      · intro _
        rw [hmain]
        rfl
      · exact fun hnot => absurd hnot Bool.noConfusion
      · exact fun hnot => absurd hnot Bool.noConfusion
  | ready =>
      refine ⟨buffer, ?_, hbalanced.of_main hcrashed ?_ ?_ ?_ ?_⟩
      · simp [Session.ready, hready, hbuffer]
      · simp [Session.ready, hready, ledger, framed, stored, refused, handed]
      · intro _
        rw [hmain]
        simp [Session.ready, hready, MainStage.remaining]
      · simp [Session.ready, hready, MainStage.isRelaying]
      · simp [Session.ready, hready, MainStage.isJoined]
  | flushes buffer' hunjoined hbuffer' =>
      obtain rfl : buffer' = buffer := Option.some.inj (hbuffer'.symm.trans hbuffer)
      refine ⟨buffer'.flush, ?_, hbalanced.flush hcounted hmain hunjoined⟩
      simp
  | skipsFlush hunjoined hnone =>
      exact absurd (hnone.symm.trans hbuffer) (Option.some_ne_none _).symm
  | endsFlush =>
      refine ⟨buffer, ?_, hbalanced.of_joined hcrashed (congrArg MainStage.isJoined hmain) ?_ hreaders
        fun _ => ?_⟩
      · unfold finishFlush
        dsimp only
        split <;> simp [clean, hbuffer]
      · unfold finishFlush
        dsimp only
        split <;> simp [clean, ledger, framed, stored, refused, handed]
      · rw [hmain]
        rfl
  | hands message remaining =>
      refine ⟨buffer, ?_, hbalanced.hand hmain⟩
      simp [hbuffer]
  | sendGoesOn sending later remaining sent hdue hsend =>
      refine ⟨buffer, ?_, hbalanced.of_joined hcrashed (congrArg MainStage.isJoined hmain)
        hsend.ledger_eq hreaders fun _ => ?_⟩
      · simp [hsend.keeps, hbuffer]
      · rw [hmain]
        rfl
  | sendOver sending remaining sent hdue hsend =>
      refine ⟨buffer, ?_, hbalanced.of_joined hcrashed (congrArg MainStage.isJoined hmain)
        hsend.ledger_eq hreaders fun _ => ?_⟩
      · simp [hsend.keeps, hbuffer]
      · rw [hmain]
        rfl
  | sendCrashes sending remaining sent hdue hsend =>
      refine ⟨buffer, ?_, hbalanced.of_joined hcrashed (congrArg MainStage.isJoined hmain)
        hsend.ledger_eq hreaders ?_⟩
      · simp [hsend.keeps, hbuffer]
      · exact fun hnot => absurd rfl hnot
  | stops wakeAt result hwake hresult =>
      refine ⟨buffer, hbuffer, hbalanced.of_joined hcrashed (congrArg MainStage.isJoined hmain) rfl
        hreaders fun _ => ?_⟩
      · rw [hmain]
        rfl
  | finishes result htracer =>
      refine ⟨buffer, hbuffer, hbalanced.of_joined hcrashed (congrArg MainStage.isJoined hmain) rfl
        hreaders fun _ => ?_⟩
      · rw [hmain]
        rfl

/-! ## Whole sessions -/

/-- The state of a session with a buffer, at every moment. -/
def HandsOver (session : Session) : Prop :=
  session.Counted ∧ ∃ buffer, session.buffer = some buffer ∧ session.Balanced buffer

theorem handsOver_create {plan : Plan} (hmode : plan.options.mode = .nonBlocking)
    (stdout stderr : Option PipeScript) (sink : SinkBehaviour) :
    (create plan stdout stderr sink).HandsOver := by
  refine ⟨counted_create plan stdout stderr sink, ?_⟩
  refine ⟨Buffer.create plan.options.maxBufferSize
    ((if stdout.isSome then 1 else 0) + (if stderr.isSome then 1 else 0)), ?_, ?_⟩
  · simp [create, hmode]
  · constructor
    · exact fun _ => rfl
    · exact List.Sublist.refl _
    · rfl
    · rfl
    · exact fun _ => rfl
    · intro hjoined
      exact absurd hjoined Bool.noConfusion

theorem HandsOver.move {event : SessionEvent} (hready : plan.readyError = none)
    (hhandsOver : session.HandsOver) (hmove : session.Move plan event next) :
    next.HandsOver := by
  obtain ⟨hcounted, buffer, hbuffer, hbalanced⟩ := hhandsOver
  refine ⟨hcounted.move hready hmove, ?_⟩
  cases hmove with
  | pass => exact ⟨buffer, hbuffer, hbalanced.of_same rfl rfl id rfl rfl⟩
  | cancel =>
      refine ⟨buffer, ?_, hbalanced.of_same (ledger_cancel session) ?_ ?_ rfl rfl⟩
      · simpa using hbuffer
      · simp
      · simp [readersAtWork]
  | reader source reader next hlaunched hreader hmove =>
      exact hbalanced.reader hbuffer hlaunched hreader hmove
  | drain stage buffer' next hlaunched hdrain hbuffer' hmove =>
      obtain rfl : buffer' = buffer := Option.some.inj (hbuffer'.symm.trans hbuffer)
      exact hbalanced.drain hbuffer hmove
  | join task result next hmain hresult hmem hmove =>
      obtain ⟨hafter, hledger⟩ := hmove.ledger_eq
      obtain ⟨hreaders, -, hsame, -⟩ := hmove.counts
      exact ⟨buffer, hafter.trans hbuffer,
        hbalanced.of_same hledger hsame (hreaders.trans ·) rfl rfl⟩
  | main next hmove => exact hbalanced.main hready hcounted hbuffer hmove
  | tracer action tracer sample? hlaunched hstep =>
      cases sample? with
      | none => exact ⟨buffer, hbuffer, hbalanced.of_same rfl rfl id rfl rfl⟩
      | some sample =>
          refine ⟨buffer, hbuffer, hbalanced.of_same ?_ rfl id rfl rfl⟩
          simp [ledger, framed, stored, refused, handed]

theorem HandsOver.run {last : Session} {events : List SessionEvent}
    (hready : plan.readyError = none) (hhandsOver : session.HandsOver)
    (hrun : session.run? plan events = some last) : last.HandsOver :=
  run?_induction hrun hhandsOver fun _ _ _ hbefore hmove => hbefore.move hready hmove

/-- When the session has returned, all that the buffer has accepted has been handed
over, in order. -/
theorem Balanced.handed_of_done {result : Except Error Unit} (hbalanced : session.Balanced buffer)
    (hdone : session.main = .done result) : session.handed = session.stored := by
  have hempty := hbalanced.messages_eq_nil (congrArg MainStage.isRelaying hdone)
  have hstored := hbalanced.stored_eq (by rw [hdone]; exact MainStage.noConfusion)
  rw [hdone, hempty, List.append_nil] at hstored
  rw [hstored]
  exact (List.append_nil _).symm

/-- When a session in non-blocking mode is over, exactly the messages that the
buffer has accepted have been handed to the dispatcher, each once and in the
order of acceptance.  What is missing of the messages that the framers have
yielded is what the buffer has dropped. -/
theorem handed_eq_stored {plan : Plan} {stdout stderr : Option PipeScript} {sink : SinkBehaviour}
    {events : List SessionEvent} {result : Except Error Unit}
    (hmode : plan.options.mode = .nonBlocking) (hready : plan.readyError = none)
    (hrun : (create plan stdout stderr sink).run? plan events = some session)
    (hdone : session.main = .done result) :
    session.handed = session.stored ∧
      (∀ source, (ofSource source session.handed).Sublist (ofSource source session.framed)) ∧
      ∃ buffer, session.buffer = some buffer ∧
        (ofSource .stdout session.framed).length + (ofSource .stderr session.framed).length =
          (ofSource .stdout session.handed).length + (ofSource .stderr session.handed).length +
            buffer.dropped := by
  obtain ⟨-, buffer, hbuffer, hbalanced⟩ :=
    (handsOver_create hmode stdout stderr sink).run hready hrun
  have hhanded := hbalanced.handed_of_done hdone
  refine ⟨hhanded, ?_, buffer, hbuffer, ?_⟩
  · intro source
    rw [hhanded]
    exact hbalanced.stored_sublist.filter _
  · rw [length_ofSource_add, length_ofSource_add, hhanded, hbalanced.dropped_eq]
    exact hbalanced.length_framed

/-- A buffer that is full with three bytes, one attempt for each message, and no
time for cleaning up. -/
def tightPlan : Plan where
  options := ⟨.nonBlocking, 3, 8, 8, .immediate 1, .zero⟩
  cleanup := .zero
  readyError := none
  runIds := fun _ => RunId.ofBits
  draws := id
  timeOfDay := fun clock => Timestamp.addMillis default clock

/-- One order of the steps of a session whose drain crashes. -/
def crashEvents : List SessionEvent :=
  [.main, .main, .reader .stdout, .reader .stdout, .reader .stdout, .reader .stdout, .drain,
    .reader .stdout, .drain, .reader .stdout, .reader .stdout, .reader .stdout,
    .reader .stdout, .reader .stdout, .join .drain, .join (.reader .stdout), .main, .main,
    .main, .main, .main, .tracer .start, .tracer .conclude, .tracer .take, .tracer .take,
    .tracer .take, .main]

/-- The buffer refuses the second line, the sink crashes under the drain with the
first one, and the third one is handed over by the flush. -/
theorem handed_eq_stored_of_crash :
    tightPlan.options.mode = .nonBlocking ∧ tightPlan.readyError = none ∧
      ∃ session,
        (create tightPlan (some [.data [97, 98, 10, 99, 100, 10], .data [101, 102, 10]]) none
          ⟨[⟨0, .crashed, 1⟩], []⟩).run? tightPlan crashEvents = some session ∧
        session.main = .done (.error (.task TaskResult.crashText)) ∧
        session.handed.map (·.line) = [[97, 98], [101, 102]] ∧
        session.handed = session.stored := by
  have hsome : ((create tightPlan (some [.data [97, 98, 10, 99, 100, 10], .data [101, 102, 10]])
      none ⟨[⟨0, .crashed, 1⟩], []⟩).run? tightPlan crashEvents).isSome = true := by
    decide +kernel
  have hmain : ((create tightPlan (some [.data [97, 98, 10, 99, 100, 10], .data [101, 102, 10]])
      none ⟨[⟨0, .crashed, 1⟩], []⟩).run? tightPlan crashEvents).map (·.main) =
      some (.done (.error (.task TaskResult.crashText))) := by
    rfl
  have hhanded : ((create tightPlan (some [.data [97, 98, 10, 99, 100, 10],
      .data [101, 102, 10]]) none ⟨[⟨0, .crashed, 1⟩], []⟩).run? tightPlan crashEvents).map
        (·.handed.map (·.line)) = some [[97, 98], [101, 102]] := by
    rfl
  obtain ⟨session, hrun⟩ := Option.isSome_iff_exists.mp hsome
  rw [hrun] at hmain hhanded
  have hdone := Option.some.inj hmain
  exact ⟨rfl, rfl, session, hrun, hdone, Option.some.inj hhanded,
    (handed_eq_stored rfl rfl hrun hdone).1⟩

end Session

end LogRelay
