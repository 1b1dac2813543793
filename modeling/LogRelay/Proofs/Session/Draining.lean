import LogRelay.Proofs.Session.HandOver
import LogRelay.Proofs.Session.Journal
import LogRelay.Proofs.Session.Progress

/-!
# The buffer closes and is drained

The buffer counts the readers that have ended, however they end, and it is closed
if and only if none is left at work.  Nothing is offered to it from then on, so
that the drain has nothing left to do once it finds it empty, and the main task
finds nothing to flush unless the drain has crashed.
-/

namespace LogRelay

def Reader.hasEnded (reader : Reader) : Bool :=
  match reader.stage with
  | .ended _ => true
  | _ => false

theorem Reader.atWork_eq (reader : Reader) :
    reader.atWork = if reader.hasEnded then 0 else 1 := by
  rw [atWork, hasEnded]
  cases reader.stage <;> rfl

/-- What the main task has found in the buffer. -/
@[simp, reducible]
def Entry.flushed? : Entry → Option (List Message)
  | .flushed messages => some messages
  | _ => none

namespace Session

variable {plan : Plan} {session next : Session} {buffer after : Buffer}

/-! ## Readers that have ended -/

def readers (session : Session) : List Reader :=
  session.stdout.toList ++ session.stderr.toList

/-- How many readers have ended. -/
def endedReaders (session : Session) : Nat :=
  session.readers.countP Reader.hasEnded

theorem mem_readers_iff {reader : Reader} :
    reader ∈ session.readers ↔ ∃ source, session.reader? source = some reader := by
  rw [readers, List.mem_append, Option.mem_toList, Option.mem_toList]
  constructor
  · rintro (hstdout | hstderr)
    · exact ⟨.stdout, hstdout⟩
    · exact ⟨.stderr, hstderr⟩
  · rintro ⟨source, hreader⟩
    cases source with
    | stdout => exact Or.inl hreader
    | stderr => exact Or.inr hreader

theorem readersAtWork_add_endedReaders (session : Session) :
    session.readersAtWork + session.endedReaders = session.readers.length := by
  rw [readersAtWork, endedReaders, readers, List.countP_append, List.length_append]
  have hpart : ∀ reader? : Option Reader, (reader?.map Reader.atWork).getD 0 +
      reader?.toList.countP Reader.hasEnded = reader?.toList.length := by
    intro reader?
    cases reader? with
    | none => rfl
    | some reader =>
        rw [Option.map_some, Option.getD_some, Reader.atWork_eq, Option.toList_some,
          List.countP_singleton]
        cases reader.hasEnded <;> rfl
  have hstdout := hpart session.stdout
  have hstderr := hpart session.stderr
  omega

theorem readersAtWork_eq_zero_iff :
    session.readersAtWork = 0 ↔
      ∀ source reader, session.reader? source = some reader → reader.hasEnded = true := by
  have hcount : session.readersAtWork = 0 ↔
      session.readers.countP Reader.hasEnded = session.readers.length := by
    have htotal := session.readersAtWork_add_endedReaders
    rw [endedReaders] at htotal
    omega
  rw [hcount, List.countP_eq_length]
  constructor
  · intro hall source reader hreader
    exact hall reader (mem_readers_iff.mpr ⟨source, hreader⟩)
  · intro hall reader hmem
    obtain ⟨source, hreader⟩ := mem_readers_iff.mp hmem
    exact hall source reader hreader

theorem Move.length_readers {event : SessionEvent} (hmove : session.Move plan event next) :
    next.readers.length = session.readers.length := by
  have hstdout := hmove.reader?_isSome .stdout
  have hstderr := hmove.reader?_isSome .stderr
  simp only [reader?] at hstdout hstderr
  rw [readers, readers, List.length_append, List.length_append, Option.length_toList,
    Option.length_toList, Option.length_toList, Option.length_toList, hstdout, hstderr]

/-! ## The buffer counts them -/

structure CountsReaders (session : Session) (buffer : Buffer) : Prop where
  producers : buffer.producers = session.readers.length
  finished : buffer.closedProducers = session.endedReaders
  closed : buffer.closed = true ↔ session.readersAtWork = 0

theorem CountsReaders.move {event : SessionEvent} (hcounts : session.CountsReaders buffer)
    (hmove : session.Move plan event next) (hstep : session.BufferStep next buffer after) :
    next.CountsReaders after := by
  obtain ⟨hproducers, hfinished, hclosed⟩ := hcounts
  have hlength := hmove.length_readers
  have hbefore := session.readersAtWork_add_endedReaders
  have hnow := next.readersAtWork_add_endedReaders
  cases hstep with
  | stays hreaders hoffers | empties hreaders hoffers =>
      refine ⟨hproducers.trans hlength.symm, ?_, ?_⟩
      · show buffer.closedProducers = next.endedReaders
        omega
      · rw [hreaders]
        exact hclosed
  | takes message hwork hreaders =>
      obtain ⟨hsame, hended⟩ := fields_enqueue buffer message
      refine ⟨(hsame.trans hproducers).trans hlength.symm, ?_, ?_⟩
      · omega
      · rw [Buffer.closed_enqueue, hreaders]
        exact hclosed
  | gives message rest hdequeue hreaders hoffers =>
      obtain ⟨hsame, hended⟩ := fields_of_dequeue? hdequeue
      refine ⟨(hsame.trans hproducers).trans hlength.symm, ?_, ?_⟩
      · omega
      · rw [Buffer.closed_of_dequeue? hdequeue, hreaders]
        exact hclosed
  | closes hreaders hoffers =>
      refine ⟨hproducers.trans hlength.symm, ?_, ?_⟩
      · simp only [Buffer.closeProducer]
        omega
      · simp only [Buffer.closeProducer, Bool.or_eq_true, decide_eq_true_eq, hclosed]
        omega

/-! ## Nothing is offered to a closed buffer -/

/-- A closed buffer stays closed, nothing is offered to it, and if it is empty it
stays empty. -/
theorem BufferStep.of_closed (hcounts : session.CountsReaders buffer)
    (hclosed : buffer.closed = true) (hstep : session.BufferStep next buffer after) :
    after.closed = true ∧ session.OffersNothing next ∧
      (buffer.messages = [] → after.messages = []) := by
  have hnone := hcounts.closed.mp hclosed
  cases hstep with
  | stays hreaders hoffers => exact ⟨hclosed, hoffers, id⟩
  | takes message hwork hreaders => exact absurd hnone (Nat.ne_of_gt hwork)
  | gives message rest hdequeue hreaders hoffers =>
      refine ⟨(Buffer.closed_of_dequeue? hdequeue).trans hclosed, hoffers, fun hempty => ?_⟩
      rw [Buffer.messages_of_dequeue? hdequeue] at hempty
      exact absurd hempty (List.cons_ne_nil _ _)
  | empties hreaders hoffers => exact ⟨hclosed, hoffers, fun _ => rfl⟩
  | closes hreaders hoffers => exact ⟨by simp [Buffer.closeProducer, hclosed], hoffers, id⟩

/-! ## Drain and flush -/

/-- What the main task has found in the buffer when it flushed it. -/
def flushed (session : Session) : List (List Message) :=
  selected Entry.flushed? session.journal

theorem DrainMove.ended_cases {stage : DrainStage} {result : TaskResult}
    (hmove : session.DrainMove plan buffer stage next)
    (hended : next.drain = some (.ended result)) :
    result = .finished ∧ buffer.closed = true ∧ buffer.messages = [] ∧
        next.buffer = session.buffer ∨
      result = .crashed := by
  cases hmove with
  | takes | sendGoesOn | sendOver => simp [setDrain] at hended
  | finishes hdequeue hclosed =>
      rw [(endDrain_keeps _ _).2.2.2.2.1] at hended
      cases hended
      exact Or.inl ⟨rfl, hclosed, Buffer.dequeue?_eq_none_iff.mp hdequeue, by simp⟩
  | sendCrashes sending sent hdue hsend =>
      rw [(endDrain_keeps _ _).2.2.2.2.1] at hended
      cases hended
      exact Or.inr rfl

theorem flushed?_of_isOfTask (entry : Entry) (hentry : entry.isOfTask = true) :
    entry.flushed? = none := by
  cases entry <;> first | rfl | exact absurd hentry Bool.false_ne_true

theorem flushed?_of_isOfReader (entry : Entry) (hentry : entry.isOfReader = true) :
    entry.flushed? = none := by
  cases entry <;> first | rfl | exact absurd hentry Bool.false_ne_true

theorem MainMove.flushed_cases (hready : plan.readyError = none)
    (hmove : session.MainMove plan session.main next) :
    next.flushed = session.flushed ∨
      ∃ buffer, session.unjoined = 0 ∧ session.buffer = some buffer ∧
        next.flushed = session.flushed ++ [buffer.messages] := by
  generalize session.main = stage at hmove
  cases hmove with
  | flushes buffer hunjoined hbuffer =>
      exact Or.inr ⟨buffer, hunjoined, hbuffer, by simp [flushed]⟩
  | ready => exact Or.inl (by simp [Session.ready, hready, flushed])
  | endsFlush =>
      refine Or.inl ?_
      unfold finishFlush
      dsimp only
      split <;> simp [clean, flushed]
  | hands => exact Or.inl (by simp [flushed])
  | sendGoesOn sending later remaining sent hdue hsend
  | sendOver sending remaining sent hdue hsend | sendCrashes sending remaining sent hdue hsend =>
      exact Or.inl (hsend.adds.selected_eq flushed?_of_isOfTask)
  | _ => exact Or.inl rfl

theorem Move.flushed_cases {event : SessionEvent} (hready : plan.readyError = none)
    (hmove : session.Move plan event next) :
    next.flushed = session.flushed ∨
      ∃ buffer, session.unjoined = 0 ∧ session.buffer = some buffer ∧
        next.flushed = session.flushed ++ [buffer.messages] := by
  cases hmove with
  | pass => exact Or.inl rfl
  | cancel => exact Or.inl (by simp [flushed])
  | reader source reader next hlaunched hreader hmove =>
      rcases hmove.adds_cases with hadds | ⟨asked, -, -, hjournal⟩
      · exact Or.inl (hadds.selected_eq flushed?_of_isOfReader)
      · exact Or.inl (by simp [flushed, hjournal])
  | drain stage buffer next hlaunched hdrain hbuffer hmove =>
      exact Or.inl (hmove.adds.selected_eq flushed?_of_isOfTask)
  | join task result next hmain hresult hmem hmove =>
      refine Or.inl (hmove.adds.selected_eq fun entry hentry => ?_)
      cases entry <;> first | rfl | exact absurd hentry Bool.false_ne_true
  | main next hmove => exact hmove.flushed_cases hready
  | tracer action tracer sample? => cases sample? <;> exact Or.inl (by simp [flushed])

/-- What is true of a session with a buffer at every moment. -/
structure Draining (session : Session) (buffer : Buffer) : Prop where
  orderly : session.Orderly
  counts : session.CountsReaders buffer
  drain : ∀ result, session.drain = some (.ended result) →
    result = .finished ∧ buffer.closed = true ∧ buffer.messages = [] ∨ result = .crashed
  flushed : ∀ messages ∈ session.flushed,
    messages = [] ∨ session.drain = some (.ended .crashed)

/-- When all tasks have been joined, nothing is left in the buffer unless the drain
has crashed. -/
theorem Draining.messages_eq_nil (hdraining : session.Draining buffer)
    (hbuffer : session.buffer = some buffer) (hunjoined : session.unjoined = 0) :
    buffer.messages = [] ∨ session.drain = some (.ended .crashed) := by
  have hcounted := hdraining.orderly.counted
  rw [Counted, hunjoined, atWork] at hcounted
  have hpaired := hdraining.orderly.paired
  rw [Paired, hbuffer, Option.isSome_some] at hpaired
  obtain ⟨stage, hdrain⟩ := Option.isSome_iff_exists.mp hpaired
  rw [hdrain, Option.map_some, Option.getD_some] at hcounted
  cases stage with
  | ended result =>
      rcases hdraining.drain result hdrain with ⟨-, -, hempty⟩ | hcrashed
      · exact Or.inl hempty
      · exact Or.inr (hcrashed ▸ hdrain)
  | waiting | sending =>
      simp only [DrainStage.atWork] at hcounted
      omega

theorem Draining.drain_move {event : SessionEvent} (hready : plan.readyError = none)
    (hdraining : session.Draining buffer) (hbuffer : session.buffer = some buffer)
    (hmove : session.Move plan event next) (hafter : next.buffer = some after)
    (hstep : session.BufferStep next buffer after) (result : TaskResult)
    (hresult : next.drain = some (.ended result)) :
    result = .finished ∧ after.closed = true ∧ after.messages = [] ∨ result = .crashed := by
  rcases hmove.drain_cases with hsame | ⟨stage, taken, -, htaken, hmove⟩ | ⟨hsome, -⟩
  · rcases hdraining.drain result (hsame.symm.trans hresult) with
      ⟨hfinished, hclosed, hempty⟩ | hcrashed
    · obtain ⟨hstays, -, hleft⟩ := hstep.of_closed hdraining.counts hclosed
      exact Or.inl ⟨hfinished, hstays, hleft hempty⟩
    · exact Or.inr hcrashed
  · obtain rfl : taken = buffer := Option.some.inj (htaken.symm.trans hbuffer)
    rcases hmove.ended_cases hresult with ⟨hfinished, hclosed, hempty, hsame⟩ | hcrashed
    · obtain rfl : after = taken :=
        Option.some.inj (hafter.symm.trans (hsame.trans htaken))
      exact Or.inl ⟨hfinished, hclosed, hempty⟩
    · exact Or.inr hcrashed
  · simp [hready] at hsome

theorem Draining.move {event : SessionEvent} (hready : plan.readyError = none)
    (hdraining : session.Draining buffer) (hbuffer : session.buffer = some buffer)
    (hmove : session.Move plan event next) :
    ∃ after, next.buffer = some after ∧ next.Draining after := by
  obtain ⟨after, hafter, hstep⟩ := hmove.bufferStep hready hbuffer
  refine ⟨after, hafter, hdraining.orderly.move hready hmove, hdraining.counts.move hmove hstep,
    hdraining.drain_move hready hbuffer hmove hafter hstep, fun messages hmessages => ?_⟩
  have hold : messages ∈ session.flushed →
      messages = [] ∨ next.drain = some (.ended .crashed) := fun hmem =>
    (hdraining.flushed messages hmem).imp_right (hmove.drain_of_ended hready)
  rcases hmove.flushed_cases hready with heq | ⟨found, hunjoined, hfound, heq⟩
  · exact hold (heq ▸ hmessages)
  · obtain rfl : found = buffer := Option.some.inj (hfound.symm.trans hbuffer)
    rw [heq, List.mem_append, List.mem_singleton] at hmessages
    rcases hmessages with hmem | rfl
    · exact hold hmem
    · exact (hdraining.messages_eq_nil hbuffer hunjoined).imp_right (hmove.drain_of_ended hready)

/-! ## Whole sessions -/

/-- The state of a session with a buffer, at every moment. -/
def Drains (session : Session) : Prop :=
  ∃ buffer, session.buffer = some buffer ∧ session.Draining buffer

theorem drains_create (hmode : plan.options.mode = .nonBlocking)
    (stdout stderr : Option PipeScript) (sink : SinkBehaviour) :
    (create plan stdout stderr sink).Drains := by
  refine ⟨Buffer.create plan.options.maxBufferSize
    ((if stdout.isSome then 1 else 0) + if stderr.isSome then 1 else 0), ?_,
    orderly_create plan stdout stderr sink, ⟨?_, ?_, ?_⟩, ?_, ?_⟩
  · simp [create, hmode]
  · cases stdout <;> cases stderr <;> rfl
  · cases stdout <;> cases stderr <;> rfl
  · rw [readersAtWork_create]
    exact decide_eq_true_iff
  · exact fun result hresult =>
      absurd hresult (drain_create_ne_ended plan stdout stderr sink result)
  · exact fun messages hmem => absurd hmem List.not_mem_nil

theorem Drains.move {event : SessionEvent} (hready : plan.readyError = none)
    (hdrains : session.Drains) (hmove : session.Move plan event next) : next.Drains := by
  obtain ⟨buffer, hbuffer, hdraining⟩ := hdrains
  exact hdraining.move hready hbuffer hmove

theorem Drains.run {events : List SessionEvent} (hready : plan.readyError = none)
    (hdrains : session.Drains) (hrun : session.run? plan events = some next) : next.Drains :=
  run?_induction hrun hdrains fun _ _ _ hbefore hmove => hbefore.move hready hmove

/-- The buffer is closed, and nothing has been offered to it since that session. -/
def SealedSince (session next : Session) : Prop :=
  ∃ buffer, next.buffer = some buffer ∧ next.Draining buffer ∧ buffer.closed = true ∧
    session.OffersNothing next

theorem SealedSince.move {event : SessionEvent} {later : Session}
    (hready : plan.readyError = none) (hsealed : session.SealedSince next)
    (hmove : next.Move plan event later) : session.SealedSince later := by
  obtain ⟨buffer, hbuffer, hdraining, hclosed, hstored, hrefused⟩ := hsealed
  obtain ⟨after, hafter, hstep⟩ := hmove.bufferStep hready hbuffer
  obtain ⟨found, hfound, hlater⟩ := hdraining.move hready hbuffer hmove
  obtain rfl : found = after := Option.some.inj (hfound.symm.trans hafter)
  obtain ⟨hstays, ⟨hsame, hothers⟩, -⟩ := hstep.of_closed hdraining.counts hclosed
  exact ⟨found, hfound, hlater, hstays, hsame.trans hstored, hothers.trans hrefused⟩

theorem SealedSince.run {events : List SessionEvent} (hready : plan.readyError = none)
    (hsealed : session.SealedSince session) (hrun : session.run? plan events = some next) :
    session.SealedSince next :=
  run?_induction (motive := fun later => session.SealedSince later) hrun hsealed
    fun _ _ _ hbefore hmove => hbefore.move hready hmove

theorem length_readers_of_run? {events : List SessionEvent}
    (hrun : session.run? plan events = some next) :
    next.readers.length = session.readers.length :=
  run?_induction (motive := fun later => later.readers.length = session.readers.length) hrun rfl
    fun _ _ _ hbefore hmove => hmove.length_readers.trans hbefore

/-- In a session with a buffer, whatever the pipes and the sink do: the buffer counts
the readers that have ended, and is closed if and only if all of them have.  Nothing is
offered to it from then on.  The drain finishes only when the buffer is closed and
empty, so that the flush finds nothing in it unless the drain has crashed. -/
theorem buffer_closes_with_readers {stdout stderr : Option PipeScript} {sink : SinkBehaviour}
    {events : List SessionEvent} (hmode : plan.options.mode = .nonBlocking)
    (hready : plan.readyError = none)
    (hrun : (create plan stdout stderr sink).run? plan events = some session) :
    ∃ buffer, session.buffer = some buffer ∧
      buffer.closedProducers = session.endedReaders ∧
      buffer.closedProducers ≤ (stdout.toList ++ stderr.toList).length ∧
      (buffer.closed = true ↔
        ∀ source reader, session.reader? source = some reader → reader.hasEnded = true) ∧
      (buffer.closed = true → ∀ later next, session.run? plan later = some next →
        next.stored = session.stored ∧ next.refused = session.refused) ∧
      (session.drain = some (.ended .finished) →
        buffer.closed = true ∧ buffer.messages = []) ∧
      ∀ messages ∈ session.flushed,
        messages = [] ∨ session.drain = some (.ended .crashed) := by
  have hdrains := (drains_create hmode stdout stderr sink).run hready hrun
  obtain ⟨buffer, hbuffer, hdraining⟩ := hdrains
  obtain ⟨hproducers, hfinished, hclosed⟩ := hdraining.counts
  refine ⟨buffer, hbuffer, hfinished, ?_, hclosed.trans readersAtWork_eq_zero_iff, ?_, ?_,
    hdraining.flushed⟩
  · have hlength := length_readers_of_run? hrun
    have hpipes : (create plan stdout stderr sink).readers.length =
        (stdout.toList ++ stderr.toList).length := by
      cases stdout <;> cases stderr <;> rfl
    rw [hfinished, ← hpipes, ← hlength]
    exact List.countP_le_length
  · intro hsealed later next hlater
    have hsince : session.SealedSince session :=
      ⟨buffer, hbuffer, hdraining, hsealed, rfl, rfl⟩
    obtain ⟨-, -, -, -, hoffers⟩ := hsince.run hready hlater
    exact hoffers
  · intro hdrain
    rcases hdraining.drain _ hdrain with ⟨-, hends⟩ | hcrashed
    · exact hends
    · cases hcrashed

/-- One order of the steps of a session in which one pipe crashes. -/
def crashedPipeEvents : List SessionEvent :=
  [.main, .main, .reader .stdout, .reader .stderr, .reader .stdout, .reader .stderr,
    .reader .stderr, .drain, .drain, .reader .stderr, .reader .stderr, .reader .stderr, .drain,
    .join (.reader .stdout), .join .drain, .join (.reader .stderr), .main]

theorem buffer_closes_with_crashed_reader :
    tightPlan.options.mode = .nonBlocking ∧ tightPlan.readyError = none ∧
      ∃ session, (create tightPlan (some [.crash]) (some [.data [97, 10]]) ⟨[], []⟩).run?
          tightPlan crashedPipeEvents = some session ∧
        session.taskResult? (.reader .stdout) = some .crashed ∧ session.flushed.length = 1 ∧
        (∀ messages ∈ session.flushed, messages = []) ∧
        ∃ buffer, session.buffer = some buffer ∧ buffer.closedProducers = 2 ∧
          buffer.closed = true ∧ buffer.messages = [] := by
  have hview : ((create tightPlan (some [.crash]) (some [.data [97, 10]]) ⟨[], []⟩).run?
      tightPlan crashedPipeEvents).map (fun session =>
        (session.taskResult? (.reader .stdout), session.flushed.length, session.endedReaders,
          session.drain)) = some (some .crashed, 1, 2, some (.ended .finished)) := by
    decide +kernel
  obtain ⟨session, hrun, heq⟩ := Option.map_eq_some_iff.mp hview
  simp only [Prod.mk.injEq] at heq
  obtain ⟨hcrashed, hflushed, hended, hdrain⟩ := heq
  obtain ⟨buffer, hbuffer, hfinished, -, -, -, hdrained, hfound⟩ :=
    buffer_closes_with_readers rfl rfl hrun
  obtain ⟨hclosed, hempty⟩ := hdrained hdrain
  refine ⟨rfl, rfl, session, hrun, hcrashed, hflushed, ?_, buffer, hbuffer,
    hfinished.trans hended, hclosed, hempty⟩
  intro messages hmem
  rcases hfound messages hmem with hnone | hother
  · exact hnone
  · rw [hdrain] at hother
    cases hother

end Session

end LogRelay
