import LogRelay.Session.Step

/-!
# The parts of a session that a step leaves alone

The steps of a session are made of a few operations, and each of them changes a
few parts of the session.  For each operation one lemma lists the parts that it
keeps; the journal is looked at through what is selected from it.
-/

namespace LogRelay.Session

variable {α : Type} {select : Entry → Option α}

/-- What is selected from a journal, the earliest first. -/
def selected (select : Entry → Option α) (journal : List (Nat × Entry)) : List α :=
  journal.reverse.filterMap fun entry => select entry.2

@[simp]
theorem selected_cons (time : Nat) (entry : Entry) (journal : List (Nat × Entry)) :
    selected select ((time, entry) :: journal) =
      selected select journal ++ (select entry).toList := by
  rw [selected, List.reverse_cons, List.filterMap_append]
  cases hentry : select entry <;> simp [selected, hentry]

@[simp]
theorem note_keeps (session : Session) (entry : Entry) :
    (session.note entry).clock = session.clock ∧
    (session.note entry).cancelled = session.cancelled ∧
    (session.note entry).stdout = session.stdout ∧
    (session.note entry).stderr = session.stderr ∧
    (session.note entry).drain = session.drain ∧
    (session.note entry).buffer = session.buffer ∧
    (session.note entry).sink = session.sink ∧
    (session.note entry).tracer = session.tracer ∧
    (session.note entry).drawn = session.drawn ∧
    (session.note entry).toJoin = session.toJoin ∧
    (session.note entry).unjoined = session.unjoined ∧
    (session.note entry).firstError = session.firstError ∧
    (session.note entry).main = session.main ∧
    (session.note entry).journal = (session.clock, entry) :: session.journal := by
  simp only [note, and_self]

@[simp]
theorem reader?_note (session : Session) (entry : Entry) (source : Source) :
    (session.note entry).reader? source = session.reader? source := by
  cases source <;> rfl

@[simp]
theorem setReader_keeps (session : Session) (source : Source) (reader : Reader) :
    (session.setReader source reader).clock = session.clock ∧
    (session.setReader source reader).cancelled = session.cancelled ∧
    (session.setReader source reader).drain = session.drain ∧
    (session.setReader source reader).buffer = session.buffer ∧
    (session.setReader source reader).sink = session.sink ∧
    (session.setReader source reader).tracer = session.tracer ∧
    (session.setReader source reader).drawn = session.drawn ∧
    (session.setReader source reader).toJoin = session.toJoin ∧
    (session.setReader source reader).unjoined = session.unjoined ∧
    (session.setReader source reader).firstError = session.firstError ∧
    (session.setReader source reader).main = session.main ∧
    (session.setReader source reader).journal = session.journal := by
  cases source <;> simp only [setReader, and_self]

@[simp]
theorem stdout_setReader (session : Session) (source : Source) (reader : Reader) :
    (session.setReader source reader).stdout =
      if source = .stdout then some reader else session.stdout := by
  cases source <;> rfl

@[simp]
theorem stderr_setReader (session : Session) (source : Source) (reader : Reader) :
    (session.setReader source reader).stderr =
      if source = .stderr then some reader else session.stderr := by
  cases source <;> rfl

theorem reader?_setReader (session : Session) (source other : Source) (reader : Reader) :
    (session.setReader source reader).reader? other =
      if other = source then some reader else session.reader? other := by
  cases source <;> cases other <;> rfl

@[simp]
theorem record_keeps (session : Session) (counter : Counter) (amount : Nat) :
    (session.record counter amount).clock = session.clock ∧
    (session.record counter amount).cancelled = session.cancelled ∧
    (session.record counter amount).stdout = session.stdout ∧
    (session.record counter amount).stderr = session.stderr ∧
    (session.record counter amount).drain = session.drain ∧
    (session.record counter amount).buffer = session.buffer ∧
    (session.record counter amount).sink = session.sink ∧
    (session.record counter amount).drawn = session.drawn ∧
    (session.record counter amount).toJoin = session.toJoin ∧
    (session.record counter amount).unjoined = session.unjoined ∧
    (session.record counter amount).firstError = session.firstError ∧
    (session.record counter amount).main = session.main ∧
    (session.record counter amount).journal = session.journal := by
  simp only [record, and_self]

@[simp]
theorem reader?_record (session : Session) (counter : Counter) (amount : Nat) (source : Source) :
    (session.record counter amount).reader? source = session.reader? source := by
  cases source <;> rfl

@[simp]
theorem cancel_keeps (session : Session) :
    session.cancel.clock = session.clock ∧
    session.cancel.stdout = session.stdout ∧
    session.cancel.stderr = session.stderr ∧
    session.cancel.drain = session.drain ∧
    session.cancel.buffer = session.buffer ∧
    session.cancel.sink = session.sink ∧
    session.cancel.tracer = session.tracer ∧
    session.cancel.drawn = session.drawn ∧
    session.cancel.toJoin = session.toJoin ∧
    session.cancel.unjoined = session.unjoined ∧
    session.cancel.firstError = session.firstError ∧
    session.cancel.main = session.main := by
  rw [cancel]
  split <;> simp only [note_keeps, and_self]

@[simp]
theorem reader?_cancel (session : Session) (source : Source) :
    session.cancel.reader? source = session.reader? source := by
  cases source <;> simp [reader?]

@[simp]
theorem selected_cancel (session : Session) (hselect : select .cancelled = none) :
    selected select session.cancel.journal = selected select session.journal := by
  rw [cancel]
  split
  · rfl
  · simp [hselect]

/-! ## Deliveries -/

@[simp]
theorem call_keeps (session : Session) (delivery : Delivery) :
    (session.call delivery).1.clock = session.clock ∧
    (session.call delivery).1.cancelled = session.cancelled ∧
    (session.call delivery).1.stdout = session.stdout ∧
    (session.call delivery).1.stderr = session.stderr ∧
    (session.call delivery).1.drain = session.drain ∧
    (session.call delivery).1.buffer = session.buffer ∧
    (session.call delivery).1.tracer = session.tracer ∧
    (session.call delivery).1.drawn = session.drawn ∧
    (session.call delivery).1.toJoin = session.toJoin ∧
    (session.call delivery).1.unjoined = session.unjoined ∧
    (session.call delivery).1.firstError = session.firstError ∧
    (session.call delivery).1.main = session.main ∧
    (session.call delivery).1.journal =
      (session.clock, .called delivery.message (session.sink.call delivery.message.source).2.1) ::
        session.journal := by
  simp only [call, note_keeps, and_self]

@[simp]
theorem hand_keeps (plan : Plan) (session : Session) (message : Message) :
    (session.hand plan message).1.clock = session.clock ∧
    (session.hand plan message).1.cancelled = session.cancelled ∧
    (session.hand plan message).1.stdout = session.stdout ∧
    (session.hand plan message).1.stderr = session.stderr ∧
    (session.hand plan message).1.drain = session.drain ∧
    (session.hand plan message).1.buffer = session.buffer ∧
    (session.hand plan message).1.tracer = session.tracer ∧
    (session.hand plan message).1.drawn = session.drawn ∧
    (session.hand plan message).1.toJoin = session.toJoin ∧
    (session.hand plan message).1.unjoined = session.unjoined ∧
    (session.hand plan message).1.firstError = session.firstError ∧
    (session.hand plan message).1.main = session.main ∧
    (session.hand plan message).1.journal =
      (session.clock, .called message (session.sink.call message.source).2.1) ::
        (session.clock, .handed message) :: session.journal := by
  simp only [hand, call_keeps, note_keeps, Delivery.start, and_self]

/-! ## Tasks that end -/

@[simp]
theorem endTask_keeps (session : Session) (task : Task) (result : TaskResult) :
    (session.endTask task result).clock = session.clock ∧
    (session.endTask task result).cancelled = session.cancelled ∧
    (session.endTask task result).stdout = session.stdout ∧
    (session.endTask task result).stderr = session.stderr ∧
    (session.endTask task result).drain = session.drain ∧
    (session.endTask task result).buffer = session.buffer ∧
    (session.endTask task result).sink = session.sink ∧
    (session.endTask task result).tracer = session.tracer ∧
    (session.endTask task result).drawn = session.drawn ∧
    (session.endTask task result).toJoin = session.toJoin ++ [task] ∧
    (session.endTask task result).unjoined = session.unjoined ∧
    (session.endTask task result).firstError = session.firstError ∧
    (session.endTask task result).main = session.main ∧
    (session.endTask task result).journal =
      (session.clock, .ended task result) :: session.journal := by
  simp only [endTask, note_keeps, and_self]

@[simp]
theorem endReader_keeps (session : Session) (source : Source) (reader : Reader)
    (result : TaskResult) :
    (session.endReader source reader result).clock = session.clock ∧
    (session.endReader source reader result).cancelled = session.cancelled ∧
    (session.endReader source reader result).drain = session.drain ∧
    (session.endReader source reader result).buffer =
      session.buffer.map Buffer.closeProducer ∧
    (session.endReader source reader result).sink = session.sink ∧
    (session.endReader source reader result).tracer = session.tracer ∧
    (session.endReader source reader result).drawn = session.drawn ∧
    (session.endReader source reader result).toJoin = session.toJoin ++ [.reader source] ∧
    (session.endReader source reader result).unjoined = session.unjoined ∧
    (session.endReader source reader result).firstError = session.firstError ∧
    (session.endReader source reader result).main = session.main := by
  cases hbuffer : session.buffer <;> simp [endReader, hbuffer]

@[simp]
theorem stdout_endReader (session : Session) (source : Source) (reader : Reader)
    (result : TaskResult) :
    (session.endReader source reader result).stdout =
      if source = .stdout then some { reader with stage := .ended result }
      else session.stdout := by
  cases hbuffer : session.buffer <;> simp [endReader, hbuffer]

@[simp]
theorem stderr_endReader (session : Session) (source : Source) (reader : Reader)
    (result : TaskResult) :
    (session.endReader source reader result).stderr =
      if source = .stderr then some { reader with stage := .ended result }
      else session.stderr := by
  cases hbuffer : session.buffer <;> simp [endReader, hbuffer]

theorem reader?_endReader (session : Session) (source other : Source) (reader : Reader)
    (result : TaskResult) :
    (session.endReader source reader result).reader? other =
      if other = source then some { reader with stage := .ended result }
      else session.reader? other := by
  rw [← reader?_setReader]
  cases hbuffer : session.buffer <;> cases other <;> simp [endReader, hbuffer, reader?]

@[simp]
theorem selected_endReader (session : Session) (source : Source) (reader : Reader)
    (result : TaskResult) (hclosed : ∀ source, select (.producerClosed source) = none)
    (hended : ∀ task result, select (.ended task result) = none) :
    selected select (session.endReader source reader result).journal =
      selected select session.journal := by
  cases hbuffer : session.buffer <;> simp [endReader, hbuffer, hclosed, hended]

@[simp]
theorem endDrain_keeps (session : Session) (result : TaskResult) :
    (session.endDrain result).clock = session.clock ∧
    (session.endDrain result).cancelled = session.cancelled ∧
    (session.endDrain result).stdout = session.stdout ∧
    (session.endDrain result).stderr = session.stderr ∧
    (session.endDrain result).drain = some (.ended result) ∧
    (session.endDrain result).buffer = session.buffer ∧
    (session.endDrain result).sink = session.sink ∧
    (session.endDrain result).tracer = session.tracer ∧
    (session.endDrain result).drawn = session.drawn ∧
    (session.endDrain result).toJoin = session.toJoin ++ [.drain] ∧
    (session.endDrain result).unjoined = session.unjoined ∧
    (session.endDrain result).firstError = session.firstError ∧
    (session.endDrain result).main = session.main ∧
    (session.endDrain result).journal =
      (session.clock, .ended .drain result) :: session.journal := by
  simp only [endDrain, setDrain, endTask_keeps, and_self]

/-! ## Sessions that have not begun -/

/-- The pipes that a session is created with. -/
def pipesOf (stdout stderr : Option PipeScript) : Source → Option PipeScript
  | .stdout => stdout
  | .stderr => stderr

/-- Where there is only one pipe, what is true of it is true of every pipe. -/
theorem forall_pipe_of_stdout {motive : Source → PipeScript → Prop} {pipe : PipeScript}
    (hpipe : motive .stdout pipe) :
    ∀ source other, pipesOf (some pipe) none source = some other → motive source other := by
  intro source other hother
  cases source with
  | stdout => exact Option.some.inj hother ▸ hpipe
  | stderr => exact absurd hother (Option.some_ne_none _).symm

theorem reader?_create (plan : Plan) (stdout stderr : Option PipeScript) (sink : SinkBehaviour)
    (source : Source) : (create plan stdout stderr sink).reader? source =
      (pipesOf stdout stderr source).map (newReader plan source) := by
  cases source <;> rfl

theorem exists_pipe_of_create {plan : Plan} {stdout stderr : Option PipeScript}
    {sink : SinkBehaviour} {source : Source} {reader : Reader}
    (hreader : (create plan stdout stderr sink).reader? source = some reader) :
    ∃ pipe, pipesOf stdout stderr source = some pipe ∧ reader = newReader plan source pipe := by
  rw [reader?_create] at hreader
  obtain ⟨pipe, hpipe, hnew⟩ := Option.map_eq_some_iff.mp hreader
  exact ⟨pipe, hpipe, hnew.symm⟩

theorem drain_create_ne_ended (plan : Plan) (stdout stderr : Option PipeScript)
    (sink : SinkBehaviour) (result : TaskResult) :
    (create plan stdout stderr sink).drain ≠ some (.ended result) := by
  rw [create]
  dsimp only
  split <;> simp

end LogRelay.Session
