import LogRelay.Proofs.Buffer.Operations
import LogRelay.Proofs.Session.Accounting

/-!
# How much the buffer of a session holds

A session touches its buffer by operations of the buffer alone, and no framer makes a
message that is larger than its working buffer.  So what a buffer keeps beside its
queue is right in every state of every session, and the bytes in the queue are within
the capacity or those of one message.
-/

namespace LogRelay.Session

variable {plan : Plan} {session next : Session} {fits : Message → Prop}

/-- What one buffer becomes; a session without a buffer gets none. -/
abbrev BufferReaches (fits : Message → Prop) : Option Buffer → Option Buffer → Prop :=
  Option.Rel (Buffer.Reaches fits)

theorem bufferReaches_refl (buffer : Option Buffer) : BufferReaches fits buffer buffer := by
  cases buffer with
  | none => exact .none
  | some buffer => exact .some .refl

theorem bufferReaches_of_eq (hbuffer : next.buffer = session.buffer) :
    BufferReaches fits session.buffer next.buffer := by
  rw [hbuffer]
  exact bufferReaches_refl _

theorem BufferReaches.trans {buffer middle after : Option Buffer}
    (hfirst : BufferReaches fits buffer middle) (hsecond : BufferReaches fits middle after) :
    BufferReaches fits buffer after := by
  cases hfirst with
  | none => exact hsecond
  | some hfirst =>
      cases hsecond with
      | some hsecond => exact .some (Relation.ReflTransGen.trans hfirst hsecond)

theorem bufferReaches_closeProducer (buffer : Option Buffer) :
    BufferReaches fits buffer (buffer.map Buffer.closeProducer) := by
  cases buffer with
  | none => exact .none
  | some buffer => exact .some (.single .closes)

theorem bufferReaches_endReader (session : Session) (source : Source) (reader : Reader)
    (result : TaskResult) :
    BufferReaches fits session.buffer (session.endReader source reader result).buffer := by
  simp only [endReader_keeps]
  exact bufferReaches_closeProducer _

/-! ## Steps -/

theorem ReaderMove.bufferReaches {source : Source} {reader : Reader}
    (hfits : ∀ message framer,
      reader.framer.demand session.cancelled = .message message framer → fits message)
    (hmove : session.ReaderMove plan source reader next) :
    BufferReaches fits session.buffer next.buffer := by
  cases hmove with
  | offers message framer buffer hstage hdemand hbuffer =>
      simp only [note_keeps, setReader_keeps, hbuffer]
      exact .some (.single (.enqueues message (hfits message framer hdemand)))
  | finishes | leaves => exact bufferReaches_endReader _ _ _ _
  | reads asked looking next hstage hgoes hread =>
      cases hread with
      | brings | startsAgain | cancels | waits => exact bufferReaches_of_eq (by simp)
      | fails failure pipe =>
          have hnoted : BufferReaches fits session.buffer
              (session.note (.readDone source asked (.failed failure))).buffer :=
            bufferReaches_of_eq (by simp)
          exact hnoted.trans (bufferReaches_endReader _ _ _ _)
      | crashes => exact bufferReaches_endReader _ _ _ _
  | sendGoesOn sending later sent hstage hdue hsend | sendOver sending sent hstage hdue hsend =>
      exact bufferReaches_of_eq (by simp [hsend.keeps])
  | sendCrashes sending sent hstage hdue hsend =>
      have hsent : BufferReaches fits session.buffer sent.buffer :=
        bufferReaches_of_eq hsend.keeps.2.2.2.2.2.1
      exact hsent.trans (bufferReaches_endReader _ _ _ _)
  | hands | begins => exact bufferReaches_of_eq (by simp)

theorem DrainMove.bufferReaches {buffer : Buffer} {stage : DrainStage}
    (hbuffer : session.buffer = some buffer) (hmove : session.DrainMove plan buffer stage next) :
    BufferReaches fits session.buffer next.buffer := by
  rcases hmove.ledger_cases hbuffer with ⟨message, rest, hdequeue, hafter, -⟩ | ⟨hafter, -⟩
  · rw [hbuffer, hafter]
    exact .some (.single (.dequeues message rest hdequeue))
  · exact bufferReaches_of_eq (hafter.trans hbuffer.symm)

theorem bufferReaches_abortReader (session : Session) (source : Source) :
    BufferReaches fits session.buffer (session.abortReader source).buffer := by
  rw [abortReader]
  split
  · split
    · exact bufferReaches_refl _
    · exact bufferReaches_endReader _ _ _ _
  · exact bufferReaches_refl _

theorem buffer_abortDrain (session : Session) : session.abortDrain.buffer = session.buffer := by
  rw [abortDrain]
  split
  · rfl
  · simp
  · rfl

/-- A session that is not ready ends its readers, which finishes with the buffer. -/
theorem bufferReaches_ready (plan : Plan) (session : Session) :
    BufferReaches fits session.buffer (session.ready plan).buffer := by
  rw [ready]
  cases plan.readyError with
  | none => exact bufferReaches_refl _
  | some error =>
      have hcancelled : BufferReaches fits session.buffer
          (session.note .readyCalled).cancel.buffer := bufferReaches_of_eq (by simp)
      have hstdout := hcancelled.trans (bufferReaches_abortReader _ .stdout)
      have hstderr := hstdout.trans (bufferReaches_abortReader _ .stderr)
      exact hstderr.trans (bufferReaches_of_eq (buffer_abortDrain _))

theorem MainMove.bufferReaches {stage : MainStage} (hmove : session.MainMove plan stage next) :
    BufferReaches fits session.buffer next.buffer := by
  cases hmove with
  | refuses | launches | skipsFlush | stops | finishes => exact bufferReaches_refl _
  | ready => exact bufferReaches_ready plan session
  | flushes buffer hunjoined hbuffer =>
      rw [hbuffer]
      exact .some (.single .flushes)
  | endsFlush =>
      refine bufferReaches_of_eq ?_
      unfold finishFlush
      dsimp only
      split <;> rfl
  | hands => exact bufferReaches_of_eq (by simp)
  | sendGoesOn sending later remaining sent hdue hsend
  | sendOver sending remaining sent hdue hsend | sendCrashes sending remaining sent hdue hsend =>
      exact bufferReaches_of_eq hsend.keeps.2.2.2.2.2.1

/-- What a step makes of the buffer it makes by operations of the buffer. -/
theorem Move.bufferReaches {event : SessionEvent}
    (hfits : ∀ source reader message framer, session.reader? source = some reader →
      reader.framer.demand session.cancelled = .message message framer → fits message)
    (hmove : session.Move plan event next) : BufferReaches fits session.buffer next.buffer := by
  cases hmove with
  | pass => exact bufferReaches_refl _
  | cancel => exact bufferReaches_of_eq (by simp)
  | reader source reader next hlaunched hreader hmove =>
      exact hmove.bufferReaches fun message framer => hfits source reader message framer hreader
  | drain stage buffer next hlaunched hdrain hbuffer hmove => exact hmove.bufferReaches hbuffer
  | join task result next hmain hresult hmem hmove => exact bufferReaches_of_eq hmove.ledger_eq.1
  | main next hmove => exact hmove.bufferReaches
  | tracer action tracer sample? => cases sample? <;> exact bufferReaches_refl _

/-! ## Runs -/

/-- The message is no larger than the working buffer of a framer. -/
def FitsFramer (plan : Plan) (message : Message) : Prop :=
  message.size ≤ max plan.options.bufferSize 1

theorem ReadersFollow.fitsFramer {source : Source} {reader : Reader} {message : Message}
    {framer : Framer} (hfollow : session.ReadersFollow plan)
    (hreader : session.reader? source = some reader)
    (hdemand : reader.framer.demand session.cancelled = .message message framer) :
    FitsFramer plan message := by
  obtain ⟨rest, hpending, -⟩ := Framer.pending_of_demand hdemand
  apply (hfollow source reader hreader).framer_follows.size_le
  rw [hpending]
  exact List.mem_append_right _ List.mem_cons_self

/-- What has become of the buffer since the session was created, and what the messages
have in common that the framers have yielded. -/
structure KeepsBuffer (plan : Plan) (start : Option Buffer) (session : Session) : Prop where
  follow : session.ReadersFollow plan
  reaches : BufferReaches (FitsFramer plan) start session.buffer
  framed_fits : ∀ message ∈ session.framed, FitsFramer plan message

theorem keepsBuffer_create (plan : Plan) (stdout stderr : Option PipeScript)
    (sink : SinkBehaviour) :
    (create plan stdout stderr sink).KeepsBuffer plan
      (create plan stdout stderr sink).buffer where
  follow := readersFollow_create plan stdout stderr sink
  reaches := bufferReaches_refl _
  framed_fits _ hmem := absurd hmem List.not_mem_nil

theorem KeepsBuffer.move {event : SessionEvent} {start : Option Buffer}
    (hkeeps : session.KeepsBuffer plan start) (hmove : session.Move plan event next) :
    next.KeepsBuffer plan start := by
  refine ⟨hkeeps.follow.move hmove, hkeeps.reaches.trans ?_, ?_⟩
  · exact hmove.bufferReaches fun source reader message framer hreader hdemand =>
      hkeeps.follow.fitsFramer hreader hdemand
  · rcases hmove.framed_cases with ⟨hsame, -⟩ |
      ⟨source, reader, message, framer, hreader, hdemand, heq, -⟩
    · rw [hsame]
      exact hkeeps.framed_fits
    · rw [heq, List.forall_mem_append, List.forall_mem_singleton]
      exact ⟨hkeeps.framed_fits, hkeeps.follow.fitsFramer hreader hdemand⟩

theorem keepsBuffer_of_run? {stdout stderr : Option PipeScript} {sink : SinkBehaviour}
    {events : List SessionEvent}
    (hrun : (create plan stdout stderr sink).run? plan events = some session) :
    session.KeepsBuffer plan (create plan stdout stderr sink).buffer :=
  run?_induction hrun (keepsBuffer_create plan stdout stderr sink)
    fun _ _ _ hbefore hmove => hbefore.move hmove

/-- The buffer of a session comes of an empty one of the configured capacity. -/
theorem KeepsBuffer.reaches_of_create {stdout stderr : Option PipeScript} {sink : SinkBehaviour}
    {buffer : Buffer}
    (hkeeps : session.KeepsBuffer plan (create plan stdout stderr sink).buffer)
    (hbuffer : session.buffer = some buffer) :
    ∃ producers, (Buffer.create plan.options.maxBufferSize producers).Reaches (FitsFramer plan)
      buffer := by
  have hreaches := hkeeps.reaches
  rw [hbuffer, create] at hreaches
  dsimp only at hreaches
  split at hreaches
  · cases hreaches with
    | some hreaches => exact ⟨_, hreaches⟩
  · cases hreaches

/-- Whatever operations a buffer has seen, its count of bytes is that of its queue, so
no dequeue takes away more than there is; it is within the capacity unless a single
message is queued; and the buffer is closed exactly when all producers have finished,
and for good.  In every state of every session, whatever its steps were, no message is
larger than the working buffer of a framer, and so the queued bytes are within the
capacity or that size. -/
theorem buffer_sound_and_bounded :
    (∀ capacity producers buffer,
      (Buffer.create capacity producers).Reaches (fun _ => True) buffer →
      buffer.size = totalSize buffer.messages ∧
      (∀ message rest, buffer.dequeue? = some (message, rest) → message.size ≤ buffer.size) ∧
      (buffer.messages = [] → buffer.flush = buffer) ∧
      (buffer.size ≤ capacity ∨ buffer.messages.length = 1) ∧
      (buffer.closed = true ↔ producers ≤ buffer.closedProducers) ∧
      ∀ later, buffer.Reaches (fun _ => True) later → buffer.closed = true →
        later.closed = true) ∧
    ∀ plan stdout stderr sink events session,
      (create plan stdout stderr sink).run? plan events = some session →
      (∀ message ∈ session.framed, message.size ≤ max plan.options.bufferSize 1) ∧
      ∀ buffer, session.buffer = some buffer →
        buffer.size = totalSize buffer.messages ∧
        buffer.size ≤ max plan.options.maxBufferSize (max plan.options.bufferSize 1) := by
  constructor
  · intro capacity producers buffer hreaches
    have hsound := (Buffer.isSound_create capacity producers).reaches hreaches
    have hsize := hsound.size_le
    have hclosed := hsound.closed_iff
    obtain ⟨hcapacity, hproducers⟩ := hreaches.settings_eq
    rw [hcapacity] at hsize
    rw [hproducers] at hclosed
    exact ⟨hsound.size_eq, fun message rest => hsound.size_le_of_dequeue?, hsound.flush_eq_self,
      hsize, hclosed, fun later hlater => hlater.closed⟩
  · intro plan stdout stderr sink events session hrun
    have hkeeps := keepsBuffer_of_run? hrun
    refine ⟨hkeeps.framed_fits, fun buffer hbuffer => ?_⟩
    obtain ⟨producers, hreaches⟩ := hkeeps.reaches_of_create hbuffer
    have hsound := (Buffer.isSound_create _ producers).reaches hreaches
    have hfits := hreaches.forall_fits fun message hmem => absurd hmem List.not_mem_nil
    have htotal := hsound.totalSize_le hfits
    rw [hreaches.settings_eq.1, ← hsound.size_eq] at htotal
    exact ⟨hsound.size_eq, htotal⟩

/-- A segment of four bytes comes in alone, although the capacity is three bytes. -/
theorem buffer_bounded_by_one_segment :
    ∃ session buffer,
      (create (promptPlan .nonBlocking (.immediate 1)) (some [.data [97, 98, 99, 100]]) none
        default).run? (promptPlan .nonBlocking (.immediate 1))
        [.main, .reader .stdout, .reader .stdout, .reader .stdout] = some session ∧
      session.buffer = some buffer ∧ buffer.capacity = 3 ∧ buffer.size = 4 ∧
      buffer.size = totalSize buffer.messages ∧ buffer.size ≤ max 3 (max 4 1) := by
  have hview : ((create (promptPlan .nonBlocking (.immediate 1))
      (some [.data [97, 98, 99, 100]]) none default).run? (promptPlan .nonBlocking (.immediate 1))
      [.main, .reader .stdout, .reader .stdout, .reader .stdout]).map (fun session =>
        session.buffer.map fun buffer => (buffer.capacity, buffer.size)) = some (some (3, 4)) := by
    decide +kernel
  obtain ⟨session, hrun, hbuffer⟩ := Option.map_eq_some_iff.mp hview
  obtain ⟨buffer, hbuffer, hsizes⟩ := Option.map_eq_some_iff.mp hbuffer
  obtain ⟨hcapacity, hsize⟩ := Prod.mk.inj hsizes
  obtain ⟨hcount, hbound⟩ :=
    (buffer_sound_and_bounded.2 _ _ _ _ _ session hrun).2 buffer hbuffer
  exact ⟨session, buffer, hrun, hbuffer, hcapacity, hsize, hcount, hbound⟩

end LogRelay.Session
