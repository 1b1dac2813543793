import LogRelay.Proofs.Framing.Bare
import LogRelay.Proofs.Session.Cancellation
import LogRelay.Proofs.Session.Capacity
import LogRelay.Proofs.Session.Failing
import LogRelay.Proofs.Session.Numbering

/-!
# The two modes hand over the same messages

In either mode a session whose pipes come to their end hands the messages of the
canonical framing of each pipe to the dispatcher, as far as none is refused.  A buffer
that has room for the lines of both pipes never refuses one: the bytes in the queue
are among those that were framed, whenever messages come in and go out.
-/

namespace LogRelay.Session

variable {plan : Plan} {session next : Session} {source : Source}
variable {stdout stderr : Option PipeScript} {sink : SinkBehaviour} {schedule : Schedule}

/-! ## The buffer has room -/

/-- What the framers have yielded are lines of the two streams. -/
theorem totalSize_framed_le (hfollow : session.ReadersFollow plan)
    (hnothing : session.NothingWithout) :
    totalSize session.framed ≤ (withoutNewlines (session.stream .stdout)).length +
      (withoutNewlines (session.stream .stderr)).length := by
  have hsource : ∀ source, totalSize (session.progress source).yielded ≤
      (withoutNewlines (session.stream source)).length := by
    intro source
    cases hreader : session.reader? source with
    | none =>
        rw [hnothing source hreader]
        exact Nat.zero_le _
    | some reader =>
        have hyielded := (hfollow source reader hreader).framer_follows.totalSize_le
        rw [stream_of_reader hreader, withoutNewlines, List.filter_append, List.length_append]
        exact Nat.le_trans hyielded (Nat.le_add_right _ _)
  rw [totalSize_perm session.framed_perm_sources, totalSize_append]
  exact Nat.add_le_add (hsource .stdout) (hsource .stderr)

/-- How many bytes the frames of a pipe have together. -/
def framedBytes (capacity : Nat) (pipe : Option PipeScript) : Nat :=
  ((Frame.canonical capacity (streamOf pipe)).flatMap Frame.line).length

theorem audited_course (hready : plan.readyError = none) (now : Nat) :
    (course plan (create plan stdout stderr sink) schedule now).Audited plan :=
  course_induction (audited_create plan stdout stderr sink)
    (fun _ _ hbefore hmove => hbefore.move hready hmove) now

theorem keepsBuffer_course (now : Nat) :
    (course plan (create plan stdout stderr sink) schedule now).KeepsBuffer plan
      (create plan stdout stderr sink).buffer :=
  course_induction (keepsBuffer_create plan stdout stderr sink)
    (fun _ _ hbefore hmove => hbefore.move hmove) now

/-- The buffer of a session with a plan is sound and has the capacity of the plan. -/
theorem KeepsBuffer.isSound {buffer : Buffer}
    (hkeeps : session.KeepsBuffer plan (create plan stdout stderr sink).buffer)
    (hbuffer : session.buffer = some buffer) :
    buffer.IsSound ∧ buffer.capacity = plan.options.maxBufferSize := by
  obtain ⟨producers, hreaches⟩ := hkeeps.reaches_of_create hbuffer
  exact ⟨(Buffer.isSound_create _ producers).reaches hreaches, hreaches.settings_eq.1⟩

/-- What is in the queue has been framed, so there is room for what is framed next. -/
theorem Audited.refused_eq {event : SessionEvent} (hmode : plan.options.mode = .nonBlocking)
    (hready : plan.readyError = none) (haudited : session.Audited plan)
    (hstands : session.main ≠ .crashed)
    (hkeeps : session.KeepsBuffer plan (create plan stdout stderr sink).buffer)
    (hroom : (withoutNewlines (session.stream .stdout)).length +
      (withoutNewlines (session.stream .stderr)).length ≤ plan.options.maxBufferSize)
    (hmove : session.Move plan event next) : next.refused = session.refused := by
  rcases hmove.framed_cases with ⟨-, hsame⟩ |
    ⟨source, reader, message, framer, -, -, hframed, hsame | ⟨buffer, hbuffer, hrefuses⟩⟩
  · exact hsame
  · exact hsame
  · exfalso
    obtain ⟨hsound, hcapacity⟩ := hkeeps.isSound hbuffer
    obtain ⟨-, buffer', hbuffer', hbalanced⟩ := (haudited.diligent.nonBlocking hmode).2
    obtain rfl : buffer' = buffer := Option.some.inj (hbuffer'.symm.trans hbuffer)
    have hqueued : totalSize buffer'.messages ≤ totalSize session.framed := by
      have hstored := totalSize_sublist hbalanced.stored_sublist
      rw [hbalanced.stored_eq hstands, totalSize_append] at hstored
      exact Nat.le_trans (Nat.le_add_left _ _) hstored
    have hnext := haudited.move hready hmove
    have hbound := totalSize_framed_le hnext.diligent.account.live.follows hnext.nothing
    rw [hmove.stream_eq, hframed, totalSize_append, totalSize_cons, totalSize_nil] at hbound
    obtain ⟨-, hfull⟩ := Buffer.accepts_eq_false_iff.mp hrefuses
    rw [hsound.size_eq, hcapacity] at hfull
    omega

theorem framedBytes_eq (capacity : Nat) (pipe : Option PipeScript) :
    framedBytes capacity pipe = (withoutNewlines (streamOf pipe)).length := by
  rw [framedBytes, Frame.flatMap_line_canonical]

/-- A session whose buffer has room for the lines of both streams refuses none. -/
theorem refused_course (hmode : plan.options.mode = .nonBlocking)
    (hready : plan.readyError = none) (hjitter : plan.options.retry.jitter.isNaN = false)
    (hsink : sink.neverCrashes = true)
    (hroom : framedBytes (max plan.options.bufferSize 1) stdout +
      framedBytes (max plan.options.bufferSize 1) stderr ≤ plan.options.maxBufferSize) (now : Nat) :
    (course plan (create plan stdout stderr sink) schedule now).refused = [] := by
  apply course_induction (motive := fun session => session.refused = [])
  · rfl
  · intro now next hbefore hmove
    have hsafe : (course plan (create plan stdout stderr sink) schedule now).Safe plan
        (pipesOf stdout stderr) := safe_course hready hjitter hsink now
    rw [← hbefore]
    refine (audited_course hready now).refused_eq hmode hready hsafe.stands (keepsBuffer_course now)
      ?_ hmove
    rw [stream_course, stream_course, ← framedBytes_eq (max plan.options.bufferSize 1),
      ← framedBytes_eq (max plan.options.bufferSize 1)]
    exact hroom

/-! ## Whole sessions -/

/-- Nothing keeps the session from reading its pipes to their ends and from delivering
what they bring, and no line has more segments than can be numbered. -/
structure Unhindered (plan : Plan) (stdout stderr : Option PipeScript) (sink : SinkBehaviour)
    (schedule : Schedule) : Prop where
  ready : plan.readyError = none
  jitter_number : plan.options.retry.jitter.isNaN = false
  sink_safe : sink.neverCrashes = true
  steady : ∀ source pipe, pipesOf stdout stderr source = some pipe → pipe.isSteady = true
  few : FewSegments plan (pipesOf stdout stderr)
  not_cancelled : ∀ now, schedule now ≠ .cancel
  fair : Fair plan (create plan stdout stderr sink) schedule

namespace Unhindered

theorem isSound (hfree : Unhindered plan stdout stderr sink schedule) (source : Source)
    (pipe : PipeScript) (hpipe : pipesOf stdout stderr source = some pipe) : pipe.isSound = true :=
  PipeScript.isSound_of_isSteady (hfree.steady source pipe hpipe)

theorem safe (hfree : Unhindered plan stdout stderr sink schedule) (now : Nat) :
    (course plan (create plan stdout stderr sink) schedule now).Safe plan
      (pipesOf stdout stderr) :=
  safe_course hfree.ready hfree.jitter_number hfree.sink_safe now

theorem eq_ok (hfree : Unhindered plan stdout stderr sink schedule)
    (hpresent : ∃ source pipe, pipesOf stdout stderr source = some pipe) {now : Nat}
    {result : Except Error Unit}
    (hdone : (course plan (create plan stdout stderr sink) schedule now).main = .done result) :
    result = .ok () := by
  obtain ⟨source, pipe, hpipe⟩ := hpresent
  exact (hfree.safe now).eq_ok hfree.ready hfree.isSound hdone hpipe

theorem exists_ok (hfree : Unhindered plan stdout stderr sink schedule)
    (hpresent : ∃ source pipe, pipesOf stdout stderr source = some pipe) :
    ∃ now, (course plan (create plan stdout stderr sink) schedule now).main = .done (.ok ()) := by
  have halive := pipesAlive_create plan sink fun source pipe hpipe =>
    PipeScript.isAlive_of_isSteady (hfree.steady source pipe hpipe)
  obtain ⟨now, hover⟩ := hfree.fair.exists_isOver (live_create plan stdout stderr sink)
    (Or.inl halive)
  obtain ⟨result, hdone⟩ := (hfree.safe now).exists_done hover
  obtain rfl := hfree.eq_ok hpresent hdone
  exact ⟨now, hdone⟩

theorem steady_course (hfree : Unhindered plan stdout stderr sink schedule) (now : Nat) :
    (course plan (create plan stdout stderr sink) schedule now).AreSteady :=
  course_induction (areSteady_create plan sink hfree.steady)
    (fun now _ hbefore hmove =>
      hbefore.move hfree.ready (live_course plan stdout stderr sink schedule now).follows hmove) now

theorem not_cancelled_course (hfree : Unhindered plan stdout stderr sink schedule) (now : Nat) :
    (course plan (create plan stdout stderr sink) schedule now).cancelled = false := by
  apply Bool.eq_false_iff.mpr
  intro hcancelled
  have hundisturbed : Undisturbed (pipesOf stdout stderr) schedule :=
    ⟨hfree.not_cancelled, fun source pipe hpipe =>
      PipeScript.cancel_notMem_of_isSteady (hfree.steady source pipe hpipe)⟩
  have hsome := firstError_of_cancelled hfree.ready hfree.jitter_number hfree.sink_safe
    hundisturbed now hcancelled
  rw [(hfree.safe now).explained.firstError_eq_none hfree.ready hfree.isSound] at hsome
  exact Bool.false_ne_true hsome

/-- When the session has returned, a framer has seen the end of its stream and has handed
out all of its messages. -/
theorem framed_all (hfree : Unhindered plan stdout stderr sink schedule) {now : Nat}
    {result : Except Error Unit} {reader : Reader}
    (hdone : (course plan (create plan stdout stderr sink) schedule now).main = .done result)
    (hreader : (course plan (create plan stdout stderr sink) schedule now).reader? source =
      some reader) : reader.framer.ended = true ∧ reader.framer.pending = [] := by
  have hsafe := hfree.safe now
  have hnone := hsafe.explained.firstError_eq_none hfree.ready hfree.isSound
  have hfinished := hsafe.finished_of_ok hfree.ready hdone hnone hreader
  obtain ⟨whole, -, hexplained⟩ := hsafe.explained.readers source reader hreader
  have hstage := hexplained.stage_explained
  rw [hfinished] at hstage
  obtain ⟨hpending, hended⟩ := hstage
  exact ⟨hended.resolve_right (ne_true_of_eq_false (hfree.not_cancelled_course now)), hpending⟩

/-- When the session has returned, each framer has yielded the canonical framing of its
stream. -/
theorem framed_bare (hfree : Unhindered plan stdout stderr sink schedule) {now : Nat}
    {result : Except Error Unit}
    (hdone : (course plan (create plan stdout stderr sink) schedule now).main = .done result)
    (source : Source) :
    (ofSource source (course plan (create plan stdout stderr sink) schedule now).framed).map
        Message.bare =
      (Frame.canonical (max plan.options.bufferSize 1)
        (streamOf (pipesOf stdout stderr source))).map (Frame.bare source) := by
  have hstream : (course plan (create plan stdout stderr sink) schedule now).stream source =
      streamOf (pipesOf stdout stderr source) := stream_course _ _ _ _ _ _ now
  cases hreader : (course plan (create plan stdout stderr sink) schedule now).reader? source with
  | none =>
      have hnothing := (audited_course hfree.ready now).nothing source hreader
      rw [stream_of_no_reader hreader, hnothing] at hstream
      have hyielded := congrArg Progress.yielded hnothing
      rw [← hstream]
      exact congrArg (List.map Message.bare) hyielded
  | some reader =>
      obtain ⟨hended, hpending⟩ := hfree.framed_all hdone hreader
      have hcontent := (hfree.steady_course now source reader hreader).ended hended
      rw [stream_of_reader hreader, hcontent, List.append_nil] at hstream
      have hfollows := ((hfree.safe now).live.follows source reader hreader).framer_follows
      obtain ⟨times, hshows⟩ := hfollows.done hended
      rw [hpending, List.append_nil, hstream] at hshows
      exact hshows.map_bare

/-- In blocking mode all that is framed is handed over. -/
theorem handed_of_blocking (hfree : Unhindered plan stdout stderr sink schedule)
    (hmode : plan.options.mode = .blocking) (now : Nat) :
    (course plan (create plan stdout stderr sink) schedule now).handed =
      (course plan (create plan stdout stderr sink) schedule now).framed :=
  ((diligent_course hfree.ready now).blocking hmode).2.handed_eq

/-- In non-blocking mode all that is framed is handed over if there is room for it. -/
theorem handed_of_room (hfree : Unhindered plan stdout stderr sink schedule)
    (hmode : plan.options.mode = .nonBlocking)
    (hroom : framedBytes (max plan.options.bufferSize 1) stdout +
      framedBytes (max plan.options.bufferSize 1) stderr ≤ plan.options.maxBufferSize)
    {now : Nat} {result : Except Error Unit}
    (hdone : (course plan (create plan stdout stderr sink) schedule now).main = .done result) :
    (course plan (create plan stdout stderr sink) schedule now).handed =
      (course plan (create plan stdout stderr sink) schedule now).framed ∧
    ∀ buffer, (course plan (create plan stdout stderr sink) schedule now).buffer = some buffer →
      buffer.dropped = 0 := by
  have hrefused : (course plan (create plan stdout stderr sink) schedule now).refused = [] :=
    refused_course hmode hfree.ready hfree.jitter_number hfree.sink_safe hroom now
  obtain ⟨-, buffer, hbuffer, hbalanced⟩ :=
    ((diligent_course hfree.ready now).nonBlocking hmode).2
  have hlength := hbalanced.length_framed
  have hdropped := hbalanced.dropped_eq
  rw [hrefused, List.length_nil] at hlength hdropped
  constructor
  · rw [hbalanced.handed_of_done hdone]
    exact hbalanced.stored_sublist.eq_of_length hlength.symm
  · intro buffer' hbuffer'
    rw [← Option.some.inj (hbuffer.symm.trans hbuffer')]
    exact hdropped

end Unhindered

/-- The two modes agree where the buffer has room for the lines of both pipes.  Let two
sessions read the same pipes with working buffers of the same size, one in each mode;
their other options, their sinks and the orders of their steps may differ.  Both return
without an error, nothing is refused, and for each source the same messages are handed to
the dispatcher in the same order, but for identifiers and times.  In neither does the
number of a segment overflow. -/
theorem modes_agree {direct buffered : Plan} {directSink bufferedSink : SinkBehaviour}
    {directSchedule bufferedSchedule : Schedule}
    (hdirect : direct.options.mode = .blocking)
    (hbuffered : buffered.options.mode = .nonBlocking)
    (hsize : direct.options.bufferSize = buffered.options.bufferSize)
    (hpresent : ∃ source pipe, pipesOf stdout stderr source = some pipe)
    (hfree : Unhindered direct stdout stderr directSink directSchedule)
    (hfree' : Unhindered buffered stdout stderr bufferedSink bufferedSchedule)
    (hroom : framedBytes (max buffered.options.bufferSize 1) stdout +
      framedBytes (max buffered.options.bufferSize 1) stderr ≤ buffered.options.maxBufferSize) :
    (∃ now, (course direct (create direct stdout stderr directSink) directSchedule now).main =
      .done (.ok ())) ∧
    (∃ now, (course buffered (create buffered stdout stderr bufferedSink) bufferedSchedule
      now).main = .done (.ok ())) ∧
    (∀ now, (course direct (create direct stdout stderr directSink) directSchedule
      now).NumbersFit direct) ∧
    (∀ now, (course buffered (create buffered stdout stderr bufferedSink) bufferedSchedule
      now).NumbersFit buffered) ∧
    ∀ now later session session' result result',
      course direct (create direct stdout stderr directSink) directSchedule now = session →
      course buffered (create buffered stdout stderr bufferedSink) bufferedSchedule later =
        session' →
      session.main = .done result → session'.main = .done result' →
      result = .ok () ∧ result' = .ok () ∧
      (∀ source, (ofSource source session.handed).map Message.bare =
        (ofSource source session'.handed).map Message.bare) ∧
      session'.refused = [] ∧
      ∀ buffer, session'.buffer = some buffer → buffer.dropped = 0 := by
  refine ⟨hfree.exists_ok hpresent, hfree'.exists_ok hpresent, numbersFit_course hfree.few,
    numbersFit_course hfree'.few, ?_⟩
  rintro now later session session' result result' rfl rfl hdone hdone'
  obtain ⟨hhanded, hdropped⟩ := hfree'.handed_of_room hbuffered hroom hdone'
  refine ⟨hfree.eq_ok hpresent hdone, hfree'.eq_ok hpresent hdone', fun source => ?_,
    refused_course hbuffered hfree'.ready hfree'.jitter_number hfree'.sink_safe hroom later,
    hdropped⟩
  rw [hfree.handed_of_blocking hdirect now, hhanded, hfree.framed_bare hdone source,
    hfree'.framed_bare hdone' source, hsize]

/-- The session of two lines, with a buffer of three bytes. -/
def bufferedLinesStart : Session :=
  create (promptPlan .nonBlocking (.immediate 2)) (some [.data [97, 10, 98]]) none
    ⟨[⟨0, .refused (.sink "busy"), 1⟩], []⟩

/-- One order of its steps: the drain begins when the reader has ended. -/
def bufferedLinesEvents : List SessionEvent :=
  [.main, .main, .reader .stdout, .reader .stdout, .reader .stdout, .reader .stdout,
    .reader .stdout, .reader .stdout, .reader .stdout, .drain, .drain, .drain, .drain, .drain,
    .drain, .drain, .join (.reader .stdout), .join .drain, .main, .main, .main, .tracer .start,
    .tracer .conclude, .tracer .take, .tracer .take, .tracer .take, .main]

/-- A session whose run is over without a cancellation is unhindered if its pipe is
steady. -/
theorem unhindered_of_run {last : Session} {pipe : PipeScript} {events : List SessionEvent}
    (hready : plan.readyError = none) (hjitter : plan.options.retry.jitter.isNaN = false)
    (hsink : sink.neverCrashes = true) (hsteady : pipe.isSteady = true)
    (hfew : Frame.HasFewSegments (max plan.options.bufferSize 1) pipe.content)
    (hcancel : .cancel ∉ events)
    (hrun : (create plan (some pipe) none sink).run? plan events = some last)
    (hover : last.isOver = true) :
    Unhindered plan (some pipe) none sink (scheduleOf events) where
  ready := hready
  jitter_number := hjitter
  sink_safe := hsink
  steady := forall_pipe_of_stdout hsteady
  few := forall_pipe_of_stdout hfew
  not_cancelled := scheduleOf_ne SessionEvent.noConfusion hcancel
  fair := fair_scheduleOf hrun hover

theorem modes_agree_on_two_lines :
    framedBytes 4 (some [.data [97, 10, 98]]) + framedBytes 4 none = 2 ∧
      ∃ session session',
        twoLinesStart.run? (promptPlan .blocking (.immediate 2)) twoLinesEvents = some session ∧
        bufferedLinesStart.run? (promptPlan .nonBlocking (.immediate 2)) bufferedLinesEvents =
          some session' ∧
        session.main = .done (.ok ()) ∧ session'.main = .done (.ok ()) ∧
        (ofSource .stdout session'.handed).map (·.line) = [[97], [98]] ∧
        (∀ source, (ofSource source session.handed).map Message.bare =
          (ofSource source session'.handed).map Message.bare) ∧
        session'.refused = [] := by
  have hdirect : (twoLinesStart.run? (promptPlan .blocking (.immediate 2)) twoLinesEvents).map
      verdict = some .finished := by
    decide +kernel
  have hbuffered : (bufferedLinesStart.run? (promptPlan .nonBlocking (.immediate 2))
      bufferedLinesEvents).map (fun session =>
        (session.verdict, (ofSource .stdout session.handed).map (·.line))) =
      some (.finished, [[97], [98]]) := by
    decide +kernel
  obtain ⟨session, hrun, hverdict⟩ := Option.map_eq_some_iff.mp hdirect
  obtain ⟨session', hrun', hview⟩ := Option.map_eq_some_iff.mp hbuffered
  obtain ⟨hverdict', hlines⟩ := Prod.mk.inj hview
  have hdone := main_of_finished hverdict
  have hdone' := main_of_finished hverdict'
  have hfree := unhindered_of_run rfl rfl rfl rfl (by decide) (by decide) hrun
    (by rw [isOver, hdone])
  have hfree' := unhindered_of_run rfl rfl rfl rfl (by decide) (by decide) hrun'
    (by rw [isOver, hdone'])
  obtain ⟨-, -, -, -, hagree⟩ :=
    modes_agree (by rfl) (by rfl) (by rfl) ⟨.stdout, _, rfl⟩ hfree hfree' (by decide)
  obtain ⟨-, -, hhanded, hrefused, -⟩ := hagree _ _ _ _ _ _ (course_scheduleOf hrun)
    (course_scheduleOf hrun') hdone hdone'
  exact ⟨by decide, session, session', hrun, hrun', hdone, hdone', hlines, hhanded, hrefused⟩

/-- One order of the steps of a session whose drain has its only line refused. -/
def refusedLineEvents : List SessionEvent :=
  [.main, .main, .reader .stdout, .reader .stdout, .reader .stdout, .reader .stdout,
    .reader .stdout, .reader .stdout, .drain, .drain, .join (.reader .stdout), .join .drain,
    .main, .main, .main, .tracer .start, .tracer .conclude, .tracer .take, .tracer .take,
    .tracer .take, .main]

/-- If the jitter is not a number, the refusal of a line crashes the drain and the session
fails, although the pipe comes to its end, the buffer has room and nothing else crashes. -/
theorem modes_differ_of_unsettled_policy :
    (promptPlan .nonBlocking unsettledPolicy).options.mode = .nonBlocking ∧
      (promptPlan .nonBlocking unsettledPolicy).readyError = none ∧
      PipeScript.isSteady [.data [97, 10]] = true ∧
      SinkBehaviour.neverCrashes ⟨[⟨0, .refused (.sink "busy"), 2⟩], []⟩ = true ∧
      framedBytes 4 (some [.data [97, 10]]) + framedBytes 4 none ≤
        (promptPlan .nonBlocking unsettledPolicy).options.maxBufferSize ∧
      (∀ now, scheduleOf refusedLineEvents now ≠ .cancel) ∧
      ∃ session,
        (create (promptPlan .nonBlocking unsettledPolicy) (some [.data [97, 10]]) none
          ⟨[⟨0, .refused (.sink "busy"), 2⟩], []⟩).run? (promptPlan .nonBlocking unsettledPolicy)
            refusedLineEvents = some session ∧
        session.main = .done (.error (.task TaskResult.crashText)) := by
  have hview : ((create (promptPlan .nonBlocking unsettledPolicy) (some [.data [97, 10]]) none
      ⟨[⟨0, .refused (.sink "busy"), 2⟩], []⟩).run? (promptPlan .nonBlocking unsettledPolicy)
        refusedLineEvents).map verdict = some (.failed (.task TaskResult.crashText)) := by
    decide +kernel
  obtain ⟨session, hrun, hverdict⟩ := Option.map_eq_some_iff.mp hview
  exact ⟨rfl, rfl, rfl, rfl, by decide, scheduleOf_ne SessionEvent.noConfusion (by decide),
    session, hrun, main_of_verdict hverdict⟩

end LogRelay.Session
