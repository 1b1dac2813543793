import LogRelay.Proofs.Session.Attempts
import LogRelay.Proofs.Session.Offers
import LogRelay.Proofs.Session.Numbering

/-!
# What a cancellation loses

A reader that is cancelled has handed on everything that its framer has made of
the bytes read so far: the lines that have been ended, and the full segments of
the unfinished one.  Only the rest behind these is lost, which is shorter than
the buffer of the framer.  After the cancellation no read is begun.
-/

namespace LogRelay

/-- How much has been asked for in a read of the source. -/
def Entry.begun? (source : Source) : Entry → Option Nat
  | .readBegun origin asked => if origin = source then some asked else none
  | _ => none

namespace Session

variable {plan : Plan} {pipes : Source → Option PipeScript} {session next : Session}
variable {source : Source} {stdout stderr : Option PipeScript} {sink : SinkBehaviour}
variable {schedule : Schedule}

/-! ## No read after a cancellation -/

/-- The reads of the source that have been begun, by how much they have asked for. -/
def begun (source : Source) (journal : List (Nat × Entry)) : List Nat :=
  selected (Entry.begun? source) journal

theorem Move.begun_eq {event : SessionEvent} (hmove : session.Move plan event next)
    (hcancelled : session.cancelled = true) :
    begun source next.journal = begun source session.journal := by
  rcases hmove.adds_cases with hadds | ⟨origin, reader, asked, -, -, hdemand, -⟩
  · apply hadds.selected_eq
    intro entry hentry
    cases entry with
    | readBegun => exact absurd hentry Bool.false_ne_true
    | _ => rfl
  · have hgoing := (Framer.read_of_demand hdemand).2.2.2
    exact absurd (hgoing.symm.trans hcancelled) Bool.false_ne_true

/-- After a cancellation no read is begun. -/
theorem begun_course (start : Session) {moment now : Nat} (hnow : moment ≤ now)
    (hcancelled : (course plan start schedule moment).cancelled = true) :
    begun source (course plan start schedule now).journal =
      begun source (course plan start schedule moment).journal := by
  have hboth := course_induction_from (motive := fun session =>
    session.cancelled = true ∧
      begun source session.journal = begun source (course plan start schedule moment).journal)
    ⟨hcancelled, rfl⟩
    (fun _ _ hbefore hmove =>
      ⟨hmove.cancelled_mono hbefore.1, (hmove.begun_eq hbefore.1).trans hbefore.2⟩) hnow
  exact hboth.2

/-! ## The messages of a reader -/

/-- The messages of a stream that has been left: those of the lines that have been
ended, and the full segments of the unfinished one.  What is lost is the rest of
the unfinished line behind these segments. -/
def ShowsLeft (source : Source) (ids : Nat → String) (capacity : Nat) (stream : Bytes)
    (messages : List Message) : Prop :=
  ∃ times lost segments,
    segments = Frame.fullSegments capacity (Frame.nextRun capacity stream)
      (Lines.unfinished stream) ∧
    Frame.ShowsAll source ids times
      (Frame.canonical capacity (Lines.terminated stream) ++ segments) messages ∧
    Lines.unfinished stream = segments.flatMap Frame.line ++ lost ∧
    lost.length = (Lines.unfinished stream).length % capacity

theorem showsLeft_of_soFar {ids : Nat → String} {times : List Timestamp} {capacity : Nat}
    {stream : Bytes} {messages : List Message}
    (hshows : Frame.ShowsAll source ids times (Frame.soFar capacity stream) messages) :
    ShowsLeft source ids capacity stream messages := by
  rw [Frame.soFar_eq_canonical_append] at hshows
  refine ⟨times, _, _, rfl, hshows, ?_, Frame.length_line_lastSegment capacity 0 _⟩
  exact (Frame.fullSegments_append_lastSegment capacity _ _).symm

/-- The messages of the source that its framer has yielded, in order. -/
def yielded (session : Session) (source : Source) : List Message :=
  ofSource source session.framed

/-- Each message of the source has been passed on, in order: the sink has been
called with it until it accepted or there were no attempts left, or the buffer
has been offered it. -/
def PassesOn (plan : Plan) (source : Source) (session : Session) : Prop :=
  match plan.options.mode with
  | .blocking =>
    AllAttempted plan.options.retry.attempts (session.yielded source)
      (called source session.journal)
  | .nonBlocking => ofSource source session.offered = session.yielded source

/-- What holds at every moment for the messages to be passed on. -/
structure Relays (plan : Plan) (session : Session) : Prop where
  blocking : plan.options.mode = .blocking → session.Unbuffered ∧ session.KeepsUp plan
  nonBlocking : plan.options.mode = .nonBlocking → session.Buffered

theorem relays_create (plan : Plan) (stdout stderr : Option PipeScript) (sink : SinkBehaviour) :
    (create plan stdout stderr sink).Relays plan where
  blocking hmode :=
    ⟨unbuffered_create hmode stdout stderr sink, keepsUp_create plan stdout stderr sink⟩
  nonBlocking hmode := buffered_create hmode stdout stderr sink

theorem Relays.move {event : SessionEvent} (hready : plan.readyError = none)
    (hjitter : plan.options.retry.jitter.isNaN = false) (hsafe : session.Safe plan pipes)
    (hrelays : session.Relays plan) (hmove : session.Move plan event next) : next.Relays plan where
  blocking hmode := by
    obtain ⟨hunbuffered, hkeeps⟩ := hrelays.blocking hmode
    exact ⟨hunbuffered.move hready hmove, hkeeps.move hready hsafe.live.follows hsafe.policy
      hunbuffered (hsafe.deliversSafely hjitter) hmove⟩
  nonBlocking hmode := (hrelays.nonBlocking hmode).move hready hmove

theorem Relays.passesOn {reader : Reader} {result : TaskResult} (hrelays : session.Relays plan)
    (hreader : session.reader? source = some reader) (hended : reader.stage = .ended result) :
    session.PassesOn plan source := by
  rw [PassesOn]
  cases hmode : plan.options.mode with
  | blocking =>
      have hkeeps := (hrelays.blocking hmode).2 source reader hreader
      rw [Reader.delivers_iff_of_isIdle (by rw [hended]; rfl)] at hkeeps
      exact hkeeps
  | nonBlocking => exact congrArg (ofSource source) (hrelays.nonBlocking hmode).offers

/-- What the framer of the source has yielded is what the framing makes of all the bytes
that were read, but for the rest of an unfinished line. -/
structure FramesAll (plan : Plan) (session : Session) (source : Source) : Prop where
  ended : ReadsToEnd source session.journal → ∃ times,
    Frame.ShowsAll source (plan.runIds source) times
      (Frame.canonical (max plan.options.bufferSize 1) (received source session.journal))
      (session.yielded source)
  left : ¬ ReadsToEnd source session.journal →
    ShowsLeft source (plan.runIds source) (max plan.options.bufferSize 1)
      (received source session.journal) (session.yielded source)

/-- What has become of the bytes that were read of the source.  The messages are a beginning
of the canonical framing of all of them, and each segment has the number of its place. -/
structure Settles (plan : Plan) (source : Source) (session : Session) : Prop extends
    session.FramesAll plan source where
  numbered : ∃ times frames,
    frames <+: Frame.canonical (max plan.options.bufferSize 1) (received source session.journal) ∧
    Frame.ShowsAllExactly source (plan.runIds source) times frames (session.yielded source)
  passed : session.PassesOn plan source

theorem ReadersFollow.framesAll {reader : Reader} (hfollow : session.ReadersFollow plan)
    (hheed : session.ReadersHeed) (hreader : session.reader? source = some reader)
    (hpending : reader.framer.pending = []) : session.FramesAll plan source := by
  have hfollows := (hfollow source reader hreader).framer_follows
  have hseen := (hheed source reader hreader).ended
  refine ⟨fun hends => ?_, fun hnot => ?_⟩
  · obtain ⟨times, hshows⟩ := hfollows.done (hseen.mpr hends)
    rw [hpending, List.append_nil] at hshows
    exact ⟨times, hshows⟩
  · have hopen : reader.framer.ended = false :=
      Bool.eq_false_iff.mpr fun hends => hnot (hseen.mp hends)
    obtain ⟨times, -, hshows⟩ := hfollows.going hopen
    rw [hpending, List.append_nil] at hshows
    exact showsLeft_of_soFar hshows

/-- When a session has returned, a reader that has finished has lost nothing but
the rest of an unfinished line. -/
theorem Safe.settles {reader : Reader} (hsafe : session.Safe plan pipes)
    (hheed : session.ReadersHeed) (hrelays : session.Relays plan)
    (hnumbers : session.NumbersFit plan) (hreader : session.reader? source = some reader)
    (hfinished : reader.stage = .ended .finished) : session.Settles plan source := by
  obtain ⟨whole, -, hexplained⟩ := hsafe.explained.readers source reader hreader
  have hstage := hexplained.stage_explained
  rw [hfinished] at hstage
  have hframes := hsafe.live.follows.framesAll hheed hreader hstage.1
  obtain ⟨times, frames, hbeginning, hshows⟩ := (hnumbers source reader hreader).made
  rw [hstage.1, List.append_nil] at hshows
  exact ⟨hframes, ⟨times, frames, hbeginning, hshows⟩, hrelays.passesOn hreader hfinished⟩

theorem relays_course (hready : plan.readyError = none)
    (hjitter : plan.options.retry.jitter.isNaN = false) (hsink : sink.neverCrashes = true)
    (now : Nat) : (course plan (create plan stdout stderr sink) schedule now).Relays plan := by
  apply course_induction (relays_create plan stdout stderr sink)
  intro now next hbefore hmove
  have hsafe : (course plan (create plan stdout stderr sink) schedule now).Safe plan
      (pipesOf stdout stderr) := safe_course hready hjitter hsink now
  exact hbefore.move hready hjitter hsafe hmove

/-! ## Sessions that are cancelled -/

/-- A session whose pipes do not fail succeeds. -/
theorem Safe.eq_ok {pipe : PipeScript} {result : Except Error Unit}
    (hready : plan.readyError = none) (hsafe : session.Safe plan pipes)
    (hsound : ∀ source pipe, pipes source = some pipe → pipe.isSound = true)
    (hdone : session.main = .done result) (hpipe : pipes source = some pipe) : result = .ok () := by
  obtain ⟨reader, hreader⟩ := hsafe.exists_reader hpipe
  have hresult :=
    ((hsafe.live.concluded hdone).joined_of_ready hready (hasPipe_of_reader hreader)).2
  rw [hsafe.explained.firstError_eq_none hready hsound] at hresult
  exact hresult

/-- A session that is cancelled, whose pipes do not fail, comes to its end, and it
returns without an error.  By then each reader has yielded and passed on what the
canonical framing makes of the bytes that it has read, but for the rest of the
unfinished line behind its full segments.  No read has been begun after the
cancellation.  No line has more segments than can be numbered, and so no number ever
overflows. -/
theorem settles_of_cancel {moment : Nat} (hready : plan.readyError = none)
    (hjitter : plan.options.retry.jitter.isNaN = false)
    (hsound : ∀ source pipe, pipesOf stdout stderr source = some pipe → pipe.isSound = true)
    (hfew : FewSegments plan (pipesOf stdout stderr)) (hsink : sink.neverCrashes = true)
    (hfair : Fair plan (create plan stdout stderr sink) schedule)
    (hcancelled : (course plan (create plan stdout stderr sink) schedule moment).cancelled = true) :
    (∃ now result,
      (course plan (create plan stdout stderr sink) schedule now).main = .done result) ∧
    (∀ now session result, course plan (create plan stdout stderr sink) schedule now = session →
      session.main = .done result → ∀ source pipe, pipesOf stdout stderr source = some pipe →
        result = .ok () ∧ session.Settles plan source) ∧
    (∀ source now, moment ≤ now →
      begun source (course plan (create plan stdout stderr sink) schedule now).journal =
        begun source (course plan (create plan stdout stderr sink) schedule moment).journal) ∧
    ∀ now, (course plan (create plan stdout stderr sink) schedule now).NumbersFit plan := by
  refine ⟨?_, ?_, fun source now hnow => begun_course _ hnow hcancelled, numbersFit_course hfew⟩
  · obtain ⟨now, hover⟩ := hfair.exists_isOver (live_create plan stdout stderr sink)
      (Or.inr ⟨moment, hcancelled⟩)
    exact ⟨now, (safe_course hready hjitter hsink now).exists_done hover⟩
  · rintro now session result rfl hdone source pipe hpipe
    have hsafe : (course plan (create plan stdout stderr sink) schedule now).Safe plan
        (pipesOf stdout stderr) := safe_course hready hjitter hsink now
    have hnone := hsafe.explained.firstError_eq_none hready hsound
    obtain ⟨reader, hreader⟩ := hsafe.exists_reader hpipe
    refine ⟨hsafe.eq_ok hready hsound hdone hpipe, ?_⟩
    exact hsafe.settles (readersHeed_course hready now) (relays_course hready hjitter hsink now)
      (numbersFit_course hfew now) hreader (hsafe.finished_of_ok hready hdone hnone hreader)

/-- One order of the steps of a session that is cancelled while a read is under way. -/
def cancelledEvents : List SessionEvent :=
  [.main, .reader .stdout, .reader .stdout, .reader .stdout, .reader .stdout, .reader .stdout,
    .reader .stdout, .reader .stdout, .reader .stdout, .reader .stdout, .reader .stdout,
    .reader .stdout, .reader .stdout, .reader .stdout, .main, .cancel, .reader .stdout,
    .join (.reader .stdout), .main, .main, .tracer .start, .tracer .conclude, .tracer .take,
    .tracer .take, .tracer .take, .main]

/-- A line, and another one that is not ended: four of its bytes are a segment, and
the last one is lost. -/
def cancelledStart : Session :=
  create (promptPlan .blocking (.immediate 2))
    (some [.data [97, 98, 10, 99, 100, 101, 102, 103], .hang]) none
    ⟨[⟨0, .refused (.sink "busy"), 1⟩], []⟩

theorem settles_of_pending_read :
    ∃ session, cancelledStart.run? (promptPlan .blocking (.immediate 2)) cancelledEvents =
        some session ∧
      received .stdout session.journal = [97, 98, 10, 99, 100, 101, 102, 103] ∧
      session.verdict = .finished ∧
      session.Settles (promptPlan .blocking (.immediate 2)) .stdout ∧
      begun .stdout session.journal =
        begun .stdout (course (promptPlan .blocking (.immediate 2)) cancelledStart
          (scheduleOf cancelledEvents) 16).journal := by
  have hview : (cancelledStart.run? (promptPlan .blocking (.immediate 2)) cancelledEvents).map
      (fun session => (received .stdout session.journal, session.verdict)) =
        some ([97, 98, 10, 99, 100, 101, 102, 103], .finished) := by
    decide +kernel
  obtain ⟨session, hrun, hsession⟩ := Option.map_eq_some_iff.mp hview
  obtain ⟨hreceived, hverdict⟩ := Prod.mk.inj hsession
  have hdone := main_of_finished hverdict
  have hcancelled : (course (promptPlan .blocking (.immediate 2)) cancelledStart
      (scheduleOf cancelledEvents) 16).cancelled = true := by
    decide +kernel
  have hsound : ∀ source pipe,
      pipesOf (some [.data [97, 98, 10, 99, 100, 101, 102, 103], .hang]) none source = some pipe →
        pipe.isSound = true :=
    forall_pipe_of_stdout rfl
  have hfew : FewSegments (promptPlan .blocking (.immediate 2))
      (pipesOf (some [.data [97, 98, 10, 99, 100, 101, 102, 103], .hang]) none) :=
    forall_pipe_of_stdout (by decide)
  have hfair : Fair (promptPlan .blocking (.immediate 2)) cancelledStart
      (scheduleOf cancelledEvents) :=
    fair_scheduleOf hrun (by rw [isOver, hdone])
  obtain ⟨-, hsettles, hbegun, -⟩ :=
    @settles_of_cancel _ _ _ ⟨[⟨0, .refused (.sink "busy"), 1⟩], []⟩ _ 16 rfl rfl hsound hfew rfl
      hfair hcancelled
  have hlast := course_scheduleOf hrun
  obtain ⟨-, hsettled⟩ := hsettles cancelledEvents.length session _ hlast hdone .stdout _ rfl
  refine ⟨session, hrun, hreceived, hverdict, hsettled, ?_⟩
  rw [← hlast]
  exact hbegun .stdout cancelledEvents.length (by decide)

/-- One order of the steps of a session that is cancelled while the drain has not
delivered the messages that are in the buffer. -/
def unsettledCancelEvents : List SessionEvent :=
  [.main, .reader .stdout, .reader .stdout, .reader .stdout, .reader .stdout, .reader .stdout,
    .reader .stdout, .reader .stdout, .cancel, .reader .stdout, .drain, .drain, .main,
    .join .drain, .join (.reader .stdout), .main, .main, .main]

/-- If the jitter is not a number, the drain crashes with the first refusal and the
flush with the second one: the session is cancelled and does not return. -/
theorem crashed_of_cancel :
    (promptPlan .nonBlocking unsettledPolicy).readyError = none ∧
      PipeScript.isSound [.data [97, 10, 98, 10, 99], .hang] = true ∧
      SinkBehaviour.neverCrashes ⟨[⟨0, .refused (.sink "busy"), 4⟩], []⟩ = true ∧
      ∃ session, (create (promptPlan .nonBlocking unsettledPolicy)
          (some [.data [97, 10, 98, 10, 99], .hang]) none
          ⟨[⟨0, .refused (.sink "busy"), 4⟩], []⟩).run? (promptPlan .nonBlocking unsettledPolicy)
            unsettledCancelEvents = some session ∧
        session.cancelled = true ∧ session.verdict = .crashed := by
  have hview : ((create (promptPlan .nonBlocking unsettledPolicy)
      (some [.data [97, 10, 98, 10, 99], .hang]) none
      ⟨[⟨0, .refused (.sink "busy"), 4⟩], []⟩).run? (promptPlan .nonBlocking unsettledPolicy)
        unsettledCancelEvents).map (fun session => (session.cancelled, session.verdict)) =
      some (true, .crashed) := by
    decide +kernel
  obtain ⟨session, hrun, hsession⟩ := Option.map_eq_some_iff.mp hview
  obtain ⟨hcancelled, hverdict⟩ := Prod.mk.inj hsession
  exact ⟨rfl, rfl, rfl, session, hrun, hcancelled, hverdict⟩

end Session

end LogRelay
