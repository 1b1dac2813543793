import LogRelay.Proofs.Session.Attempts
import LogRelay.Proofs.Session.Numbering

/-!
# Blocking mode delivers everything in order

In blocking mode, with pipes that come to their end and nobody who cancels, the
sink is called with every message of the canonical framing of a pipe, one message
after the other, and a pipe is read again only when everything that it has
brought so far has been delivered or given up.
-/

namespace LogRelay.Session

variable {plan : Plan} {pipes : Source → Option PipeScript} {session next : Session}

/-- The calls for messages of the source are those for the messages of the frames,
one message after the other. -/
def Delivered (plan : Plan) (source : Source) (frames : List Frame)
    (journal : List (Nat × Entry)) : Prop :=
  ∃ times messages, Frame.ShowsAllExactly source (plan.runIds source) times frames messages ∧
    AllAttempted plan.options.retry.attempts messages (called source journal)

/-- All messages that are made of the bytes read so far have been delivered or
given up. -/
def CaughtUp (plan : Plan) (source : Source) (journal : List (Nat × Entry)) : Prop :=
  Delivered plan source
    (Frame.soFar (max plan.options.bufferSize 1) (received source journal)) journal

/-- What holds at every moment of a session in blocking mode with steady pipes. -/
structure Orders (plan : Plan) (pipes : Source → Option PipeScript) (session : Session) :
    Prop where
  safe : session.Safe plan pipes
  unbuffered : session.Unbuffered
  keepsUp : session.KeepsUp plan
  steady : session.AreSteady
  streams : ∀ source pipe, pipes source = some pipe → session.stream source = pipe.content
  undisturbed : session.cancelled = false
  beginnings : AtBeginnings (CaughtUp plan) session.journal

theorem orders_create (hmode : plan.options.mode = .blocking) {stdout stderr : Option PipeScript}
    {sink : SinkBehaviour} (hsink : sink.neverCrashes = true)
    (hsteady : ∀ source pipe, pipesOf stdout stderr source = some pipe → pipe.isSteady = true) :
    (create plan stdout stderr sink).Orders plan (pipesOf stdout stderr) where
  safe := safe_create plan stdout stderr hsink
  unbuffered := unbuffered_create hmode stdout stderr sink
  keepsUp := keepsUp_create plan stdout stderr sink
  steady := areSteady_create plan sink hsteady
  streams source pipe hpipe := by
    cases source with
    | stdout =>
        obtain rfl : stdout = some pipe := hpipe
        rfl
    | stderr =>
        obtain rfl : stderr = some pipe := hpipe
        rfl
  undisturbed := rfl
  beginnings := atBeginnings_nil _

/-- What has been read of a source has few segments if its pipe has. -/
theorem Orders.fewSegments {source : Source} {reader : Reader} (hfew : FewSegments plan pipes)
    (horders : session.Orders plan pipes) (hreader : session.reader? source = some reader) :
    Frame.HasFewSegments (max plan.options.bufferSize 1) (session.progress source).received := by
  obtain ⟨pipe, hpipe, -⟩ := horders.safe.explained.readers source reader hreader
  have hcontent := hfew source pipe hpipe
  rw [← horders.streams source pipe hpipe, stream] at hcontent
  exact hcontent.of_append

/-- A reader that is told to read has delivered all that it has got. -/
theorem Orders.caughtUp {source : Source} {reader : Reader} {asked : Nat}
    (hfew : FewSegments plan pipes) (horders : session.Orders plan pipes)
    (hreader : session.reader? source = some reader)
    (hstage : reader.stage = .asking)
    (hdemand : reader.framer.demand session.cancelled = .read asked) :
    CaughtUp plan source session.journal := by
  have hfollows := (horders.safe.live.follows source reader hreader).framer_follows
  have hkeeps := horders.keepsUp source reader hreader
  obtain ⟨times, -, hshows⟩ := hfollows.going (Framer.read_of_demand hdemand).2.1
  rw [(Framer.read_of_demand hdemand).1, List.append_nil] at hshows
  rw [Reader.delivers_iff_of_isIdle (by rw [hstage]; rfl)] at hkeeps
  have hexactly := hshows.exactly_of_few (horders.fewSegments hfew hreader)
    (Frame.soFar_prefix_canonical _ _).subset
  exact ⟨times, _, hexactly, hkeeps⟩

theorem Orders.move {event : SessionEvent} (hready : plan.readyError = none)
    (hjitter : plan.options.retry.jitter.isNaN = false)
    (hsteady : ∀ source pipe, pipes source = some pipe → pipe.isSteady = true)
    (hfew : FewSegments plan pipes) (hevent : event ≠ .cancel)
    (horders : session.Orders plan pipes)
    (hmove : session.Move plan event next) : next.Orders plan pipes where
  safe := horders.safe.move hready hjitter hmove
  unbuffered := horders.unbuffered.move hready hmove
  keepsUp := horders.keepsUp.move hready horders.safe.live.follows horders.safe.policy
    horders.unbuffered (horders.safe.deliversSafely hjitter) hmove
  steady := horders.steady.move hready horders.safe.live.follows hmove
  streams source pipe hpipe := by
    rw [hmove.stream_eq]
    exact horders.streams source pipe hpipe
  undisturbed := by
    have hsound := fun source pipe hpipe =>
      PipeScript.isSound_of_isSteady (hsteady source pipe hpipe)
    have hnone :=
      (horders.safe.move hready hjitter hmove).explained.firstError_eq_none hready hsound
    rcases horders.safe.explained.cancelled_cases hready
        (fun source pipe hpipe => PipeScript.cancel_notMem_of_isSteady (hsteady source pipe hpipe))
        hevent hmove with heq | hsome
    · exact heq.trans horders.undisturbed
    · exact absurd hsome (by rw [hnone]; exact Bool.false_ne_true)
  beginnings := horders.beginnings.move hmove fun source reader asked hreader hstage hdemand =>
    horders.caughtUp hfew hreader hstage hdemand

/-- When the session has returned, a pipe has been read to its end, and all its
messages have been delivered or given up. -/
theorem Orders.delivered {source : Source} {pipe : PipeScript} {result : Except Error Unit}
    (hready : plan.readyError = none)
    (hsteady : ∀ source pipe, pipes source = some pipe → pipe.isSteady = true)
    (hfew : FewSegments plan pipes) (horders : session.Orders plan pipes)
    (hdone : session.main = .done result) (hpipe : pipes source = some pipe) :
    Delivered plan source (Frame.canonical (max plan.options.bufferSize 1) pipe.content)
      session.journal := by
  obtain ⟨reader, hreader⟩ := horders.safe.exists_reader hpipe
  obtain ⟨ended, hstage, hresult⟩ := horders.safe.live.exists_ended hready hdone hreader
  have hfinished := horders.safe.explained.eq_finished hready
    (fun source pipe hpipe => PipeScript.isSound_of_isSteady (hsteady source pipe hpipe)) hresult
  obtain ⟨whole, -, hexplained⟩ := horders.safe.explained.readers source reader hreader
  have hover := hexplained.stage_explained
  rw [hstage, hfinished] at hover
  obtain ⟨hpending, hended⟩ := hover
  have hseen : reader.framer.ended = true :=
    hended.resolve_right (ne_true_of_eq_false horders.undisturbed)
  have hreceived : (session.progress source).received = pipe.content := by
    have hstream := horders.streams source pipe hpipe
    rw [stream_of_reader hreader, (horders.steady source reader hreader).ended hseen,
      List.append_nil] at hstream
    exact hstream
  have hfollows := (horders.safe.live.follows source reader hreader).framer_follows
  obtain ⟨times, hshows⟩ := hfollows.done hseen
  have hkeeps := horders.keepsUp source reader hreader
  rw [Reader.delivers_iff_of_isIdle (by rw [hstage]; rfl)] at hkeeps
  rw [hpending, List.append_nil, hreceived] at hshows
  exact ⟨times, _, hshows.exactly_of_few (hfew source pipe hpipe) (List.Subset.refl _), hkeeps⟩

/-- In blocking mode a session whose pipes come to their end and that nobody
cancels returns, and by then the calls of the sink for the messages of a pipe
are those for the messages of its canonical framing, each in a group of its own
that ends with the first success or with the last attempt.  Whenever a read of a
pipe was begun, the groups of all messages of the bytes read before were
complete.  No line has more segments than can be numbered, and so no number ever
overflows. -/
theorem delivers_canonical_in_order {stdout stderr : Option PipeScript} {sink : SinkBehaviour}
    {schedule : Schedule} (hmode : plan.options.mode = .blocking)
    (hready : plan.readyError = none) (hjitter : plan.options.retry.jitter.isNaN = false)
    (hsteady : ∀ source pipe, pipesOf stdout stderr source = some pipe → pipe.isSteady = true)
    (hfew : FewSegments plan (pipesOf stdout stderr))
    (hsink : sink.neverCrashes = true) (hcancel : ∀ now, schedule now ≠ .cancel)
    (hfair : Fair plan (create plan stdout stderr sink) schedule) :
    ∃ now session result, course plan (create plan stdout stderr sink) schedule now = session ∧
      session.main = .done result ∧
      (∀ source pipe, pipesOf stdout stderr source = some pipe →
        Delivered plan source (Frame.canonical (max plan.options.bufferSize 1) pipe.content)
          session.journal) ∧
      AtBeginnings (CaughtUp plan) session.journal ∧
      ∀ now, (course plan (create plan stdout stderr sink) schedule now).NumbersFit plan := by
  have halive : ∀ source pipe, pipesOf stdout stderr source = some pipe → pipe.isAlive = true :=
    fun source pipe hpipe => PipeScript.isAlive_of_isSteady (hsteady source pipe hpipe)
  obtain ⟨now, hover⟩ := hfair.exists_isOver (live_create plan stdout stderr sink)
    (Or.inl (pipesAlive_create plan sink halive))
  have horders : (course plan (create plan stdout stderr sink) schedule now).Orders plan
      (pipesOf stdout stderr) :=
    course_induction (orders_create hmode hsink hsteady)
      (fun now _ hbefore hmove => hbefore.move hready hjitter hsteady hfew (hcancel now) hmove) now
  obtain ⟨result, hdone⟩ := horders.safe.exists_done hover
  exact ⟨now, _, result, rfl, hdone,
    fun source pipe hpipe => horders.delivered hready hsteady hfew hdone hpipe,
    horders.beginnings, numbersFit_course hfew⟩

/-- One order of the steps of a session that reads two lines and has to make two
attempts at the first. -/
def twoLinesEvents : List SessionEvent :=
  [.main, .reader .stdout, .reader .stdout, .reader .stdout, .reader .stdout, .reader .stdout,
    .reader .stdout, .reader .stdout, .reader .stdout, .reader .stdout, .reader .stdout,
    .reader .stdout, .main, .join (.reader .stdout), .main, .main, .tracer .start,
    .tracer .conclude, .tracer .take, .tracer .take, .tracer .take, .main]

/-- The sink refuses the first line once. -/
def twoLinesStart : Session :=
  create (promptPlan .blocking (.immediate 2)) (some [.data [97, 10, 98]]) none
    ⟨[⟨0, .refused (.sink "busy"), 1⟩], []⟩

theorem delivers_two_lines_in_order :
    Fair (promptPlan .blocking (.immediate 2)) twoLinesStart (scheduleOf twoLinesEvents) ∧
      ∃ now session result, course (promptPlan .blocking (.immediate 2)) twoLinesStart
          (scheduleOf twoLinesEvents) now = session ∧ session.main = .done result ∧
        (∀ source pipe, pipesOf (some [.data [97, 10, 98]]) none source = some pipe →
          Delivered (promptPlan .blocking (.immediate 2)) source (Frame.canonical 4 pipe.content)
            session.journal) ∧
        AtBeginnings (CaughtUp (promptPlan .blocking (.immediate 2))) session.journal ∧
        ∀ now, (course (promptPlan .blocking (.immediate 2)) twoLinesStart
          (scheduleOf twoLinesEvents) now).NumbersFit (promptPlan .blocking (.immediate 2)) := by
  have hover : (twoLinesStart.run? (promptPlan .blocking (.immediate 2)) twoLinesEvents).map isOver =
      some true := by
    decide +kernel
  obtain ⟨session, hrun, hsession⟩ := Option.map_eq_some_iff.mp hover
  have hfair := fair_scheduleOf hrun hsession
  have hsteady : ∀ source pipe, pipesOf (some [.data [97, 10, 98]]) none source = some pipe →
      pipe.isSteady = true :=
    forall_pipe_of_stdout rfl
  have hfew : FewSegments (promptPlan .blocking (.immediate 2))
      (pipesOf (some [.data [97, 10, 98]]) none) :=
    forall_pipe_of_stdout (by decide)
  exact ⟨hfair, delivers_canonical_in_order rfl rfl rfl hsteady hfew rfl
    (scheduleOf_ne SessionEvent.noConfusion (by decide)) hfair⟩

/-- One order of the steps of a session whose only line is refused. -/
def oneLineEvents : List SessionEvent :=
  [.main, .reader .stdout, .reader .stdout, .reader .stdout, .reader .stdout, .main,
    .join (.reader .stdout), .main, .main, .tracer .start, .tracer .conclude, .tracer .take,
    .tracer .take, .tracer .take, .main]

/-- One refusal is not all that two attempts come to. -/
theorem not_attempts_of_refusal {message : Message} {calls : List (Message × Reply)}
    {error : Error} (hcalls : calls.map Prod.snd = [.refused error]) :
    ¬ Attempts 2 message calls := by
  intro hattempts
  have hlength : calls.length = 1 := by simpa using congrArg List.length hcalls
  cases hattempts with
  | accepted errors hless =>
      obtain rfl : errors = [] := by simpa [refusals] using hlength
      simp [refusals] at hcalls
  | exhausted errors hall =>
      rw [refusals, List.length_map, hall] at hlength
      exact absurd hlength (by decide)

/-- If the jitter is not a number, a refusal crashes the reader: the line has been
attempted once, although there were to be two attempts. -/
theorem not_delivered_of_unsettled_policy :
    (promptPlan .blocking unsettledPolicy).options.mode = .blocking ∧
      (promptPlan .blocking unsettledPolicy).readyError = none ∧
      PipeScript.isSteady [.data [97, 10]] = true ∧
      SinkBehaviour.neverCrashes ⟨[⟨0, .refused (.sink "busy"), 2⟩], []⟩ = true ∧
      (∀ now, scheduleOf oneLineEvents now ≠ .cancel) ∧
      ∃ session result,
        (create (promptPlan .blocking unsettledPolicy) (some [.data [97, 10]]) none
          ⟨[⟨0, .refused (.sink "busy"), 2⟩], []⟩).run? (promptPlan .blocking unsettledPolicy)
            oneLineEvents = some session ∧ session.main = .done result ∧
        ¬ Delivered (promptPlan .blocking unsettledPolicy) .stdout (Frame.canonical 4 [97, 10])
          session.journal := by
  have hview : ((create (promptPlan .blocking unsettledPolicy) (some [.data [97, 10]]) none
      ⟨[⟨0, .refused (.sink "busy"), 2⟩], []⟩).run? (promptPlan .blocking unsettledPolicy)
        oneLineEvents).map (fun session =>
          (session.verdict, (called .stdout session.journal).map Prod.snd)) =
      some (.failed (.task TaskResult.crashText), [.refused (.sink "busy")]) := by
    decide +kernel
  obtain ⟨session, hrun, hsession⟩ := Option.map_eq_some_iff.mp hview
  obtain ⟨hverdict, hreplies⟩ := Prod.mk.inj hsession
  refine ⟨rfl, rfl, rfl, rfl, scheduleOf_ne SessionEvent.noConfusion (by decide), session, _, hrun,
    main_of_verdict hverdict, ?_⟩
  rintro ⟨times, messages, hshows, groups, hgroups, hcalls⟩
  have hframes : Frame.canonical 4 [97, 10] = [⟨[97], none⟩] := by decide
  rw [hframes] at hshows
  cases hshows with
  | cons hshown hnone =>
      cases hnone
      cases hgroups with
      | cons hgroup hrest =>
          cases hrest
          rw [hcalls, List.flatten_cons, List.flatten_nil, List.append_nil] at hreplies
          exact not_attempts_of_refusal hreplies hgroup

end LogRelay.Session
