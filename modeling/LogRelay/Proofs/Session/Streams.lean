import LogRelay.Proofs.Session.Journal
import LogRelay.Proofs.Session.Reading
import LogRelay.Proofs.Session.Results

/-!
# No byte is lost between the pipe and its reader

What the reads of a source have brought, with what its pipe still holds, is the
same throughout a session.  So when a steady pipe has come to the end of its
stream, the reads have brought all of it.
-/

namespace LogRelay.Session

variable {plan : Plan} {session next : Session}

/-- What the reads of the source have brought. -/
def received (source : Source) (journal : List (Nat × Entry)) : Bytes :=
  (selected (Entry.brought? source) journal).flatten

/-- What the reads of the source have brought, with what its pipe still holds. -/
def stream (session : Session) (source : Source) : Bytes :=
  (session.progress source).received ++
    ((session.reader? source).map fun reader => reader.pipe.content).getD []

theorem stream_of_reader {source : Source} {reader : Reader}
    (hreader : session.reader? source = some reader) :
    session.stream source = (session.progress source).received ++ reader.pipe.content := by
  rw [stream, hreader]
  rfl

theorem Adds.received_eq {allowed : Entry → Bool} (hadds : session.Adds allowed next)
    (hallowed : ∀ entry, allowed entry = true → ∀ source, entry.brought? source = none)
    (source : Source) : (next.progress source).received = (session.progress source).received := by
  rw [progress, progress, hadds.selected_eq fun entry hentry => hallowed entry hentry source]

theorem brought?_of_isOfMain (entry : Entry) (hentry : entry.isOfMain = true) (source : Source) :
    entry.brought? source = none := by
  cases entry <;> first | rfl | exact absurd hentry Bool.false_ne_true

theorem brought?_of_isOfTask (entry : Entry) (hentry : entry.isOfTask = true) :
    ∀ source, entry.brought? source = none :=
  brought?_of_isOfMain entry (isOfMain_of_isOfTask entry hentry)

theorem brought?_of_isOfJoin (entry : Entry) (hentry : entry.isOfJoin = true) (source : Source) :
    entry.brought? source = none := by
  cases entry <;> first | rfl | exact absurd hentry Bool.false_ne_true

/-- A step that leaves the readers alone. -/
theorem stream_of_same (hreaders : next.reader? = session.reader?)
    (hreceived : ∀ source, (next.progress source).received = (session.progress source).received) :
    next.stream = session.stream := by
  funext source
  rw [stream, stream, hreaders, hreceived]

/-- A step that takes those bytes out of the pipe of a source. -/
theorem stream_of_taken {source : Source} {reader : Reader} (after : Reader) (bytes : Bytes)
    (hreader : session.reader? source = some reader)
    (hreaders : ∀ other, next.reader? other =
      if other = source then some after else session.reader? other)
    (hreceived : ∀ other, (next.progress other).received =
      (session.progress other).received ++ if other = source then bytes else [])
    (hcontent : reader.pipe.content = bytes ++ after.pipe.content) :
    next.stream = session.stream := by
  funext other
  by_cases hother : other = source
  · rw [stream, hreaders, hreceived, if_pos hother, if_pos hother, hother, stream_of_reader hreader,
      hcontent, List.append_assoc]
    rfl
  · rw [stream, stream, hreaders, hreceived, if_neg hother, if_neg hother, List.append_nil]

theorem ReadMove.stream_eq {source : Source} {reader : Reader} {asked : Nat} {looking : Bool}
    (hreader : session.reader? source = some reader)
    (hread : session.ReadMove plan source reader asked looking next) :
    next.stream = session.stream := by
  have hcontent := PipeScript.content_look session.clock asked reader.pipe
  cases hread with
  | brings bytes pipe hlook =>
      rw [hlook] at hcontent
      refine stream_of_taken ⟨(reader.framer.receive (plan.runIds source)
        (plan.timeOfDay session.clock) bytes).1, pipe, .asking⟩ bytes hreader
        (fun other => ?_) (fun other => ?_) hcontent
      · simp [reader?_setReader]
      · by_cases hother : other = source
        · simp [progress, hother]
        · simp [progress, hother, Ne.symm hother]
  | startsAgain failure pipe hlook hfailure =>
      rw [hlook] at hcontent
      refine stream_of_taken { reader with pipe := pipe, stage := .asking } [] hreader
        (fun other => ?_) (fun other => ?_) hcontent
      · simp [reader?_setReader]
      · simp [progress]
  | fails failure pipe hlook hfailure =>
      rw [hlook] at hcontent
      refine stream_of_taken
        { reader with pipe := pipe, stage := .ended (.failed (.read source failure)) } [] hreader
        (fun other => ?_) (fun other => ?_) hcontent
      · simp [reader?_endReader]
      · simp [progress]
  | crashes pipe hlook =>
      rw [hlook] at hcontent
      refine stream_of_taken { reader with pipe := pipe, stage := .ended .crashed } [] hreader
        (fun other => reader?_endReader _ _ _ _ _) (fun other => ?_) hcontent
      simp [progress]
  | cancels pipe hlook =>
      rw [hlook] at hcontent
      refine stream_of_taken { reader with pipe := pipe, stage := .reading asked true } [] hreader
        (fun other => ?_) (fun other => ?_) hcontent
      · simp [reader?_setReader]
      · simp [progress]
  | waits until? pipe hlook hwaits =>
      rw [hlook] at hcontent
      refine stream_of_taken { reader with pipe := pipe, stage := .reading asked false } [] hreader
        (fun other => reader?_setReader _ _ _ _) (fun other => ?_) hcontent
      simp [progress]

/-- A step of a reader that leaves its pipe alone. -/
theorem stream_of_untouched {source : Source} {reader : Reader} (after : Reader)
    (hreader : session.reader? source = some reader)
    (hreaders : ∀ other, next.reader? other =
      if other = source then some after else session.reader? other)
    (hreceived : ∀ other, (next.progress other).received = (session.progress other).received)
    (hpipe : after.pipe = reader.pipe) : next.stream = session.stream := by
  refine stream_of_taken after [] hreader hreaders (fun other => ?_) (by rw [hpipe]; rfl)
  rw [hreceived, ite_self, List.append_nil]

theorem ReaderMove.stream_eq {source : Source} {reader : Reader}
    (hreader : session.reader? source = some reader)
    (hmove : session.ReaderMove plan source reader next) : next.stream = session.stream := by
  have hsend : ∀ {sending : Sending} {progress : SendProgress} {sent : Session},
      session.SendMove plan sending sent progress →
      ∀ other, (sent.progress other).received = (session.progress other).received :=
    fun hsend other => hsend.adds.received_eq brought?_of_isOfTask other
  cases hmove with
  | reads asked looking next hstage hgoes hread => exact hread.stream_eq hreader
  | offers message framer buffer =>
      refine stream_of_untouched { reader with framer := framer, stage := .asking } hreader
        (fun other => ?_) (fun other => ?_) rfl
      · simp [reader?_setReader]
        rfl
      · cases buffer.accepts message <;> simp [progress]
  | hands message framer =>
      refine stream_of_untouched
        { reader with
          framer := framer
          stage := .sending ((session.note (.framed message)).hand plan message).2 } hreader
        (fun other => ?_) (fun other => ?_) rfl
      · simp [reader?_setReader]
        rfl
      · simp [progress]
  | begins asked =>
      refine stream_of_untouched { reader with stage := .reading asked false } hreader
        (fun other => ?_) (fun other => ?_) rfl
      · simp [reader?_setReader]
      · simp [progress]
  | finishes | leaves =>
      refine stream_of_untouched { reader with stage := .ended .finished } hreader
        (fun other => reader?_endReader _ _ _ _ _) (fun other => ?_) rfl
      simp [progress]
  | sendGoesOn sending later sent hstage hdue hsent =>
      refine stream_of_untouched { reader with stage := .sending later } hreader
        (fun other => ?_) (fun other => ?_) rfl
      · rw [reader?_setReader, hsent.reader?_eq]
      · rw [← hsend hsent]
        simp [progress]
  | sendOver sending sent hstage hdue hsent =>
      refine stream_of_untouched { reader with stage := .asking } hreader
        (fun other => ?_) (fun other => ?_) rfl
      · rw [reader?_setReader, hsent.reader?_eq]
      · rw [← hsend hsent]
        simp [progress]
  | sendCrashes sending sent hstage hdue hsent =>
      refine stream_of_untouched { reader with stage := .ended .crashed } hreader
        (fun other => ?_) (fun other => ?_) rfl
      · rw [reader?_endReader, hsent.reader?_eq]
      · rw [← hsend hsent]
        simp [progress]

/-- No byte of a pipe is lost on the way to its reader. -/
theorem Move.stream_eq {event : SessionEvent} (hmove : session.Move plan event next) :
    next.stream = session.stream := by
  cases hmove with
  | pass => exact stream_of_same (reader?_of_same rfl rfl) fun _ => rfl
  | cancel =>
      have hadds : session.Adds Entry.isOfJoin session.cancel := adds_cancel session rfl
      exact stream_of_same (funext (reader?_cancel session))
        (hadds.received_eq brought?_of_isOfJoin)
  | reader source reader next hlaunched hreader hmove => exact hmove.stream_eq hreader
  | drain stage buffer next hlaunched hdrain hbuffer hmove =>
      exact stream_of_same hmove.reader?_eq (hmove.adds.received_eq brought?_of_isOfTask)
  | join task result next hmain hresult hmem hmove =>
      exact stream_of_same hmove.reader?_eq (hmove.adds.received_eq brought?_of_isOfJoin)
  | main next hmove =>
      funext source
      have hreceived := hmove.adds.received_eq brought?_of_isOfMain source
      rcases hmove.reader_step source with heq | ⟨-, heq⟩
      · rw [stream, stream, heq, hreceived]
      · have hpipe : (fun reader : Reader => reader.pipe.content) ∘ Reader.abort =
            fun reader => reader.pipe.content := funext fun reader => by
          rw [Function.comp_apply, Reader.pipe_abort]
        rw [stream, stream, heq, hreceived, Option.map_map, hpipe]
  | tracer action tracer sample? =>
      cases sample? with
      | none => exact stream_of_same (reader?_of_same rfl rfl) fun _ => rfl
      | some sample =>
          refine stream_of_same (reader?_of_same rfl rfl) fun source => ?_
          simp [progress]

/-! ## Steady pipes -/

end LogRelay.Session

namespace LogRelay

/-- The pipe of the reader comes to its end, and has come to it where the framer
has seen the end. -/
structure Reader.IsSteady (reader : Reader) : Prop where
  pipe_steady : reader.pipe.isSteady = true
  asks : ∀ asked looking, reader.stage = .reading asked looking → 0 < asked
  ended : reader.framer.ended = true → reader.pipe.content = []

/-- A look at a steady pipe leaves a steady pipe, and no byte of it where there
was none or where the look has come to the end. -/
theorem Reader.IsSteady.look {reader : Reader} {clock asked : Nat} {looking : Bool}
    {answer : PipeAnswer}
    {pipe : PipeScript} (hsteady : reader.IsSteady) (hstage : reader.stage = .reading asked looking)
    (hlook : reader.pipe.look clock asked = (answer, pipe)) :
    pipe.isSteady = true ∧ (reader.pipe.content = [] → pipe.content = []) ∧
      (answer = .ready (.data []) → pipe.content = []) := by
  have hbrings := PipeScript.brings_look clock (hsteady.asks asked looking hstage)
    hsteady.pipe_steady
  have hcontent := PipeScript.content_look clock asked reader.pipe
  rw [hlook] at hbrings hcontent
  have hempty : reader.pipe.content = [] → pipe.content = [] := by
    intro hnone
    exact (List.append_eq_nil_iff.mp (hcontent.symm.trans hnone)).2
  cases hbrings with
  | bytes hbytes hrest => exact ⟨hrest, hempty, fun heq => by simp_all⟩
  | nothing => exact ⟨rfl, hempty, fun _ => rfl⟩
  | interruption hfailure hrest => exact ⟨hrest, hempty, fun heq => by simp at heq⟩
  | wait htime hrest => exact ⟨hrest, hempty, fun heq => PipeAnswer.noConfusion heq⟩

namespace Session

variable {plan : Plan} {session next : Session} {source : Source}

theorem Reader.Step.isSteady {reader after : Reader} (hstep : reader.Step plan source session after)
    (hready : plan.readyError = none) (hsteady : reader.IsSteady)
    (hfollows : ∃ progress, reader.Follows plan source progress) : after.IsSteady := by
  have hlook : ∀ {asked : Nat} {looking : Bool} {answer : PipeAnswer} {pipe : PipeScript},
      reader.stage = .reading asked looking →
      reader.pipe.look session.clock asked = (answer, pipe) →
      pipe.isSteady = true ∧ (reader.framer.ended = true → pipe.content = []) := by
    intro asked looking answer pipe hstage hlook
    obtain ⟨hpipe, hempty, -⟩ := hsteady.look hstage hlook
    exact ⟨hpipe, fun hended => hempty (hsteady.ended hended)⟩
  have hyields : ∀ {message : Message} {framer : Framer},
      reader.framer.demand session.cancelled = .message message framer → framer.ended = true →
      reader.pipe.content = [] := by
    intro message framer hdemand hended
    obtain ⟨rest, -, rfl⟩ := Framer.pending_of_demand hdemand
    exact hsteady.ended hended
  have hpipe := hsteady.pipe_steady
  have hnone : ∀ {stage : ReaderStage}, (∀ asked looking, stage ≠ .reading asked looking) →
      ∀ asked looking, stage = .reading asked looking → 0 < asked :=
    fun hnot asked looking hstage => absurd hstage (hnot asked looking)
  cases hstep with
  | offers message framer hstage hdemand =>
      exact ⟨hpipe, hnone fun _ _ => ReaderStage.noConfusion, hyields hdemand⟩
  | hands message framer hstage hdemand =>
      exact ⟨hpipe, hnone fun _ _ => ReaderStage.noConfusion, hyields hdemand⟩
  | begins asked hstage hdemand =>
      refine ⟨hpipe, fun _ _ hreading => ?_, hsteady.ended⟩
      obtain ⟨rfl, -⟩ := ReaderStage.reading.inj hreading
      obtain ⟨progress, hframer⟩ := hfollows
      rw [(Framer.read_of_demand hdemand).2.2.1]
      exact hframer.framer_follows.request_pos (Framer.read_of_demand hdemand).2.1
  | brings asked looking bytes pipe hstage hlooked =>
      refine ⟨(hlook hstage hlooked).1, hnone fun _ _ => ReaderStage.noConfusion, fun hended => ?_⟩
      rw [Framer.ended_receive, Bool.or_eq_true_iff, List.isEmpty_iff] at hended
      rcases hended with hbefore | rfl
      · exact (hlook hstage hlooked).2 hbefore
      · exact (hsteady.look hstage hlooked).2.2 rfl
  | startsAgain asked looking failure pipe hstage hlooked =>
      exact ⟨(hlook hstage hlooked).1, hnone fun _ _ => ReaderStage.noConfusion,
        (hlook hstage hlooked).2⟩
  | fails asked looking failure pipe hstage hlooked =>
      exact ⟨(hlook hstage hlooked).1, hnone fun _ _ => ReaderStage.noConfusion,
        (hlook hstage hlooked).2⟩
  | crashes asked looking pipe hstage hlooked =>
      exact ⟨(hlook hstage hlooked).1, hnone fun _ _ => ReaderStage.noConfusion,
        (hlook hstage hlooked).2⟩
  | cancels asked looking pipe hstage hlooked | waits asked looking _ pipe hstage hlooked =>
      refine ⟨(hlook hstage hlooked).1, fun _ _ hreading => ?_, (hlook hstage hlooked).2⟩
      obtain ⟨rfl, -⟩ := ReaderStage.reading.inj hreading
      exact hsteady.asks asked looking hstage
  | aborts hsome => simp [hready] at hsome
  | finishes | leaves | sendGoesOn | sendOver | sendCrashes =>
      exact ⟨hpipe, hnone fun _ _ => ReaderStage.noConfusion, hsteady.ended⟩

/-- Every pipe is steady. -/
def AreSteady (session : Session) : Prop :=
  ∀ source reader, session.reader? source = some reader → reader.IsSteady

theorem areSteady_create (plan : Plan) {stdout stderr : Option PipeScript} (sink : SinkBehaviour)
    (hpipes : ∀ source pipe, pipesOf stdout stderr source = some pipe → pipe.isSteady = true) :
    (create plan stdout stderr sink).AreSteady := by
  intro source reader hreader
  obtain ⟨pipe, hpipe, rfl⟩ := exists_pipe_of_create hreader
  refine ⟨hpipes source pipe hpipe, fun _ _ => ReaderStage.noConfusion, fun hended => ?_⟩
  exact absurd hended Bool.false_ne_true

theorem AreSteady.move {event : SessionEvent} (hready : plan.readyError = none)
    (hsteady : session.AreSteady) (hfollow : session.ReadersFollow plan)
    (hmove : session.Move plan event next) : next.AreSteady := by
  intro source after hafter
  obtain ⟨reader, hreader, rfl | hstep⟩ := hmove.reader_step hafter
  · exact hsteady source _ hreader
  · exact Reader.Step.isSteady hstep hready (hsteady source reader hreader)
      ⟨_, hfollow source reader hreader⟩

end Session

end LogRelay
