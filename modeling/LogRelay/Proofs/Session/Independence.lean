import LogRelay.Proofs.Session.Promptness
import LogRelay.Proofs.Session.ReaderLogs
import LogRelay.Proofs.Session.Safe

/-!
# Readers do not depend on the sink

In non-blocking mode nothing leads back from the sink to a reader: not the answers of
the sink, not the pauses of the deliveries, not the drain and not a buffer that is full.
Every session that does not end a reader for another reason brings it just as far as the
reader comes on its own.  So in two such sessions it does the same.
-/

namespace LogRelay

/-- A reader that is free stays so, if its pipe does not cancel the session. -/
theorem Reader.Step.isFree {plan : Plan} {source : Source} {session : Session}
    {reader after : Reader} (hstep : reader.Step plan source session after)
    (hbuffer : session.buffer.isSome = true) (hfree : reader.stage.isFree = true)
    (hpipe : .cancel ∉ reader.pipe) : after.stage.isFree = true := by
  cases hstep with
  | hands message framer hstage hdemand hnone => simp [hnone] at hbuffer
  | cancels asked looking pipe hstage hlook =>
      cases PipeScript.reports_of_look hlook with
      | cancels hmem => exact absurd hmem hpipe
  | sendGoesOn sending later next hstage => simp [hstage, ReaderStage.isFree] at hfree
  | aborts hready =>
      rw [Reader.abort]
      split
      · exact hfree
      · rfl
  | _ => rfl

namespace Session

variable {plan : Plan} {pipes : Source → Option PipeScript} {session next : Session}
variable {source : Source} {stdout stderr : Option PipeScript} {sink : SinkBehaviour}

/-! ## Readers that are left alone -/

/-- No delivery crashes, a buffer takes the messages, and only an error cancels the
session. -/
structure LeavesAlone (plan : Plan) (pipes : Source → Option PipeScript) (source : Source)
    (session : Session) : Prop where
  safe : session.Safe plan pipes
  buffered : session.buffer.isSome = true
  cancels : session.cancelled = true → session.firstError.isSome = true
  free : ∀ reader, session.reader? source = some reader → reader.stage.isFree = true

theorem leavesAlone_create (hmode : plan.options.mode = .nonBlocking)
    (stdout stderr : Option PipeScript) (hsink : sink.neverCrashes = true) (source : Source) :
    (create plan stdout stderr sink).LeavesAlone plan (pipesOf stdout stderr) source where
  safe := safe_create plan stdout stderr hsink
  buffered := by simp [create, hmode]
  cancels hcancelled := absurd hcancelled Bool.false_ne_true
  free reader hreader := by
    obtain ⟨pipe, -, rfl⟩ := exists_pipe_of_create hreader
    rfl

/-- What is left of a pipe that does not cancel the session does not cancel it. -/
theorem Explained.cancel_notMem {reader : Reader} (hexplained : session.Explained plan pipes)
    (hpipes : ∀ source pipe, pipes source = some pipe → .cancel ∉ pipe)
    (hreader : session.reader? source = some reader) : .cancel ∉ reader.pipe := by
  intro hmem
  obtain ⟨whole, hwhole, hleft⟩ := hexplained.readers source reader hreader
  rcases hleft.pipe_left _ hmem with hold | ⟨bytes, hbytes⟩ | ⟨time, htime⟩
  · exact hpipes source whole hwhole hold
  · exact PipeStep.noConfusion hbytes
  · exact PipeStep.noConfusion htime

theorem LeavesAlone.move {event : SessionEvent} (hready : plan.readyError = none)
    (hjitter : plan.options.retry.jitter.isNaN = false)
    (hpipes : ∀ source pipe, pipes source = some pipe → .cancel ∉ pipe)
    (hevent : event ≠ .cancel) (halone : session.LeavesAlone plan pipes source)
    (hmove : session.Move plan event next) : next.LeavesAlone plan pipes source where
  safe := halone.safe.move hready hjitter hmove
  buffered := (hmove.isSome_buffer hready).trans halone.buffered
  cancels hcancelled := by
    rcases halone.safe.explained.cancelled_cases hready hpipes hevent hmove with heq | hsome
    · exact hmove.firstError_mono (halone.cancels (heq.symm.trans hcancelled))
    · exact hsome
  free after hafter := by
    obtain ⟨reader, hreader, rfl | hstep⟩ := hmove.reader_step hafter
    · exact halone.free after hreader
    · exact hstep.isFree halone.buffered (halone.free reader hreader)
        (halone.safe.explained.cancel_notMem hpipes hreader)

/-- When the session is cancelled, it is with the error of this reader, which has ended. -/
theorem LeavesAlone.ended_of_cancelled {reader : Reader} (hready : plan.readyError = none)
    (hothers : ∀ other pipe, other ≠ source → pipes other = some pipe → pipe.isSound = true)
    (halone : session.LeavesAlone plan pipes source)
    (hreader : session.reader? source = some reader) (hcancelled : session.cancelled = true) :
    ∃ result, reader.stage = .ended result := by
  obtain ⟨error, herror⟩ := Option.isSome_iff_exists.mp (halone.cancels hcancelled)
  obtain ⟨origin, failed, result, hfailed, hended, hresult⟩ :=
    halone.safe.explained.firstError error herror
  by_cases horigin : origin = source
  · subst horigin
    obtain rfl : failed = reader := Option.some.inj (hfailed.symm.trans hreader)
    exact ⟨result, hended⟩
  · have htask : session.taskResult? (.reader origin) = some result := by
      simp only [taskResult?, hfailed, hended]
    obtain rfl := halone.safe.explained.reader_finished hready
      (fun pipe => hothers origin pipe horigin) htask
    exact absurd hresult (Option.some_ne_none _).symm

/-- Every step is one of time, or the reader goes on as it does on its own, or nothing
that concerns it changes. -/
theorem LeavesAlone.goes_or_stays {event : SessionEvent} (hready : plan.readyError = none)
    (hpipes : ∀ source pipe, pipes source = some pipe → .cancel ∉ pipe)
    (hothers : ∀ other pipe, other ≠ source → pipes other = some pipe → pipe.isSound = true)
    (halone : session.LeavesAlone plan pipes source) (hmove : session.Move plan event next) :
    (∃ time, event = .pass time ∧ session.clock < time ∧ next = { session with clock := time }) ∨
      next.clock = session.clock ∧
        ((∃ reader, session.reader? source = some reader ∧ session.Goes source reader next) ∨
          next.reader? source = session.reader? source ∧
            readerLog source next.journal = readerLog source session.journal) := by
  have hfollow := halone.safe.live.follows
  rcases hmove.reader_cases hready hfollow source with
    hpass | ⟨-, reader, hreader, hmove⟩ | ⟨hclock, hsame⟩
  · exact Or.inl hpass
  · refine Or.inr ⟨hmove.leaves_others.1, Or.inl ⟨reader, hreader, ?_⟩⟩
    have hgoing : session.cancelled = false := by
      apply Bool.eq_false_iff.mpr
      intro hcancelled
      obtain ⟨result, hended⟩ := halone.ended_of_cancelled hready hothers hreader hcancelled
      cases hmove <;> simp_all
    refine hmove.goes halone.buffered hgoing (halone.free reader hreader)
      (halone.safe.explained.cancel_notMem hpipes hreader) fun message framer hdemand => ?_
    obtain ⟨rest, hpending, -⟩ := Framer.pending_of_demand hdemand
    exact (hfollow source reader hreader).framer_follows.source_eq_of_pending hpending
  · exact Or.inr ⟨hclock, Or.inr hsame⟩

/-! ## Two sessions with one reader -/

/-- A reader that the session keeps waiting waits on its own as well. -/
theorem go?_of_waitsAt {reader : Reader} {clock : Nat} {cancelled : Bool}
    (hwaits : reader.waitsAt clock cancelled = true) : reader.bare.go? source clock = none := by
  rw [Reader.waitsAt] at hwaits
  cases hstage : reader.stage with
  | asking => simp [hstage] at hwaits
  | reading asked looking =>
      rw [hstage] at hwaits
      have hwaiting := (Bool.and_eq_true_iff.mp hwaits).2
      simp only [Reader.go?, Reader.bare, hstage, hwaiting, if_true]
  | sending | ended => simp only [Reader.go?, Reader.bare, hstage]

/-- The reader of the source, with the time and with what is noted of it. -/
def lone (source : Source) (session : Session) (reader : Reader) : LoneReader :=
  ⟨session.clock, reader.bare, readerLog source session.journal⟩

/-- The session has brought the reader to where it has come on its own at that time. -/
def KeepsTime (source : Source) (start : LoneReader) (session : Session) : Prop :=
  ∃ reader count, session.reader? source = some reader ∧
    (LoneReader.step source)^[count] start = session.lone source reader

/-- The session has brought the reader to where it comes on its own at some time, if
nothing keeps it waiting. -/
def KeepsOrder (source : Source) (start : LoneReader) (session : Session) : Prop :=
  ∃ reader count, session.reader? source = some reader ∧
    ((LoneReader.step source)^[count] start).reader = reader.bare.awake ∧
    ((LoneReader.step source)^[count] start).log.map Prod.snd =
      (readerLog source session.journal).map Prod.snd

variable {start : LoneReader}

theorem KeepsTime.goes {reader : Reader} (hkeeps : session.KeepsTime source start)
    (hreader : session.reader? source = some reader) (hclock : next.clock = session.clock)
    (hgoes : session.Goes source reader next) : next.KeepsTime source start := by
  obtain ⟨kept, count, hkept, hcount⟩ := hkeeps
  obtain rfl : kept = reader := Option.some.inj (hkept.symm.trans hreader)
  obtain ⟨after, entries, hafter, hgo, hlog⟩ := hgoes
  refine ⟨after, count + 1, hafter, ?_⟩
  rw [Function.iterate_succ_apply', hcount, lone, LoneReader.step_of_goes hgo, lone, hclock, hlog]

theorem KeepsTime.pass {reader : Reader} {time : Nat} (hkeeps : session.KeepsTime source start)
    (hreader : session.reader? source = some reader) (htime : session.clock < time)
    (hwaits : ∀ moment, session.clock ≤ moment → moment < time →
      reader.bare.go? source moment = none) :
    ({ session with clock := time } : Session).KeepsTime source start := by
  obtain ⟨kept, count, hkept, hcount⟩ := hkeeps
  obtain rfl : kept = reader := Option.some.inj (hkept.symm.trans hreader)
  refine ⟨kept, time - session.clock + count, ?_, ?_⟩
  · rw [← hkept]
    exact congrFun (reader?_of_same rfl rfl) source
  · have hsum : session.clock + (time - session.clock) = time := by omega
    rw [Function.iterate_add_apply, hcount, LoneReader.iterate_of_waits]
    · rw [lone, lone, hsum]
    · intro moment hle hlt
      exact hwaits moment hle (Nat.lt_of_lt_of_eq hlt hsum)

theorem KeepsTime.move {event : SessionEvent} (hready : plan.readyError = none)
    (hpipes : ∀ source pipe, pipes source = some pipe → .cancel ∉ pipe)
    (hothers : ∀ other pipe, other ≠ source → pipes other = some pipe → pipe.isSound = true)
    (halone : session.LeavesAlone plan pipes source)
    (hwaits : session.waitsFor plan source event = true)
    (hkeeps : session.KeepsTime source start) (hmove : session.Move plan event next) :
    next.KeepsTime source start := by
  rcases halone.goes_or_stays hready hpipes hothers hmove with
    ⟨time, rfl, htime, rfl⟩ | ⟨hclock, ⟨reader, hreader, hgoes⟩ | ⟨hsame, hlog⟩⟩
  · obtain ⟨reader, -, hreader, -⟩ := id hkeeps
    have hidle := (waitsFor_pass_iff.mp hwaits).2 reader hreader
    exact hkeeps.pass hreader htime fun moment hle hlt => go?_of_waitsAt (hidle moment hle hlt)
  · exact hkeeps.goes hreader hclock hgoes
  · obtain ⟨reader, count, hreader, hcount⟩ := hkeeps
    refine ⟨reader, count, hsame.trans hreader, ?_⟩
    rw [hcount, lone, lone, hclock, hlog]

theorem KeepsOrder.goes {reader : Reader} (hkeeps : session.KeepsOrder source start)
    (hreader : session.reader? source = some reader) (hgoes : session.Goes source reader next) :
    next.KeepsOrder source start := by
  obtain ⟨kept, count, hkept, hcount, hlog⟩ := hkeeps
  obtain rfl : kept = reader := Option.some.inj (hkept.symm.trans hreader)
  obtain ⟨after, entries, hafter, hgo, hnext⟩ := hgoes
  rcases Reader.go?_awake ((LoneReader.step source)^[count] start).clock hgo with
    ⟨hsame, rfl⟩ | hawake
  · refine ⟨after, count, hafter, hcount.trans hsame.symm, ?_⟩
    rw [hlog, hnext, List.map_nil, List.append_nil]
  · rw [← hcount] at hawake
    refine ⟨after, count + 1, hafter, ?_⟩
    rw [Function.iterate_succ_apply', LoneReader.step_of_goes hawake]
    refine ⟨rfl, ?_⟩
    rw [hnext, List.map_append, List.map_append, hlog, List.map_map, List.map_map]
    rfl

theorem KeepsOrder.move {event : SessionEvent} (hready : plan.readyError = none)
    (hpipes : ∀ source pipe, pipes source = some pipe → .cancel ∉ pipe)
    (hothers : ∀ other pipe, other ≠ source → pipes other = some pipe → pipe.isSound = true)
    (halone : session.LeavesAlone plan pipes source)
    (hkeeps : session.KeepsOrder source start) (hmove : session.Move plan event next) :
    next.KeepsOrder source start := by
  have hstays : next.reader? source = session.reader? source →
      readerLog source next.journal = readerLog source session.journal →
      next.KeepsOrder source start := by
    intro hsame hlog
    obtain ⟨reader, count, hreader, hcount⟩ := hkeeps
    rw [← hlog] at hcount
    exact ⟨reader, count, hsame.trans hreader, hcount⟩
  rcases halone.goes_or_stays hready hpipes hothers hmove with
    ⟨time, rfl, htime, rfl⟩ | ⟨hclock, ⟨reader, hreader, hgoes⟩ | ⟨hsame, hlog⟩⟩
  · exact hstays (congrFun (reader?_of_same rfl rfl) source) rfl
  · exact hkeeps.goes hreader hgoes
  · exact hstays hsame hlog

/-! ## Whole sessions -/

/-- A session in non-blocking mode in which the reader of the source can be ended by
nothing but its own pipe. -/
structure Spares (plan : Plan) (stdout stderr : Option PipeScript) (sink : SinkBehaviour)
    (source : Source) (events : List SessionEvent) : Prop where
  buffered : plan.options.mode = .nonBlocking
  ready : plan.readyError = none
  jitter_number : plan.options.retry.jitter.isNaN = false
  sink_safe : sink.neverCrashes = true
  others_sound : ∀ other pipe, other ≠ source → pipesOf stdout stderr other = some pipe →
    pipe.isSound = true
  pipes_quiet : ∀ other pipe, pipesOf stdout stderr other = some pipe → .cancel ∉ pipe
  not_cancelled : .cancel ∉ events

namespace Spares

variable {events : List SessionEvent} {pipe : PipeScript}

/-- What every step keeps as long as the reader is left alone, with a view to the steps
that are still to come, holds when none is left. -/
theorem induction {motive : Session → List SessionEvent → Prop}
    (hspares : Spares plan stdout stderr sink source events)
    (hrun : (create plan stdout stderr sink).run? plan events = some session)
    (hstart : motive (create plan stdout stderr sink) events)
    (hstep : ∀ session event rest next, session.LeavesAlone plan (pipesOf stdout stderr) source →
      motive session (event :: rest) → session.step? plan event = some next → motive next rest) :
    motive session [] := by
  have hboth := run?_induction_on_rest (motive := fun session events =>
    session.LeavesAlone plan (pipesOf stdout stderr) source ∧ .cancel ∉ events ∧
      motive session events) hrun
    ⟨leavesAlone_create hspares.buffered stdout stderr hspares.sink_safe source,
      hspares.not_cancelled, hstart⟩ ?_
  · exact hboth.2.2
  · rintro before event rest next ⟨halone, hevents, hbefore⟩ hnext
    rw [List.mem_cons, not_or] at hevents
    refine ⟨?_, hevents.2, hstep before event rest next halone hbefore hnext⟩
    exact halone.move hspares.ready hspares.jitter_number hspares.pipes_quiet
      (Ne.symm hevents.1) (move_of_step? hnext)

theorem keepsOrder (hspares : Spares plan stdout stderr sink source events)
    (hpipe : pipesOf stdout stderr source = some pipe)
    (hrun : (create plan stdout stderr sink).run? plan events = some session) :
    session.KeepsOrder source ⟨0, (newReader plan source pipe).bare.awake, []⟩ := by
  apply hspares.induction (motive := fun session _ =>
    session.KeepsOrder source ⟨0, (newReader plan source pipe).bare.awake, []⟩) hrun
  · exact ⟨newReader plan source pipe, 0, by rw [reader?_create, hpipe]; rfl, rfl, rfl⟩
  · intro before event rest next halone hkeeps hnext
    exact hkeeps.move hspares.ready hspares.pipes_quiet hspares.others_sound halone
      (move_of_step? hnext)

theorem keepsTime (hspares : Spares plan stdout stderr sink source events)
    (hpipe : pipesOf stdout stderr source = some pipe)
    (hrun : (create plan stdout stderr sink).run? plan events = some session)
    (hprompt : isPrompt plan source (create plan stdout stderr sink) events = true) :
    session.KeepsTime source ⟨0, (newReader plan source pipe).bare, []⟩ := by
  have hboth := hspares.induction (motive := fun session events =>
    isPrompt plan source session events = true ∧
      session.KeepsTime source ⟨0, (newReader plan source pipe).bare, []⟩) hrun
    ⟨hprompt, newReader plan source pipe, 0, by rw [reader?_create, hpipe]; rfl, rfl⟩ ?_
  · exact hboth.2
  · rintro before event rest next halone ⟨hbefore, hkeeps⟩ hnext
    obtain ⟨hwaits, hrest⟩ := isPrompt_cons hbefore
    exact ⟨hrest next hnext, hkeeps.move hspares.ready hspares.pipes_quiet hspares.others_sound
      halone hwaits (move_of_step? hnext)⟩

end Spares

/-- The reader of the source has done the same in both sessions as far as both have come,
whatever the times are, and where it has ended in both, it has done all the same. -/
structure SameOrder (source : Source) (session other : Session) : Prop where
  agree : Agree ((readerLog source session.journal).map Prod.snd)
    ((readerLog source other.journal).map Prod.snd)
  ended : ∀ result result', session.taskResult? (.reader source) = some result →
    other.taskResult? (.reader source) = some result' → result = result' ∧
      (readerLog source session.journal).map Prod.snd =
        (readerLog source other.journal).map Prod.snd

/-- The time is over for the session, or the reader of the source has ended. -/
def HasPassed (source : Source) (time : Nat) (session : Session) : Prop :=
  time < session.clock ∨ (session.taskResult? (.reader source)).isSome = true

/-- The reader of the source has done the same at the same times in both sessions. -/
structure SameTimes (source : Source) (session other : Session) : Prop where
  agree : Agree (readerLog source session.journal) (readerLog source other.journal)
  upTo_eq : ∀ time, session.HasPassed source time → other.HasPassed source time →
    upTo time (readerLog source session.journal) = upTo time (readerLog source other.journal)
  ended : ∀ result result', session.taskResult? (.reader source) = some result →
    other.taskResult? (.reader source) = some result' → result = result' ∧
      readerLog source session.journal = readerLog source other.journal

theorem stage_of_taskResult? {reader : Reader} {result : TaskResult}
    (hreader : session.reader? source = some reader)
    (hresult : session.taskResult? (.reader source) = some result) : reader.stage = .ended result := by
  obtain ⟨found, hfound, hended⟩ := taskResult?_reader hresult
  rw [Option.some.inj (hreader.symm.trans hfound)]
  exact hended

theorem sameOrder_of_keepsOrder {other : Session} (hkeeps : session.KeepsOrder source start)
    (hkeeps' : other.KeepsOrder source start) : SameOrder source session other := by
  obtain ⟨reader, count, hreader, hcount, hlog⟩ := hkeeps
  obtain ⟨reader', count', hreader', hcount', hlog'⟩ := hkeeps'
  constructor
  · rw [← hlog, ← hlog']
    exact (LoneReader.agree_iterate source start count count').map Prod.snd
  · intro result result' hresult hresult'
    have hended := stage_of_taskResult? hreader hresult
    have hended' := stage_of_taskResult? hreader' hresult'
    obtain ⟨hsame, hlogs⟩ := LoneReader.eq_of_ended source start count count'
      ((congrArg Reader.stage hcount).trans hended) ((congrArg Reader.stage hcount').trans hended')
    rw [← hlog, ← hlog', hlogs]
    exact ⟨hsame, rfl⟩

theorem HasPassed.lone {reader : Reader} {time : Nat} (hpassed : session.HasPassed source time)
    (hreader : session.reader? source = some reader) : (session.lone source reader).HasPassed time := by
  refine hpassed.imp_right fun hsome => ?_
  obtain ⟨result, hresult⟩ := Option.isSome_iff_exists.mp hsome
  have hended := stage_of_taskResult? hreader hresult
  exact ⟨result, hended⟩

theorem sameTimes_of_keepsTime {other : Session} (hkeeps : session.KeepsTime source start)
    (hkeeps' : other.KeepsTime source start) : SameTimes source session other := by
  obtain ⟨reader, count, hreader, hcount⟩ := hkeeps
  obtain ⟨reader', count', hreader', hcount'⟩ := hkeeps'
  have hlog : ((LoneReader.step source)^[count] start).log = readerLog source session.journal :=
    congrArg LoneReader.log hcount
  have hlog' : ((LoneReader.step source)^[count'] start).log = readerLog source other.journal :=
    congrArg LoneReader.log hcount'
  constructor
  · rw [← hlog, ← hlog']
    exact LoneReader.agree_iterate source start count count'
  · intro time hpassed hpassed'
    rw [← hlog, ← hlog']
    apply LoneReader.upTo_eq_of_hasPassed
    · rw [hcount]
      exact hpassed.lone hreader
    · rw [hcount']
      exact hpassed'.lone hreader'
  · intro result result' hresult hresult'
    have hended := stage_of_taskResult? hreader hresult
    have hended' := stage_of_taskResult? hreader' hresult'
    rw [← hlog, ← hlog']
    apply LoneReader.eq_of_ended
    · rw [hcount]
      exact hended
    · rw [hcount']
      exact hended'

section Pairs

variable {plan plan' : Plan} {stdout stderr stdout' stderr' : Option PipeScript}
variable {sink sink' : SinkBehaviour} {events events' : List SessionEvent}
variable {session session' : Session} {pipe : PipeScript}

theorem newReader_eq (hbuffer : plan.options.bufferSize = plan'.options.bufferSize)
    (hlimit : plan.options.readLimit = plan'.options.readLimit) :
    newReader plan source pipe = newReader plan' source pipe := by
  rw [newReader, newReader, hbuffer, hlimit]

theorem Spares.sameOrder (hbuffer : plan.options.bufferSize = plan'.options.bufferSize)
    (hlimit : plan.options.readLimit = plan'.options.readLimit)
    (hpipe : pipesOf stdout stderr source = some pipe)
    (hpipe' : pipesOf stdout' stderr' source = some pipe)
    (hspares : Spares plan stdout stderr sink source events)
    (hspares' : Spares plan' stdout' stderr' sink' source events')
    (hrun : (create plan stdout stderr sink).run? plan events = some session)
    (hrun' : (create plan' stdout' stderr' sink').run? plan' events' = some session') :
    SameOrder source session session' := by
  have horder := hspares.keepsOrder hpipe hrun
  rw [newReader_eq hbuffer hlimit] at horder
  exact sameOrder_of_keepsOrder horder (hspares'.keepsOrder hpipe' hrun')

theorem Spares.sameTimes (hbuffer : plan.options.bufferSize = plan'.options.bufferSize)
    (hlimit : plan.options.readLimit = plan'.options.readLimit)
    (hpipe : pipesOf stdout stderr source = some pipe)
    (hpipe' : pipesOf stdout' stderr' source = some pipe)
    (hspares : Spares plan stdout stderr sink source events)
    (hspares' : Spares plan' stdout' stderr' sink' source events')
    (hrun : (create plan stdout stderr sink).run? plan events = some session)
    (hrun' : (create plan' stdout' stderr' sink').run? plan' events' = some session')
    (hprompt : isPrompt plan source (create plan stdout stderr sink) events = true)
    (hprompt' : isPrompt plan' source (create plan' stdout' stderr' sink') events' = true) :
    SameTimes source session session' := by
  have htime := hspares.keepsTime hpipe hrun hprompt
  rw [newReader_eq hbuffer hlimit] at htime
  exact sameTimes_of_keepsTime htime (hspares'.keepsTime hpipe' hrun' hprompt')

/-- Readers are independent of the sink.  Let two sessions in non-blocking mode read the
same pipe with working buffers of the same size and reads of the same size, and let in
neither of them anything but this pipe end its reader.  Whatever else differs, the other
pipe, the sink, the policy of the deliveries, the capacity of the buffer and the order of
the steps, the reader begins the same reads, they bring the same, it yields the same
messages but for identifiers and times, and it ends in the same way.  If time never
passes while the reader has something to do, all of this happens at the same times. -/
theorem readers_agree (hbuffer : plan.options.bufferSize = plan'.options.bufferSize)
    (hlimit : plan.options.readLimit = plan'.options.readLimit)
    (hpipe : pipesOf stdout stderr source = some pipe)
    (hpipe' : pipesOf stdout' stderr' source = some pipe)
    (hspares : Spares plan stdout stderr sink source events)
    (hspares' : Spares plan' stdout' stderr' sink' source events')
    (hrun : (create plan stdout stderr sink).run? plan events = some session)
    (hrun' : (create plan' stdout' stderr' sink').run? plan' events' = some session') :
    SameOrder source session session' ∧
      (isPrompt plan source (create plan stdout stderr sink) events = true →
        isPrompt plan' source (create plan' stdout' stderr' sink') events' = true →
          SameTimes source session session') := by
  constructor
  · exact hspares.sameOrder hbuffer hlimit hpipe hpipe' hspares' hrun hrun'
  · exact hspares.sameTimes hbuffer hlimit hpipe hpipe' hspares' hrun hrun'

end Pairs

/-- Two lines with a pause between them. -/
def pausedLines : PipeScript :=
  [.data [97, 10], .wait 5, .data [98, 10]]

/-- Sessions without delays, whose buffer never holds two lines. -/
def narrowPlan : Plan :=
  { promptPlan .nonBlocking (.immediate 1) with
    options := ⟨.nonBlocking, 0, 4, 4, .immediate 1, .zero⟩
    timeOfDay := fun clock => Timestamp.addMillis default (clock + 1000) }

/-- The sink of this session is slow and refuses. -/
def slowSinkStart : Session :=
  create (promptPlan .nonBlocking (.immediate 2)) (some pausedLines) none
    ⟨[⟨7, .refused (.sink "busy"), 4⟩], []⟩

/-- The buffer of this session is full after a line, and the other pipe hangs. -/
def fullBufferStart : Session :=
  create narrowPlan (some pausedLines) (some [.hang]) ⟨[], []⟩

/-- One order of the steps of the session with the slow sink. -/
def slowSinkEvents : List SessionEvent :=
  [.main, .main, .reader .stdout, .reader .stdout, .reader .stdout, .drain, .reader .stdout,
    .reader .stdout, .pass 5, .reader .stdout, .reader .stdout, .reader .stdout, .reader .stdout,
    .reader .stdout, .pass 7, .drain, .drain]

/-- One order of the steps of the session with the full buffer. -/
def fullBufferEvents : List SessionEvent :=
  [.main, .reader .stdout, .main, .reader .stderr, .reader .stdout, .reader .stdout,
    .reader .stdout, .reader .stdout, .pass 3, .pass 5, .reader .stdout, .reader .stdout,
    .reader .stdout, .reader .stdout, .reader .stdout, .join (.reader .stdout), .pass 20]

theorem readers_agree_on_paused_lines :
    ∃ session session',
      slowSinkStart.run? (promptPlan .nonBlocking (.immediate 2)) slowSinkEvents = some session ∧
      fullBufferStart.run? narrowPlan fullBufferEvents = some session' ∧
      (readerLog .stdout session.journal).map Prod.fst = [0, 0, 0, 0, 5, 5, 5, 5, 5] ∧
      session.refused = [] ∧ session'.refused.map (·.line) = [[98]] ∧
      SameOrder .stdout session session' ∧ SameTimes .stdout session session' := by
  have hview : (slowSinkStart.run? (promptPlan .nonBlocking (.immediate 2)) slowSinkEvents).map
      (fun session => ((readerLog .stdout session.journal).map Prod.fst, session.refused)) =
        some ([0, 0, 0, 0, 5, 5, 5, 5, 5], []) := by
    decide +kernel
  have hview' : (fullBufferStart.run? narrowPlan fullBufferEvents).map
      (fun session => session.refused.map (·.line)) = some [[98]] := by
    decide +kernel
  have hprompt : isPrompt (promptPlan .nonBlocking (.immediate 2)) .stdout slowSinkStart
      slowSinkEvents = true := by
    decide +kernel
  have hprompt' : isPrompt narrowPlan .stdout fullBufferStart fullBufferEvents = true := by
    decide +kernel
  obtain ⟨session, hrun, hsession⟩ := Option.map_eq_some_iff.mp hview
  obtain ⟨session', hrun', hrefused'⟩ := Option.map_eq_some_iff.mp hview'
  obtain ⟨htimes, hrefused⟩ := Prod.mk.inj hsession
  have hspares : Spares (promptPlan .nonBlocking (.immediate 2)) (some pausedLines) none
      ⟨[⟨7, .refused (.sink "busy"), 4⟩], []⟩ .stdout slowSinkEvents := by
    refine ⟨rfl, rfl, rfl, rfl, ?_, ?_, by decide⟩
    · intro other pipe hother hpipe
      cases other with
      | stdout => exact absurd rfl hother
      | stderr => exact absurd hpipe (Option.some_ne_none _).symm
    · exact forall_pipe_of_stdout (by decide)
  have hspares' : Spares narrowPlan (some pausedLines) (some [.hang]) ⟨[], []⟩ .stdout
      fullBufferEvents := by
    refine ⟨rfl, rfl, rfl, rfl, ?_, ?_, by decide⟩
    · intro other pipe hother hpipe
      cases other with
      | stdout => exact absurd rfl hother
      | stderr =>
          cases hpipe
          rfl
    · intro other pipe hpipe
      cases other <;> cases hpipe <;> decide
  obtain ⟨horder, hsame⟩ :=
    readers_agree (by rfl) (by rfl) (by rfl) (by rfl) hspares hspares' hrun hrun'
  exact ⟨session, session', hrun, hrun', htimes, hrefused, hrefused', horder, hsame hprompt hprompt'⟩

/-- One order of the steps of a session whose drain crashes in the pause after a refusal. -/
def abandonedReaderEvents : List SessionEvent :=
  [.main, .main, .reader .stdout, .reader .stdout, .reader .stdout, .reader .stdout,
    .reader .stdout, .drain, .drain, .join .drain, .reader .stdout]

/-- If the jitter is not a number, a refusal of the sink crashes the drain, and the
session is cancelled for that: the reader leaves a read that brings another line where
the sink accepts. -/
theorem readers_differ_of_unsettled_policy :
    (promptPlan .nonBlocking unsettledPolicy).options.mode = .nonBlocking ∧
      (promptPlan .nonBlocking unsettledPolicy).readyError = none ∧
      (promptPlan .nonBlocking unsettledPolicy).options.bufferSize =
        (promptPlan .nonBlocking (.immediate 2)).options.bufferSize ∧
      (promptPlan .nonBlocking unsettledPolicy).options.readLimit =
        (promptPlan .nonBlocking (.immediate 2)).options.readLimit ∧
      SinkBehaviour.neverCrashes ⟨[⟨0, .refused (.sink "busy"), 1⟩], []⟩ = true ∧
      PipeStep.cancel ∉ pausedLines ∧ SessionEvent.cancel ∉ abandonedReaderEvents ∧
      SessionEvent.cancel ∉ slowSinkEvents ∧
      isPrompt (promptPlan .nonBlocking unsettledPolicy) .stdout
        (create (promptPlan .nonBlocking unsettledPolicy) (some pausedLines) none
          ⟨[⟨0, .refused (.sink "busy"), 1⟩], []⟩) abandonedReaderEvents = true ∧
      isPrompt (promptPlan .nonBlocking (.immediate 2)) .stdout slowSinkStart slowSinkEvents =
        true ∧
      ∃ session session',
        (create (promptPlan .nonBlocking unsettledPolicy) (some pausedLines) none
          ⟨[⟨0, .refused (.sink "busy"), 1⟩], []⟩).run? (promptPlan .nonBlocking unsettledPolicy)
            abandonedReaderEvents = some session ∧
        slowSinkStart.run? (promptPlan .nonBlocking (.immediate 2)) slowSinkEvents =
          some session' ∧
        ¬ Agree ((readerLog .stdout session.journal).map Prod.snd)
          ((readerLog .stdout session'.journal).map Prod.snd) := by
  have hview : ((create (promptPlan .nonBlocking unsettledPolicy) (some pausedLines) none
      ⟨[⟨0, .refused (.sink "busy"), 1⟩], []⟩).run? (promptPlan .nonBlocking unsettledPolicy)
        abandonedReaderEvents).map (fun session =>
          ((readerLog .stdout session.journal).map Prod.snd)[4]?) =
      some (some (.ended (.reader .stdout) .finished)) := by
    decide +kernel
  have hview' : (slowSinkStart.run? (promptPlan .nonBlocking (.immediate 2)) slowSinkEvents).map
      (fun session => ((readerLog .stdout session.journal).map Prod.snd)[4]?) =
      some (some (.readDone .stdout 4 (.data [98, 10]))) := by
    decide +kernel
  obtain ⟨session, hrun, hleaves⟩ := Option.map_eq_some_iff.mp hview
  obtain ⟨session', hrun', hreads⟩ := Option.map_eq_some_iff.mp hview'
  refine ⟨rfl, rfl, rfl, rfl, rfl, by decide, by decide, by decide, by decide +kernel,
    by decide +kernel, session, session', hrun, hrun', fun hagree => ?_⟩
  exact Entry.noConfusion (hagree.eq_of_getElem? hleaves hreads)

end Session

end LogRelay
