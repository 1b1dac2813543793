import LogRelay.Proofs.Behaviour.Pipe
import LogRelay.Proofs.Framing.Framer
import LogRelay.Proofs.Session.Sending

/-!
# How the tasks of a session end

A reader ends because its pipe is at the end of the stream, because the session
is cancelled, or because its pipe fails or crashes.  As long as no delivery
crashes, these are the only ends of a reader, and the drain ends when the buffer
is closed.  So the error that the main task keeps is one of a pipe.
-/

namespace LogRelay

/-- Why a reader of that pipe is where it is. -/
def ReaderStage.Explained (plan : Plan) (source : Source) (whole : PipeScript) (cancelled : Bool)
    (framer : Framer) : ReaderStage → Prop
  | .asking | .sending _ => True
  | .reading _ _ => framer.pending = []
  | .ended .finished => framer.pending = [] ∧ (framer.ended = true ∨ cancelled = true)
  | .ended (.failed error) =>
    ∃ failure, .fail failure ∈ whole ∧ failure.isInterruption = false ∧
      error = .read source failure
  | .ended .crashed => .crash ∈ whole
  | .ended .aborted => plan.readyError.isSome = true

/-- The steps are steps of the pipe, or data or a wait that is left of one. -/
def PipeScript.LeftOf (whole rest : PipeScript) : Prop :=
  ∀ step ∈ rest, step ∈ whole ∨ (∃ bytes, step = .data bytes) ∨ ∃ time, step = .waitUntil time

structure Reader.Explained (plan : Plan) (source : Source) (whole : PipeScript) (cancelled : Bool)
    (reader : Reader) : Prop where
  pipe_left : whole.LeftOf reader.pipe
  stage_explained : reader.stage.Explained plan source whole cancelled reader.framer

namespace Framer

variable {framer : Framer} {cancelled : Bool}

theorem pending_of_demand_finished (hdemand : framer.demand cancelled = .finished) :
    framer.pending = [] ∧ (framer.ended = true ∨ cancelled = true) := by
  rw [demand] at hdemand
  split at hdemand
  · exact Demand.noConfusion hdemand
  · next hpending =>
      split at hdemand
      · next hover => exact ⟨hpending, Bool.or_eq_true_iff.mp hover⟩
      · exact Demand.noConfusion hdemand

end Framer

namespace PipeScript

variable {whole pipe rest : PipeScript} {clock asked : Nat} {answer : PipeAnswer}

theorem LeftOf.look (hleft : whole.LeftOf pipe) (hlook : pipe.look clock asked = (answer, rest)) :
    whole.LeftOf rest := by
  intro step hmem
  have hlooked : step ∈ (pipe.look clock asked).2 := by
    rw [hlook]
    exact hmem
  rcases mem_of_mem_look hlooked with hold | hnew
  · exact hleft step hold
  · exact Or.inr hnew

theorem reports_of_look (hlook : pipe.look clock asked = (answer, rest)) : pipe.Reports answer := by
  have hreports := reports_look clock asked pipe
  rw [hlook] at hreports
  exact hreports

theorem LeftOf.fail_mem {failure : Failure} (hleft : whole.LeftOf pipe)
    (hlook : pipe.look clock asked = (.ready (.failed failure), rest)) : .fail failure ∈ whole := by
  cases reports_of_look hlook with
  | failed failure hmem => simpa using hleft _ hmem

theorem LeftOf.crash_mem (hleft : whole.LeftOf pipe)
    (hlook : pipe.look clock asked = (.crashed, rest)) : .crash ∈ whole := by
  cases reports_of_look hlook with
  | crashed hmem => simpa using hleft _ hmem

theorem LeftOf.cancel_mem (hleft : whole.LeftOf pipe)
    (hlook : pipe.look clock asked = (.cancels, rest)) : .cancel ∈ whole := by
  cases reports_of_look hlook with
  | cancels hmem => simpa using hleft _ hmem

end PipeScript

namespace Reader

variable {plan : Plan} {source : Source} {whole : PipeScript} {cancelled later : Bool}
variable {reader after : Reader} {session : Session}

theorem Explained.mono (hreader : reader.Explained plan source whole cancelled)
    (hlater : cancelled = true → later = true) : reader.Explained plan source whole later := by
  refine ⟨hreader.pipe_left, ?_⟩
  have hstage := hreader.stage_explained
  cases hbefore : reader.stage with
  | ended result =>
      rw [hbefore] at hstage
      cases result with
      | finished => exact ⟨hstage.1, hstage.2.imp_right hlater⟩
      | failed | crashed | aborted => exact hstage
  | asking => trivial
  | reading =>
      rw [hbefore] at hstage
      exact hstage
  | sending => trivial

/-- A step of a reader, if it is no crash of a delivery. -/
theorem Step.explained (hstep : reader.Step plan source session after)
    (hreader : reader.Explained plan source whole session.cancelled)
    (hcrash : ∀ sending next, reader.stage = .sending sending →
      ¬ session.SendMove plan sending next .crashed) :
    after.Explained plan source whole session.cancelled := by
  have hpipe := hreader.pipe_left
  have hstage := hreader.stage_explained
  cases hstep with
  | offers | hands | sendGoesOn | sendOver => exact ⟨hpipe, trivial⟩
  | finishes hasking hdemand => exact ⟨hpipe, Framer.pending_of_demand_finished hdemand⟩
  | begins asked hasking hdemand => exact ⟨hpipe, (Framer.read_of_demand hdemand).1⟩
  | leaves asked hreading hcancelled =>
      rw [hreading] at hstage
      exact ⟨hpipe, hstage, Or.inr hcancelled⟩
  | brings asked looking bytes pipe hreading hlook => exact ⟨hpipe.look hlook, trivial⟩
  | startsAgain asked looking failure pipe hreading hlook hfailure =>
      exact ⟨hpipe.look hlook, trivial⟩
  | fails asked looking failure pipe hreading hlook hfailure =>
      exact ⟨hpipe.look hlook, failure, hpipe.fail_mem hlook, hfailure, rfl⟩
  | crashes asked looking pipe hreading hlook => exact ⟨hpipe.look hlook, hpipe.crash_mem hlook⟩
  | cancels asked looking pipe hreading hlook | waits asked looking _ pipe hreading hlook =>
      rw [hreading] at hstage
      exact ⟨hpipe.look hlook, hstage⟩
  | sendCrashes sending next hsending hsend => exact absurd hsend (hcrash sending next hsending)
  | aborts hready =>
      rw [Reader.abort]
      cases hbefore : reader.stage with
      | ended result => exact hreader
      | asking | reading | sending => exact ⟨hpipe, hready⟩

end Reader

namespace Session

variable {plan : Plan} {pipes : Source → Option PipeScript} {session next : Session}

/-- The readers, the drain and the error that is kept are explained by the pipes. -/
structure Explained (plan : Plan) (pipes : Source → Option PipeScript) (session : Session) :
    Prop where
  readers : ∀ source reader, session.reader? source = some reader →
    ∃ whole, pipes source = some whole ∧ reader.Explained plan source whole session.cancelled
  drain : ∀ result, session.drain = some (.ended result) →
    result = .finished ∨ result = .aborted ∧ plan.readyError.isSome = true
  firstError : ∀ error, session.firstError = some error →
    ∃ source reader result, session.reader? source = some reader ∧
      reader.stage = .ended result ∧ result.error? = some error

/-- No delivery that is under way can crash. -/
def DeliversSafely (plan : Plan) (session : Session) : Prop :=
  ∀ sending next, session.Sends sending → ¬ session.SendMove plan sending next .crashed

theorem explained_create (plan : Plan) (stdout stderr : Option PipeScript) (sink : SinkBehaviour) :
    (create plan stdout stderr sink).Explained plan (pipesOf stdout stderr) where
  readers source reader hreader := by
    obtain ⟨pipe, hpipe, rfl⟩ := exists_pipe_of_create hreader
    exact ⟨pipe, hpipe, fun step hmem => Or.inl hmem, trivial⟩
  drain result hdrain := absurd hdrain (drain_create_ne_ended plan stdout stderr sink result)
  firstError error herror := absurd herror (Option.some_ne_none error).symm

/-- The drain ends only when there is nothing left to do for it. -/
theorem DrainMove.ended {buffer : Buffer} {stage : DrainStage} {result : TaskResult}
    (hmove : session.DrainMove plan buffer stage next)
    (hcrash : ∀ sending next, stage = .sending sending →
      ¬ session.SendMove plan sending next .crashed)
    (hended : next.drain = some (.ended result)) : result = .finished := by
  cases hmove with
  | takes => simp [setDrain] at hended
  | finishes =>
      rw [(endDrain_keeps _ _).2.2.2.2.1] at hended
      cases hended
      rfl
  | sendGoesOn => simp [setDrain] at hended
  | sendOver => simp [setDrain] at hended
  | sendCrashes sending sent hdue hsend => exact absurd hsend (hcrash sending sent rfl)

/-- What has ended stays as it is. -/
theorem Move.reader?_of_ended {event : SessionEvent} {source : Source} {reader : Reader}
    {result : TaskResult} (hmove : session.Move plan event next)
    (hreader : session.reader? source = some reader) (hended : reader.stage = .ended result) :
    next.reader? source = some reader := by
  have hsome := hmove.reader?_isSome source
  rw [hreader] at hsome
  obtain ⟨after, hafter⟩ := Option.isSome_iff_exists.mp hsome
  obtain ⟨before, hbefore, rfl | hstep⟩ := hmove.reader_step hafter
  · exact hafter.trans (hbefore.symm.trans hreader)
  · obtain rfl : before = reader := Option.some.inj (hbefore.symm.trans hreader)
    cases hstep with
    | aborts hready =>
        rw [hafter, Reader.abort, hended]
    | _ => simp_all

theorem taskResult?_reader {source : Source} {result : TaskResult}
    (hresult : session.taskResult? (.reader source) = some result) :
    ∃ reader, session.reader? source = some reader ∧ reader.stage = .ended result := by
  rw [taskResult?] at hresult
  split at hresult
  · next reader hreader =>
      split at hresult
      · next ended hstage =>
          cases hresult
          exact ⟨reader, hreader, hstage⟩
      · exact absurd hresult (Option.some_ne_none _).symm
  · exact absurd hresult (Option.some_ne_none _).symm

theorem taskResult?_drain {result : TaskResult}
    (hresult : session.taskResult? .drain = some result) :
    session.drain = some (.ended result) := by
  rw [taskResult?] at hresult
  split at hresult
  · next ended hdrain =>
      cases hresult
      exact hdrain
  · exact absurd hresult (Option.some_ne_none _).symm

/-- A drain that has ended does not come back. -/
theorem Move.drain_of_ended {event : SessionEvent} {result : TaskResult}
    (hready : plan.readyError = none) (hmove : session.Move plan event next)
    (hended : session.drain = some (.ended result)) : next.drain = some (.ended result) := by
  rcases hmove.drain_cases with hsame | ⟨stage, buffer, hdrain, -, hmove⟩ | ⟨hsome, -⟩
  · exact hsame.trans hended
  · cases Option.some.inj (hdrain.symm.trans hended)
    exact absurd hmove.counts.1 Nat.zero_ne_one
  · simp [hready] at hsome

/-- How a task has ended does not change. -/
theorem Move.taskResult?_of_ended {event : SessionEvent} {task : Task} {result : TaskResult}
    (hready : plan.readyError = none) (hmove : session.Move plan event next)
    (hresult : session.taskResult? task = some result) : next.taskResult? task = some result := by
  cases task with
  | drain =>
      have hdrain := hmove.drain_of_ended hready (taskResult?_drain hresult)
      simp only [taskResult?, hdrain]
  | reader source =>
      obtain ⟨reader, hreader, hended⟩ := taskResult?_reader hresult
      simp only [taskResult?, hmove.reader?_of_ended hreader hended, hended]

theorem Move.firstError_cases {event : SessionEvent} (hmove : session.Move plan event next) :
    next.firstError = session.firstError ∨
      ∃ task result, session.taskResult? task = some result ∧
        next.firstError = session.firstError.or result.error? := by
  cases hmove with
  | pass => exact Or.inl rfl
  | cancel => exact Or.inl (by simp)
  | reader source reader next hlaunched hreader hmove => exact Or.inl hmove.leaves_others.2.1
  | drain stage buffer next hlaunched hdrain hbuffer hmove => exact Or.inl hmove.leaves_others.2.1
  | join task result next hmain hresult hmem hmove =>
      exact Or.inr ⟨task, result, hresult, hmove.leaves_others.2.1⟩
  | main next hmove => exact Or.inl hmove.leaves_others.2.1
  | tracer action tracer sample? => cases sample? <;> exact Or.inl rfl

/-- An error that has been joined is not forgotten. -/
theorem Move.firstError_mono {event : SessionEvent} (hmove : session.Move plan event next)
    (herror : session.firstError.isSome = true) : next.firstError.isSome = true := by
  rcases hmove.firstError_cases with heq | ⟨task, result, -, heq⟩
  · rw [heq]
    exact herror
  · rw [heq, Option.isSome_or, herror, Bool.true_or]

theorem Explained.readers_move {event : SessionEvent} (hsession : session.Explained plan pipes)
    (hcrash : session.DeliversSafely plan) (hmove : session.Move plan event next) (source : Source)
    (after : Reader) (hafter : next.reader? source = some after) :
    ∃ whole, pipes source = some whole ∧ after.Explained plan source whole next.cancelled := by
  obtain ⟨reader, hreader, hstep⟩ := hmove.reader_step hafter
  obtain ⟨whole, hwhole, hexplained⟩ := hsession.readers source reader hreader
  refine ⟨whole, hwhole, Reader.Explained.mono ?_ hmove.cancelled_mono⟩
  rcases hstep with rfl | hstep
  · exact hexplained
  · exact hstep.explained hexplained fun sending next hstage =>
      hcrash sending next (.reader source reader hreader hstage)

theorem Explained.drain_move {event : SessionEvent} (hready : plan.readyError = none)
    (hsession : session.Explained plan pipes) (hcrash : session.DeliversSafely plan)
    (hmove : session.Move plan event next) (result : TaskResult)
    (hresult : next.drain = some (.ended result)) : result = .finished := by
  rcases hmove.drain_cases with heq | ⟨stage, buffer, hdrain, -, hmove⟩ | ⟨hsome, -⟩
  · rcases hsession.drain result (heq.symm.trans hresult) with hfinished | ⟨-, hsome⟩
    · exact hfinished
    · simp [hready] at hsome
  · apply hmove.ended _ hresult
    rintro sending sent rfl
    exact hcrash sending sent (.drain hdrain)
  · simp [hready] at hsome

theorem Explained.move {event : SessionEvent} (hready : plan.readyError = none)
    (hsession : session.Explained plan pipes) (hcrash : session.DeliversSafely plan)
    (hmove : session.Move plan event next) : next.Explained plan pipes where
  readers := hsession.readers_move hcrash hmove
  drain result hresult := Or.inl (hsession.drain_move hready hcrash hmove result hresult)
  firstError error herror := by
    have hold : session.firstError = some error →
        ∃ source reader result, next.reader? source = some reader ∧
          reader.stage = .ended result ∧ result.error? = some error := by
      intro hbefore
      obtain ⟨source, reader, result, hreader, hended, hresult⟩ := hsession.firstError error hbefore
      exact ⟨source, reader, result, hmove.reader?_of_ended hreader hended, hended, hresult⟩
    rcases hmove.firstError_cases with heq | ⟨task, result, htask, heq⟩
    · exact hold (heq.symm.trans herror)
    · rw [heq, Option.or_eq_some_iff] at herror
      rcases herror with hbefore | ⟨-, hresult⟩
      · exact hold hbefore
      · cases task with
        | drain =>
            rcases hsession.drain result (taskResult?_drain htask) with rfl | ⟨-, hsome⟩
            · exact absurd hresult (Option.some_ne_none _).symm
            · simp [hready] at hsome
        | reader source =>
            obtain ⟨reader, hreader, hended⟩ := taskResult?_reader htask
            exact ⟨source, reader, result, hmove.reader?_of_ended hreader hended, hended, hresult⟩

/-! ## Pipes that do not fail -/

/-- A reader whose pipe does not fail has finished if it has ended. -/
theorem Explained.reader_finished {source : Source} {result : TaskResult}
    (hready : plan.readyError = none) (hsession : session.Explained plan pipes)
    (hsound : ∀ pipe, pipes source = some pipe → pipe.isSound = true)
    (hresult : session.taskResult? (.reader source) = some result) : result = .finished := by
  obtain ⟨reader, hreader, hended⟩ := taskResult?_reader hresult
  obtain ⟨whole, hwhole, hexplained⟩ := hsession.readers source reader hreader
  have hnone := PipeScript.isSound_iff.mp (hsound whole hwhole)
  have hstage := hexplained.stage_explained
  rw [hended] at hstage
  cases result with
  | finished => rfl
  | failed error =>
      obtain ⟨failure, hmem, hfailure, -⟩ := hstage
      have hfails := hnone _ hmem
      simp [PipeStep.isFailure, hfailure] at hfails
  | crashed => exact absurd (hnone _ hstage) Bool.false_ne_true.symm
  | aborted =>
      rw [ReaderStage.Explained, hready] at hstage
      exact absurd hstage Bool.false_ne_true

/-- Where no pipe fails, every task that has ended has finished. -/
theorem Explained.eq_finished {task : Task} {result : TaskResult} (hready : plan.readyError = none)
    (hsession : session.Explained plan pipes)
    (hsound : ∀ source pipe, pipes source = some pipe → pipe.isSound = true)
    (hresult : session.taskResult? task = some result) : result = .finished := by
  cases task with
  | drain =>
      rcases hsession.drain result (taskResult?_drain hresult) with hfinished | ⟨-, hsome⟩
      · exact hfinished
      · simp [hready] at hsome
  | reader source => exact hsession.reader_finished hready (hsound source) hresult

theorem Explained.firstError_eq_none (hready : plan.readyError = none)
    (hsession : session.Explained plan pipes)
    (hsound : ∀ source pipe, pipes source = some pipe → pipe.isSound = true) :
    session.firstError = none := by
  cases herror : session.firstError with
  | none => rfl
  | some error =>
      obtain ⟨source, reader, result, hreader, hended, hresult⟩ := hsession.firstError error herror
      have htask : session.taskResult? (.reader source) = some result := by
        simp only [taskResult?, hreader, hended]
      rw [hsession.eq_finished hready hsound htask] at hresult
      exact absurd hresult (Option.some_ne_none _).symm

/-! ## Sessions that are not cancelled -/

theorem ReaderMove.cancelled_cases {source : Source} {reader : Reader}
    (hmove : session.ReaderMove plan source reader next) :
    next.cancelled = session.cancelled ∨
      ∃ asked pipe, reader.pipe.look session.clock asked = (.cancels, pipe) := by
  cases hmove with
  | reads asked looking next hstage hgoes hread =>
      cases hread with
      | cancels pipe hlook => exact Or.inr ⟨asked, pipe, hlook⟩
      | brings | startsAgain | fails | crashes | waits => exact Or.inl (by simp)
  | sendGoesOn sending later sent hstage hdue hsend => exact Or.inl (by simp [hsend.keeps])
  | sendOver sending sent hstage hdue hsend => exact Or.inl (by simp [hsend.keeps])
  | sendCrashes sending sent hstage hdue hsend => exact Or.inl (by simp [hsend.keeps])
  | _ => exact Or.inl (by simp)

theorem MainMove.cancelled_eq {stage : MainStage} (hready : plan.readyError = none)
    (hmove : session.MainMove plan stage next) : next.cancelled = session.cancelled := by
  cases hmove with
  | refuses | launches | flushes | skipsFlush | stops | finishes => rfl
  | ready => simp [Session.ready, hready]
  | endsFlush => exact (finishFlush_leaves_others plan session).2.1
  | hands => simp
  | sendGoesOn sending later remaining sent hdue hsend => exact hsend.keeps.2.1
  | sendOver sending remaining sent hdue hsend => exact hsend.keeps.2.1
  | sendCrashes sending remaining sent hdue hsend => exact hsend.keeps.2.1

/-- Where neither the outside nor a pipe cancels the session, it is cancelled only
with the error of a task. -/
theorem Explained.cancelled_cases {event : SessionEvent} (hready : plan.readyError = none)
    (hsession : session.Explained plan pipes)
    (hpipes : ∀ source pipe, pipes source = some pipe → .cancel ∉ pipe)
    (hevent : event ≠ .cancel) (hmove : session.Move plan event next) :
    next.cancelled = session.cancelled ∨ next.firstError.isSome = true := by
  cases hmove with
  | pass => exact Or.inl rfl
  | cancel => exact absurd rfl hevent
  | reader source reader next hlaunched hreader hmove =>
      rcases hmove.cancelled_cases with heq | ⟨asked, pipe, hlook⟩
      · exact Or.inl heq
      · obtain ⟨whole, hwhole, hexplained⟩ := hsession.readers source reader hreader
        exact absurd (hexplained.pipe_left.cancel_mem hlook) (hpipes source whole hwhole)
  | drain stage buffer next hlaunched hdrain hbuffer hmove => exact Or.inl hmove.leaves_others.2.2.1
  | join task result next hmain hresult hmem hmove =>
      cases hmove with
      | ends => exact Or.inl rfl
      | fails => exact Or.inr rfl
  | main next hmove => exact Or.inl (hmove.cancelled_eq hready)
  | tracer action tracer sample? => cases sample? <;> exact Or.inl rfl

end Session

end LogRelay
