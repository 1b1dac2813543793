import LogRelay.Proofs.Session.Attempts
import LogRelay.Proofs.Session.Crashes
import LogRelay.Proofs.Session.Draining
import LogRelay.Proofs.Session.Offers
import LogRelay.Proofs.Session.Outcomes

/-!
# What a task leaves behind when it ends

A reader reads only when it has passed on every message that its framer has made.
So a reader that has ended leaves none behind, unless it has crashed.  The error
that the main task keeps is that of a task that has ended with it, and the
session is cancelled from then on.
-/

namespace LogRelay

/-- What is known of the framer of a reader at that stage, and of its end. -/
def ReaderStage.LeavesNothing (plan : Plan) (source : Source) (framer : Framer) :
    ReaderStage → Prop
  | .asking | .sending _ | .ended .crashed => True
  | .reading _ _ | .ended .finished => framer.pending = []
  | .ended (.failed error) => framer.pending = [] ∧ ∃ failure, error = .read source failure
  | .ended .aborted => plan.readyError.isSome = true

namespace Session

variable {plan : Plan} {session next : Session} {source : Source}

theorem Reader.Step.leavesNothing {reader after : Reader}
    (hstep : reader.Step plan source session after)
    (hstage : reader.stage.LeavesNothing plan source reader.framer) :
    after.stage.LeavesNothing plan source after.framer := by
  cases hstep with
  | offers | hands | brings | startsAgain | sendGoesOn | sendOver | sendCrashes | crashes => trivial
  | finishes hasking hdemand => exact (Framer.pending_of_demand_finished hdemand).1
  | begins asked hasking hdemand => exact (Framer.read_of_demand hdemand).1
  | leaves asked hreading =>
      rw [hreading] at hstage
      exact hstage
  | fails asked looking failure pipe hreading =>
      rw [hreading] at hstage
      exact ⟨hstage, failure, rfl⟩
  | cancels asked looking pipe hreading | waits asked looking _ pipe hreading =>
      rw [hreading] at hstage
      exact hstage
  | aborts hready =>
      rw [Reader.abort]
      cases hbefore : reader.stage with
      | ended result =>
          rw [hbefore] at hstage
          simpa only [hbefore] using hstage
      | asking | reading | sending => exact hready

/-- How the tasks of a session that is ready stand, and what the main task makes of
their ends. -/
structure Tidy (plan : Plan) (session : Session) : Prop where
  readers : ∀ source reader, session.reader? source = some reader →
    reader.stage.LeavesNothing plan source reader.framer
  drain : ∀ result, session.drain = some (.ended result) → result = .finished ∨ result = .crashed
  firstError : ∀ error, session.firstError = some error →
    ∃ task result, session.taskResult? task = some result ∧ result.error? = some error
  cancelled : session.firstError.isSome = true → session.cancelled = true

theorem tidy_create (plan : Plan) (stdout stderr : Option PipeScript) (sink : SinkBehaviour) :
    (create plan stdout stderr sink).Tidy plan where
  readers source reader hreader := by
    obtain ⟨pipe, -, rfl⟩ := exists_pipe_of_create hreader
    trivial
  drain result hdrain := absurd hdrain (drain_create_ne_ended plan stdout stderr sink result)
  firstError error herror := absurd herror (Option.some_ne_none error).symm
  cancelled hsome := absurd hsome Bool.false_ne_true

/-- A session is cancelled when an error is joined. -/
theorem Move.firstError_eq_or_cancelled {event : SessionEvent}
    (hmove : session.Move plan event next) :
    next.firstError = session.firstError ∨ next.cancelled = true := by
  cases hmove with
  | pass => exact Or.inl rfl
  | cancel => exact Or.inl (by simp)
  | reader source reader next hlaunched hreader hmove => exact Or.inl hmove.leaves_others.2.1
  | drain stage buffer next hlaunched hdrain hbuffer hmove => exact Or.inl hmove.leaves_others.2.1
  | join task result next hmain hresult hmem hmove =>
      cases hmove with
      | ends => exact Or.inl rfl
      | fails => exact Or.inr (cancelled_cancel _)
  | main next hmove => exact Or.inl hmove.leaves_others.2.1
  | tracer action tracer sample? => cases sample? <;> exact Or.inl rfl

theorem Tidy.drain_move {event : SessionEvent} {result : TaskResult}
    (hready : plan.readyError = none) (htidy : session.Tidy plan)
    (hmove : session.Move plan event next) (hended : next.drain = some (.ended result)) :
    result = .finished ∨ result = .crashed := by
  rcases hmove.drain_cases with hsame | ⟨stage, buffer, -, -, hmove⟩ | ⟨hsome, -⟩
  · exact htidy.drain result (hsame.symm.trans hended)
  · exact (hmove.ended_cases hended).imp_left And.left
  · simp [hready] at hsome

theorem Tidy.move {event : SessionEvent} (hready : plan.readyError = none)
    (htidy : session.Tidy plan) (hmove : session.Move plan event next) : next.Tidy plan where
  readers source after hafter := by
    obtain ⟨reader, hreader, rfl | hstep⟩ := hmove.reader_step hafter
    · exact htidy.readers source _ hreader
    · exact Reader.Step.leavesNothing hstep (htidy.readers source reader hreader)
  drain result hended := htidy.drain_move hready hmove hended
  firstError error herror := by
    rcases hmove.firstError_cases with hsame | ⟨task, result, hresult, heq⟩
    · obtain ⟨task, result, hresult, hfails⟩ := htidy.firstError error (hsame.symm.trans herror)
      exact ⟨task, result, hmove.taskResult?_of_ended hready hresult, hfails⟩
    · rw [heq, Option.or_eq_some_iff] at herror
      rcases herror with hbefore | ⟨-, hfails⟩
      · obtain ⟨task, result, hresult, hfails⟩ := htidy.firstError error hbefore
        exact ⟨task, result, hmove.taskResult?_of_ended hready hresult, hfails⟩
      · exact ⟨task, result, hmove.taskResult?_of_ended hready hresult, hfails⟩
  cancelled hsome := by
    rcases hmove.firstError_eq_or_cancelled with hsame | hcancelled
    · exact hmove.cancelled_mono (htidy.cancelled (hsame ▸ hsome))
    · exact hcancelled

/-! ## Where nothing crashes -/

/-- No task has crashed so far. -/
structure Calm (session : Session) : Prop where
  stands : session.main ≠ .crashed
  tasks : ∀ task, session.taskResult? task ≠ some .crashed

/-- What has crashed stays so. -/
theorem Calm.of_move {event : SessionEvent} (hready : plan.readyError = none) (hcalm : next.Calm)
    (hmove : session.Move plan event next) : session.Calm where
  stands hcrashed := by
    rcases hmove.main_cases with hsame | hmain
    · exact hcalm.stands (hsame.trans hcrashed)
    · exact hmain.ne_crashed hcrashed
  tasks task hcrashed := hcalm.tasks task (hmove.taskResult?_of_ended hready hcrashed)

/-- A reader that has ended has passed on all messages that its framer has made. -/
theorem Tidy.pending_eq_nil {reader : Reader} {result : TaskResult}
    (hready : plan.readyError = none) (htidy : session.Tidy plan) (hcalm : session.Calm)
    (hreader : session.reader? source = some reader) (hended : reader.stage = .ended result) :
    reader.framer.pending = [] := by
  have hstage := htidy.readers source reader hreader
  rw [hended] at hstage
  cases result with
  | finished => exact hstage
  | failed error => exact hstage.1
  | crashed =>
      refine absurd ?_ (hcalm.tasks (.reader source))
      simp only [taskResult?, hreader, hended]
  | aborted =>
      rw [ReaderStage.LeavesNothing, hready] at hstage
      exact absurd hstage Bool.false_ne_true

/-- The error that the main task keeps is that of a read. -/
theorem Tidy.exists_failed {error : Error} (hready : plan.readyError = none)
    (htidy : session.Tidy plan) (hcalm : session.Calm) (herror : session.firstError = some error) :
    ∃ source failure, error = .read source failure ∧
      session.taskResult? (.reader source) = some (.failed (.read source failure)) := by
  obtain ⟨task, result, hresult, hfails⟩ := htidy.firstError error herror
  cases task with
  | drain =>
      rcases htidy.drain result (taskResult?_drain hresult) with rfl | rfl
      · exact absurd hfails (Option.some_ne_none _).symm
      · exact absurd hresult (hcalm.tasks .drain)
  | reader source =>
      obtain ⟨reader, hreader, hended⟩ := taskResult?_reader hresult
      have hstage := htidy.readers source reader hreader
      rw [hended] at hstage
      cases result with
      | finished => exact absurd hfails (Option.some_ne_none _).symm
      | failed cause =>
          obtain ⟨-, failure, rfl⟩ := hstage
          exact ⟨source, failure, (Option.some.inj hfails).symm, hresult⟩
      | crashed => exact absurd hresult (hcalm.tasks (.reader source))
      | aborted =>
          rw [ReaderStage.LeavesNothing, hready] at hstage
          exact absurd hstage Bool.false_ne_true

/-! ## What is passed on -/

/-- Every message that the framers have yielded has been handed to the dispatcher, or it
has been offered to the buffer and, if it was accepted, handed to the dispatcher. -/
def HandsOn (plan : Plan) (session : Session) : Prop :=
  match plan.options.mode with
  | .blocking => session.handed = session.framed
  | .nonBlocking => session.offered = session.framed ∧ session.handed = session.stored

/-- What holds at every moment of a session that is ready, whatever crashes. -/
structure Diligent (plan : Plan) (session : Session) : Prop where
  account : session.Accountable plan
  tidy : session.Tidy plan
  heed : session.ReadersHeed
  blocking : plan.options.mode = .blocking → session.Unbuffered ∧ session.Forwards
  nonBlocking : plan.options.mode = .nonBlocking → session.Buffered ∧ session.HandsOver

theorem diligent_create (plan : Plan) (stdout stderr : Option PipeScript) (sink : SinkBehaviour) :
    (create plan stdout stderr sink).Diligent plan where
  account := accountable_create plan stdout stderr sink
  tidy := tidy_create plan stdout stderr sink
  heed := readersHeed_create plan stdout stderr sink
  blocking hmode := ⟨unbuffered_create hmode stdout stderr sink, ⟨rfl, rfl⟩⟩
  nonBlocking hmode :=
    ⟨buffered_create hmode stdout stderr sink, handsOver_create hmode stdout stderr sink⟩

theorem Diligent.move {event : SessionEvent} (hready : plan.readyError = none)
    (hdiligent : session.Diligent plan) (hmove : session.Move plan event next) :
    next.Diligent plan where
  account := hdiligent.account.move hready hmove
  tidy := hdiligent.tidy.move hready hmove
  heed := hdiligent.heed.move hready hmove
  blocking hmode := by
    obtain ⟨hunbuffered, hforwards⟩ := hdiligent.blocking hmode
    exact ⟨hunbuffered.move hready hmove, hforwards.move hready hunbuffered hmove⟩
  nonBlocking hmode := by
    obtain ⟨hbuffered, hhandsOver⟩ := hdiligent.nonBlocking hmode
    exact ⟨hbuffered.move hready hmove, hhandsOver.move hready hmove⟩

theorem Diligent.handsOn {result : Except Error Unit} (hdiligent : session.Diligent plan)
    (hdone : session.main = .done result) : session.HandsOn plan := by
  rw [HandsOn]
  cases hmode : plan.options.mode with
  | blocking => exact (hdiligent.blocking hmode).2.handed_eq
  | nonBlocking =>
      obtain ⟨hbuffered, -, buffer, -, hbalanced⟩ := hdiligent.nonBlocking hmode
      exact ⟨hbuffered.offers, hbalanced.handed_of_done hdone⟩

end Session

end LogRelay
