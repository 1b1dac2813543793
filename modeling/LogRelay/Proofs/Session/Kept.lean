import LogRelay.Proofs.Session.Tasks

/-!
# What the tasks leave to one another

The clock belongs to no task.  No task takes a cancellation back, the first
error is kept by the joins, and the reporting task goes on by itself, although
every task may count something.
-/

namespace LogRelay.Session

variable {plan : Plan} {session next : Session}

/-- What the reporting task looks at is the same, whatever has been counted. -/
def SameReporting (session next : Session) : Prop :=
  next.tracer.stage = session.tracer.stage ∧ next.tracer.stopping = session.tracer.stopping

theorem cancelled_cancel (session : Session) : session.cancel.cancelled = true := by
  unfold cancel
  split
  · assumption
  · rfl

theorem SendMove.sameReporting {sending : Sending} {progress : SendProgress}
    (hsend : session.SendMove plan sending next progress) : session.SameReporting next := by
  cases hsend <;> exact ⟨rfl, rfl⟩

theorem SameReporting.of_eq (heq : next.tracer = session.tracer) : session.SameReporting next :=
  ⟨congrArg _ heq, congrArg _ heq⟩

theorem ReaderMove.leaves_others {source : Source} {reader : Reader}
    (hmove : session.ReaderMove plan source reader next) :
    next.clock = session.clock ∧ next.firstError = session.firstError ∧
      (session.cancelled = true → next.cancelled = true) ∧ session.SameReporting next := by
  cases hmove with
  | reads asked looking next hstage hgoes hread =>
      cases hread with
      | brings => exact ⟨by simp, by simp, by simp, by cases source <;> exact ⟨rfl, rfl⟩⟩
      | startsAgain | fails | crashes | waits =>
          exact ⟨by simp, by simp, by simp, .of_eq (by simp)⟩
      | cancels =>
          refine ⟨by simp, by simp, ?_, .of_eq (by simp)⟩
          intro _
          simpa using cancelled_cancel session
  | sendGoesOn sending later sent hstage hdue hsend =>
      have hsame := hsend.sameReporting
      refine ⟨by simp [hsend.keeps], by simp [hsend.keeps], by simp [hsend.keeps], ?_⟩
      cases source <;> exact hsame
  | sendOver sending sent hstage hdue hsend =>
      have hsame := hsend.sameReporting
      refine ⟨by simp [hsend.keeps], by simp [hsend.keeps], by simp [hsend.keeps], ?_⟩
      cases source <;> exact hsame
  | sendCrashes sending sent hstage hdue hsend =>
      have hsame := hsend.sameReporting
      refine ⟨by simp [hsend.keeps], by simp [hsend.keeps], by simp [hsend.keeps], ?_⟩
      rw [SameReporting, (endReader_keeps _ _ _ _).2.2.2.2.2.1]
      exact hsame
  | _ => exact ⟨by simp, by simp, by simp, .of_eq (by simp)⟩

theorem DrainMove.leaves_others {buffer : Buffer} {stage : DrainStage}
    (hmove : session.DrainMove plan buffer stage next) :
    next.clock = session.clock ∧ next.firstError = session.firstError ∧
      next.cancelled = session.cancelled ∧ session.SameReporting next := by
  cases hmove with
  | takes =>
      exact ⟨by simp [setDrain], by simp [setDrain], by simp [setDrain],
        .of_eq (by simp [setDrain])⟩
  | finishes => exact ⟨by simp, by simp, by simp, .of_eq (by simp)⟩
  | sendGoesOn sending later sent hdue hsend | sendOver sending sent hdue hsend =>
      exact ⟨hsend.keeps.1, hsend.keeps.2.2.2.2.2.2.2.2.1, hsend.keeps.2.1, hsend.sameReporting⟩
  | sendCrashes sending sent hdue hsend =>
      have hsame := hsend.sameReporting
      refine ⟨by simp [hsend.keeps], by simp [hsend.keeps], by simp [hsend.keeps], ?_⟩
      rw [SameReporting, (endDrain_keeps _ _).2.2.2.2.2.2.2.1]
      exact hsame

theorem JoinMove.leaves_others {task : Task} {result : TaskResult}
    (hmove : session.JoinMove task result next) :
    next.clock = session.clock ∧ next.firstError = session.firstError.or result.error? ∧
      (session.cancelled = true → next.cancelled = true) ∧ next.tracer = session.tracer := by
  cases hmove with
  | ends hresult => simp [hresult]
  | fails error hresult =>
      refine ⟨by simp, ?_, ?_, by simp⟩
      · rw [hresult]
        cases session.firstError <;> rfl
      · intro _
        exact cancelled_cancel _

theorem abortReader_leaves_others (session : Session) (source : Source) :
    (session.abortReader source).clock = session.clock ∧
    (session.abortReader source).cancelled = session.cancelled ∧
    (session.abortReader source).drain = session.drain ∧
    (session.abortReader source).sink = session.sink ∧
    (session.abortReader source).tracer = session.tracer ∧
    (session.abortReader source).firstError = session.firstError ∧
    (session.abortReader source).main = session.main := by
  unfold abortReader
  split
  · split <;> simp
  · simp

theorem abortDrain_leaves_others (session : Session) :
    session.abortDrain.clock = session.clock ∧
    session.abortDrain.cancelled = session.cancelled ∧
    session.abortDrain.sink = session.sink ∧
    session.abortDrain.tracer = session.tracer ∧
    session.abortDrain.firstError = session.firstError ∧
    session.abortDrain.main = session.main := by
  unfold abortDrain
  split <;> simp

theorem ready_leaves_others (plan : Plan) (session : Session) :
    (session.ready plan).clock = session.clock ∧
    (session.ready plan).firstError = session.firstError ∧
    (session.cancelled = true → (session.ready plan).cancelled = true) ∧
    (session.ready plan).sink = session.sink := by
  unfold ready
  cases plan.readyError with
  | none => simp
  | some error =>
      simp [stop, abortDrain_leaves_others, abortReader_leaves_others, cancelled_cancel]

theorem finishFlush_leaves_others (plan : Plan) (session : Session) :
    (session.finishFlush plan).clock = session.clock ∧
    (session.finishFlush plan).cancelled = session.cancelled ∧
    (session.finishFlush plan).sink = session.sink ∧
    (session.finishFlush plan).tracer = session.tracer ∧
    (session.finishFlush plan).firstError = session.firstError := by
  unfold finishFlush
  dsimp only
  split <;> simp [clean]

theorem MainMove.leaves_others {stage : MainStage} (hmove : session.MainMove plan stage next) :
    next.clock = session.clock ∧ next.firstError = session.firstError ∧
      (session.cancelled = true → next.cancelled = true) := by
  cases hmove with
  | ready =>
      obtain ⟨hclock, herror, hcancelled, -⟩ := ready_leaves_others plan session
      exact ⟨hclock, herror, hcancelled⟩
  | endsFlush => simp [finishFlush_leaves_others]
  | sendGoesOn sending later remaining sent hdue hsend => simp [hsend.keeps]
  | sendOver sending remaining sent hdue hsend => simp [hsend.keeps]
  | sendCrashes sending remaining sent hdue hsend => simp [hsend.keeps]
  | _ => simp [clean, stop]

/-- A cancelled session stays cancelled. -/
theorem Move.cancelled_mono {event : SessionEvent} (hmove : session.Move plan event next)
    (hcancelled : session.cancelled = true) : next.cancelled = true := by
  cases hmove with
  | pass => exact hcancelled
  | cancel => exact cancelled_cancel session
  | reader source reader next hlaunched hreader hmove => exact hmove.leaves_others.2.2.1 hcancelled
  | drain stage buffer next hlaunched hdrain hbuffer hmove =>
      exact hmove.leaves_others.2.2.1.trans hcancelled
  | join task result next hmain hresult hmem hmove => exact hmove.leaves_others.2.2.1 hcancelled
  | main next hmove => exact hmove.leaves_others.2.2 hcancelled
  | tracer action tracer sample? => cases sample? <;> exact hcancelled

/-- Time goes on by itself, and never back. -/
theorem Move.clock_le {event : SessionEvent} (hmove : session.Move plan event next) :
    session.clock ≤ next.clock := by
  cases hmove with
  | pass time htime => exact Nat.le_of_lt htime
  | cancel => exact Nat.le_of_eq (cancel_keeps session).1.symm
  | reader source reader next hlaunched hreader hmove =>
      exact Nat.le_of_eq hmove.leaves_others.1.symm
  | drain stage buffer next hlaunched hdrain hbuffer hmove =>
      exact Nat.le_of_eq hmove.leaves_others.1.symm
  | join task result next hmain hresult hmem hmove => exact Nat.le_of_eq hmove.leaves_others.1.symm
  | main next hmove => exact Nat.le_of_eq hmove.leaves_others.1.symm
  | tracer action tracer sample? => cases sample? <;> exact Nat.le_refl _

end LogRelay.Session
