import LogRelay.Proofs.Tracer.Sampling

/-!
# Stages of the reporting task

What a step makes of the stage that the reporting task is at.  When an interval is over, or
when it is to stop, it takes the three counters and then waits again or is finished; nothing
but its own steps brings it on.
-/

namespace LogRelay

/-- How many steps the reporting task is away from waiting or from its end. -/
def ReportStage.distance : ReportStage → Nat
  | .starting => 4
  | .taking .read _ _ => 3
  | .taking .sent _ _ => 2
  | .taking .newlines _ _ => 1
  | .waiting | .finished => 0

theorem ReportStage.eq_starting {stage : ReportStage} (hdistance : stage.distance = 4) :
    stage = .starting := by
  cases stage with
  | starting => rfl
  | taking counter soFar last => cases counter <;> simp [distance] at hdistance
  | waiting | finished => simp [distance] at hdistance

theorem ReportStage.distance_ne_zero {stage : ReportStage} (hwaiting : stage ≠ .waiting)
    (hfinished : stage ≠ .finished) : stage.distance ≠ 0 := by
  cases stage with
  | starting => exact Nat.succ_ne_zero 3
  | taking counter soFar last => cases counter <;> exact Nat.succ_ne_zero _
  | waiting => exact absurd rfl hwaiting
  | finished => exact absurd rfl hfinished

theorem ReportStage.exists_taking {stage : ReportStage} (hpos : stage.distance ≠ 0)
    (hless : stage.distance ≠ 4) : ∃ counter soFar last, stage = .taking counter soFar last := by
  cases stage with
  | starting => exact absurd rfl hless
  | taking counter soFar last => exact ⟨counter, soFar, last, rfl⟩
  | waiting | finished => exact absurd rfl hpos

namespace Tracer

variable {tracer next : Tracer} {action : Action} {sample? : Option Counters}

/-- What a step makes of the stage of the reporting task. -/
inductive Advances (tracer next : Tracer) : Action → Prop where
  | counts (counter : Counter) (amount : Nat) (hsame : next.stage = tracer.stage) :
      Advances tracer next (.record counter amount)
  | hears (hsame : next.stage = tracer.stage) : Advances tracer next .stop
  | starts (hbefore : tracer.stage = .starting) (hafter : next.stage = .waiting) :
      Advances tracer next .start
  | ticks (hbefore : tracer.stage = .waiting) : Advances tracer next .tick
  | concludes (soFar : Counters) (hbefore : tracer.stage = .waiting)
      (hafter : next.stage = .taking .read soFar true) : Advances tracer next .conclude
  | takes (counter later : Counter) (before after : Counters) (last : Bool)
      (hbefore : tracer.stage = .taking counter before last)
      (hafter : next.stage = .taking later after last)
      (hless : next.stage.distance < tracer.stage.distance) : Advances tracer next .take
  | completes (soFar : Counters) (last : Bool)
      (hbefore : tracer.stage = .taking .newlines soFar last)
      (hafter : next.stage = if last then .finished else .waiting) : Advances tracer next .take

/-- A step keeps the stage, brings the task nearer to waiting or to its end, or takes it out of
its wait. -/
theorem Step.stage_cases (hstep : tracer.Step action next sample?) :
    next.stage = tracer.stage ∨ next.stage.distance < tracer.stage.distance ∨
      tracer.stage = .waiting := by
  cases hstep with
  | records | hears => exact Or.inl rfl
  | ticks hstage | concludes hstage => exact Or.inr (Or.inr hstage)
  | starts hstage =>
      rw [hstage]
      exact Or.inr (Or.inl (Nat.succ_pos 3))
  | takesRead soFar last hstage | takesSent soFar last hstage =>
      rw [hstage]
      exact Or.inr (Or.inl (Nat.lt_succ_self _))
  | reports soFar last hstage =>
      rw [hstage]
      cases last <;> exact Or.inr (Or.inl (Nat.succ_pos 0))

theorem Step.stopping (hstep : tracer.Step action next sample?)
    (hstopping : tracer.stopping = true) : next.stopping = true := by
  cases hstep with
  | hears => rfl
  | records | starts | ticks | concludes | takesRead | takesSent | reports => exact hstopping

theorem Step.isClosing (hstep : tracer.Step action next sample?)
    (hclosing : tracer.stage.isClosing = true) : next.stage.isClosing = true := by
  cases hstep with
  | records | hears => exact hclosing
  | starts hstage | ticks hstage | concludes hstage =>
      rw [hstage] at hclosing
      exact absurd hclosing Bool.false_ne_true
  | takesRead soFar last hstage | takesSent soFar last hstage | reports soFar last hstage =>
      rw [hstage] at hclosing
      cases last with
      | true => rfl
      | false => exact absurd hclosing Bool.false_ne_true

theorem advances_of_step? (hstep : tracer.step? action = some (next, sample?)) :
    tracer.Advances next action ∧ (tracer.stopping = true → next.stopping = true) := by
  refine ⟨?_, (step_of_step? hstep).stopping⟩
  cases step_of_step? hstep with
  | records counter amount => exact .counts counter amount rfl
  | hears => exact .hears rfl
  | starts hstage => exact .starts hstage rfl
  | ticks hstage => exact .ticks hstage
  | concludes hstage => exact .concludes Counters.zero hstage rfl
  | takesRead soFar last hstage | takesSent soFar last hstage =>
      refine .takes _ _ _ _ _ hstage rfl ?_
      rw [hstage]
      exact Nat.lt_succ_self _
  | reports soFar last hstage => exact .completes soFar last hstage rfl

end Tracer

end LogRelay
