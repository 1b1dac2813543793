import LogRelay.Proofs.Tracer.Partition
import LogRelay.Proofs.Tracer.Stages
import Mathlib.Order.Nat

/-!
# The reporting task finishes

A schedule names one action after another.  It is fair if no step of the reporting task is
possible again and again without being made, the end of an interval excepted.  Once the task
has been told to stop, every fair schedule brings it to its end, however many intervals end in
between and whatever is counted meanwhile.
-/

namespace LogRelay

namespace Tracer

/-- At every stage but its wait and its end the task has a step that brings it nearer to one of
them. -/
theorem exists_nearing {stage : ReportStage} (hwaiting : stage ≠ .waiting)
    (hfinished : stage ≠ .finished) :
    ∃ action : Action, action.isOwn = true ∧ action ≠ .tick ∧
      ∀ tracer : Tracer, tracer.stage = stage →
        ∃ next sample?, tracer.step? action = some (next, sample?) ∧
          next.stage.distance < stage.distance := by
  cases stage with
  | starting =>
      refine ⟨.start, rfl, Tracer.Action.noConfusion, fun tracer hstage => ?_⟩
      refine ⟨{ tracer with stage := .waiting }, none, ?_, Nat.succ_pos 3⟩
      rw [step?, if_pos hstage]
  | taking counter soFar last =>
      refine ⟨.take, rfl, Tracer.Action.noConfusion, fun tracer hstage => ?_⟩
      refine ⟨_, _, by rw [step?, hstage], ?_⟩
      cases counter with
      | read | sent => exact Nat.lt_succ_self _
      | newlines => cases last <;> exact Nat.succ_pos 0
  | waiting => exact absurd rfl hwaiting
  | finished => exact absurd rfl hfinished

end Tracer

namespace Tracing

open Tracer

/-- The first so many actions of the schedule have been made. -/
def course (schedule : Nat → Action) (now : Nat) : Tracing :=
  after ((List.range now).map schedule)

def CanTake (tracing : Tracing) (action : Action) : Prop :=
  (tracing.tracer.step? action).isSome = true

/-- No step of the reporting task is possible again and again without being made.  Intervals
may end or not. -/
def IsFair (schedule : Nat → Action) : Prop :=
  ∀ action, action.isOwn = true → action ≠ .tick →
    (∀ now, ∃ later, now ≤ later ∧ (course schedule later).CanTake action) →
    ∀ now, ∃ later, now ≤ later ∧ (course schedule later).CanTake action ∧
      schedule later = action

variable {schedule : Nat → Action}

theorem course_succ (schedule : Nat → Action) (now : Nat) :
    course schedule (now + 1) = (course schedule now).advance (schedule now) := by
  rw [course, List.range_succ, List.map_append, List.map_singleton, after_concat]
  rfl

theorem course_succ_of_step? {now : Nat} {next : Tracer} {sample? : Option Counters}
    (hstep : (course schedule now).tracer.step? (schedule now) = some (next, sample?)) :
    (course schedule (now + 1)).tracer = next := by
  rw [course_succ, advance, hstep]

/-- What every step keeps is kept from some time on. -/
theorem course_induction_from {motive : Tracer → Prop} {first : Nat}
    (hfirst : motive (course schedule first).tracer)
    (hstep : ∀ now, first ≤ now → motive (course schedule now).tracer → ∀ next sample?,
      (course schedule now).tracer.Step (schedule now) next sample? →
        (course schedule (now + 1)).tracer = next → motive next)
    {now : Nat} (hnow : first ≤ now) : motive (course schedule now).tracer := by
  induction now, hnow using Nat.le_induction with
  | base => exact hfirst
  | succ now hnow ih =>
      have hsucc := course_succ schedule now
      rcases (course schedule now).advance_cases (schedule now) with
        ⟨hsame, -⟩ | ⟨next, sample?, hmade, hnext⟩
      · rw [hsucc, hsame]
        exact ih
      · have htracer : (course schedule (now + 1)).tracer = next := by
          rw [hsucc, hnext]
        rw [htracer]
        exact hstep now hnow ih next sample? hmade htracer

/-- While the task is at work, it comes nearer to waiting or to its end. -/
theorem IsFair.exists_nearer (hfair : IsFair schedule) {first : Nat}
    (hwaiting : (course schedule first).tracer.stage ≠ .waiting)
    (hfinished : (course schedule first).tracer.stage ≠ .finished) :
    ∃ now, first ≤ now ∧ (course schedule now).tracer.stage.distance <
      (course schedule first).tracer.stage.distance := by
  obtain ⟨action, hown, htick, hnearing⟩ := exists_nearing hwaiting hfinished
  by_contra hnever
  have hstays : ∀ now, first ≤ now →
      (course schedule now).tracer.stage = (course schedule first).tracer.stage := by
    intro now hnow
    refine course_induction_from
      (motive := fun tracer => tracer.stage = (course schedule first).tracer.stage) rfl ?_ hnow
    intro now hnow hstage next sample? hstep hnext
    rcases hstep.stage_cases with hsame | hless | hwait
    · exact hsame.trans hstage
    · rw [← hnext, hstage] at hless
      exact absurd ⟨now + 1, Nat.le_succ_of_le hnow, hless⟩ hnever
    · exact absurd (hstage.symm.trans hwait) hwaiting
  have hpossible : ∀ now, ∃ later, now ≤ later ∧ (course schedule later).CanTake action := by
    intro now
    refine ⟨max first now, Nat.le_max_right _ _, ?_⟩
    obtain ⟨next, sample?, hstep, -⟩ := hnearing _ (hstays _ (Nat.le_max_left first now))
    rw [CanTake, hstep]
    rfl
  obtain ⟨later, hlater, -, haction⟩ := hfair action hown htick hpossible first
  obtain ⟨next, sample?, hstep, hless⟩ := hnearing _ (hstays later hlater)
  rw [← haction] at hstep
  apply hnever
  refine ⟨later + 1, Nat.le_succ_of_le hlater, ?_⟩
  rw [course_succ_of_step? hstep]
  exact hless

/-- The task comes to wait or to its end again and again. -/
theorem IsFair.exists_settled (hfair : IsFair schedule) (first : Nat) :
    ∃ now, first ≤ now ∧ ((course schedule now).tracer.stage = .waiting ∨
      (course schedule now).tracer.stage = .finished) := by
  induction hdistance : (course schedule first).tracer.stage.distance using
    Nat.strong_induction_on generalizing first with
  | _ distance ih =>
      subst hdistance
      by_cases hwaiting : (course schedule first).tracer.stage = .waiting
      · exact ⟨first, Nat.le_refl _, Or.inl hwaiting⟩
      by_cases hfinished : (course schedule first).tracer.stage = .finished
      · exact ⟨first, Nat.le_refl _, Or.inr hfinished⟩
      obtain ⟨later, hlater, hless⟩ := hfair.exists_nearer hwaiting hfinished
      obtain ⟨now, hnow, hsettled⟩ := ih _ hless later rfl
      exact ⟨now, Nat.le_trans hlater hnow, hsettled⟩

/-- Once the last sample is begun, it is finished. -/
theorem IsFair.exists_finished_of_isClosing (hfair : IsFair schedule) {first : Nat}
    (hclosing : (course schedule first).tracer.stage.isClosing = true) :
    ∃ now, (course schedule now).tracer.stage = .finished := by
  obtain ⟨now, hnow, hwaiting | hfinished⟩ := hfair.exists_settled first
  · have hstill : (course schedule now).tracer.stage.isClosing = true :=
      course_induction_from (motive := fun tracer => tracer.stage.isClosing = true) hclosing
        (fun _ _ hbefore _ _ hstep _ => hstep.isClosing hbefore) hnow
    rw [hwaiting] at hstill
    exact absurd hstill Bool.false_ne_true
  · exact ⟨now, hfinished⟩

/-- The task cannot miss for ever that it is to stop. -/
theorem IsFair.exists_finished (hfair : IsFair schedule)
    (hstop : ∃ now, schedule now = .stop) :
    ∃ now, (course schedule now).tracer.stage = .finished := by
  obtain ⟨told, htold⟩ := hstop
  by_contra hnever
  have hfirst : (course schedule (told + 1)).tracer.stopping = true := by
    rw [course_succ, htold]
    rfl
  have hstopping : ∀ now, told + 1 ≤ now → (course schedule now).tracer.stopping = true :=
    fun now => course_induction_from (motive := fun tracer => tracer.stopping = true) hfirst
      fun _ _ hbefore _ _ hstep _ => hstep.stopping hbefore
  have hpossible : ∀ now, ∃ later, now ≤ later ∧ (course schedule later).CanTake .conclude := by
    intro now
    obtain ⟨later, hlater, hwaiting | hfinished⟩ := hfair.exists_settled (max (told + 1) now)
    · have hbehind := hstopping later (Nat.le_trans (Nat.le_max_left _ _) hlater)
      refine ⟨later, Nat.le_trans (Nat.le_max_right _ _) hlater, ?_⟩
      rw [CanTake, step?, if_pos ⟨hwaiting, hbehind⟩]
      rfl
    · exact absurd ⟨later, hfinished⟩ hnever
  obtain ⟨later, -, hcan, haction⟩ := hfair .conclude rfl Tracer.Action.noConfusion hpossible 0
  obtain ⟨⟨next, sample?⟩, hstep⟩ := Option.isSome_iff_exists.mp hcan
  have hclosing : (course schedule (later + 1)).tracer.stage.isClosing = true := by
    rw [course_succ_of_step? (haction ▸ hstep)]
    cases step_of_step? hstep with
    | concludes => rfl
  exact hnever (hfair.exists_finished_of_isClosing hclosing)

/-- The end of the task is final, so nothing is possible after it that could be missed. -/
theorem isFair_of_finished {first : Nat}
    (hfinished : (course schedule first).tracer.stage = .finished) : IsFair schedule := by
  intro action hown _ hpossible now
  obtain ⟨later, hlater, hcan⟩ := hpossible first
  have hstill : (course schedule later).tracer.stage = .finished := by
    refine course_induction_from (motive := fun tracer => tracer.stage = .finished) hfinished ?_
      hlater
    intro _ _ hbefore _ _ hstep _
    rcases hstep.stage_cases with hsame | hless | hwaiting
    · exact hsame.trans hbefore
    · rw [hbefore] at hless
      exact absurd hless (Nat.not_lt_zero _)
    · exact absurd (hbefore.symm.trans hwaiting) ReportStage.noConfusion
  rw [CanTake] at hcan
  cases action with
  | record | stop => exact absurd hown Bool.false_ne_true
  | start | tick | conclude | take => simp [step?, hstill] at hcan

/-! ## The last report -/

theorem stop_not_mem_of_first {told : Nat} (hfirst : ∀ before < told, schedule before ≠ .stop) :
    Action.stop ∉ (List.range told).map schedule := by
  intro hmem
  obtain ⟨before, hbefore, hstop⟩ := List.mem_map.mp hmem
  exact hfirst before (List.mem_range.mp hbefore) hstop

theorem exists_late (schedule : Nat → Action) {told now : Nat} (hle : told ≤ now) :
    ∃ late, (List.range now).map schedule = (List.range told).map schedule ++ late := by
  obtain ⟨more, rfl⟩ := Nat.exists_eq_add_of_le hle
  rw [List.range_add, List.map_append]
  exact ⟨_, rfl⟩

/-- In the end the task has reported since it was told to stop. -/
theorem IsFair.exists_last_report (hfair : IsFair schedule) {told : Nat}
    (htold : schedule told = .stop) (hfirst : ∀ before < told, schedule before ≠ .stop) :
    ∃ now, (course schedule now).tracer.stage = .finished ∧
      ∃ between last, (course schedule now).reports =
        (course schedule told).reports ++ between ++ [last] := by
  obtain ⟨now, hfinished⟩ := hfair.exists_finished ⟨told, htold⟩
  have hlater : told ≤ now := by
    by_contra hearlier
    have hgoing : (course schedule now).IsGoing := isGoing_after <| stop_not_mem_of_first
      fun before hbefore => hfirst before (Nat.lt_trans hbefore (Nat.lt_of_not_le hearlier))
    have hclosing := hgoing.2
    rw [hfinished] at hclosing
    exact absurd hclosing Bool.false_ne_true.symm
  obtain ⟨late, hlate⟩ := exists_late schedule hlater
  have hcourse : course schedule now = after ((List.range told).map schedule ++ late) := by
    rw [course, hlate]
  refine ⟨now, hfinished, ?_⟩
  rw [hcourse] at hfinished ⊢
  exact (isAccounted (stop_not_mem_of_first hfirst) late).last_late hfinished

end Tracing

end LogRelay
