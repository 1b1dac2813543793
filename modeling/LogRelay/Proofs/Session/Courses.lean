import LogRelay.Proofs.Session.Progress
import LogRelay.Session.Report

/-!
# Fair courses come to an end

A schedule names one step after another, and the course of a session makes those
that are possible.  A schedule is fair if time does not stop and if no step of a
task is possible again and again without being made.  In every fair course the
main task comes to its end, unless a pipe hangs and the session is not
cancelled: the work becomes less until nothing is left of it.
-/

namespace LogRelay

/-- The step is made by the session itself.  Time, the outside and the ends of
the intervals of the tracer are not its own. -/
def SessionEvent.isOwn : SessionEvent → Bool
  | .pass _ | .cancel | .tracer .tick => false
  | _ => true

/-- One step after another, whether possible or not. -/
abbrev Schedule := Nat → SessionEvent

namespace Session

/-- The states of the session; a step that is not possible is passed over. -/
def course (plan : Plan) (start : Session) (schedule : Schedule) : Nat → Session
  | 0 => start
  | time + 1 =>
    ((course plan start schedule time).step? plan (schedule time)).getD
      (course plan start schedule time)

/-- The step is possible, and the session is not over. -/
def CanTake (plan : Plan) (session : Session) (event : SessionEvent) : Prop :=
  session.isOver = false ∧ (session.step? plan event).isSome = true

/-- Unless the session is over, time goes on, and no task is kept waiting for
ever by the others. -/
structure Fair (plan : Plan) (start : Session) (schedule : Schedule) : Prop where
  time_passes : ∀ time, ∃ now, time ≤ (course plan start schedule now).clock ∨
    (course plan start schedule now).isOver = true
  takes_turns : ∀ event, event.isOwn = true →
    (∀ now, ∃ later, now ≤ later ∧ (course plan start schedule later).CanTake plan event) →
    ∀ now, ∃ later, now ≤ later ∧ (course plan start schedule later).CanTake plan event ∧
      schedule later = event

variable {plan : Plan} {start session next : Session} {schedule : Schedule}

/-! ## States of a course -/

theorem course_succ_cases (plan : Plan) (start : Session) (schedule : Schedule) (now : Nat) :
    course plan start schedule (now + 1) = course plan start schedule now ∨
      (course plan start schedule now).step? plan (schedule now) =
        some (course plan start schedule (now + 1)) := by
  rw [course]
  cases (course plan start schedule now).step? plan (schedule now) with
  | none => exact Or.inl rfl
  | some next => exact Or.inr rfl

theorem course_succ_of_isSome {now : Nat}
    (hstep : ((course plan start schedule now).step? plan (schedule now)).isSome = true) :
    (course plan start schedule now).step? plan (schedule now) =
      some (course plan start schedule (now + 1)) := by
  obtain ⟨next, hnext⟩ := Option.isSome_iff_exists.mp hstep
  rw [course, hnext]
  rfl

/-- What the steps of a course keep is not lost later. -/
theorem course_induction_from {motive : Session → Prop} {first : Nat}
    (hfirst : motive (course plan start schedule first))
    (hmove : ∀ now next, motive (course plan start schedule now) →
      (course plan start schedule now).Move plan (schedule now) next → motive next)
    {now : Nat} (hnow : first ≤ now) : motive (course plan start schedule now) := by
  induction now, hnow using Nat.le_induction with
  | base => exact hfirst
  | succ now hnow ih =>
      rcases course_succ_cases plan start schedule now with hsame | hstep
      · rw [hsame]
        exact ih
      · exact hmove now _ ih (move_of_step? hstep)

/-- What the start satisfies and every step keeps is true throughout the course. -/
theorem course_induction {motive : Session → Prop} (hstart : motive start)
    (hmove : ∀ now next, motive (course plan start schedule now) →
      (course plan start schedule now).Move plan (schedule now) next → motive next)
    (now : Nat) : motive (course plan start schedule now) :=
  course_induction_from hstart hmove (Nat.zero_le now)

theorem Move.isOver {event : SessionEvent} (hover : session.isOver = true)
    (hmove : session.Move plan event next) : next.isOver = true := by
  rcases hmove.main_cases with hmain | hmove
  · rw [Session.isOver, hmain]
    exact hover
  · generalize hmain : session.main = stage at hmove
    cases hmove <;> simp [Session.isOver, hmain] at hover

/-- A course that is over is fair from then on, whatever the schedule says. -/
theorem fair_of_isOver {now : Nat} (hover : (course plan start schedule now).isOver = true) :
    Fair plan start schedule where
  time_passes time := ⟨now, Or.inr hover⟩
  takes_turns event hown hpossible := by
    obtain ⟨later, hlater, hgoing, -⟩ := hpossible now
    have hstill := course_induction_from (motive := fun session => session.isOver = true) hover
      (fun _ _ hbefore hmove => hmove.isOver hbefore) hlater
    exact absurd (hgoing.symm.trans hstill) Bool.false_ne_true

/-- The schedule that makes those steps first. -/
def scheduleOf (events : List SessionEvent) : Schedule :=
  fun time => events.getD time .main

theorem scheduleOf_ne {event : SessionEvent} {events : List SessionEvent} (hmain : event ≠ .main)
    (hevents : event ∉ events) (now : Nat) : scheduleOf events now ≠ event := by
  rw [scheduleOf, List.getD_eq_getElem?_getD]
  cases hevent : events[now]? with
  | none => exact hmain.symm
  | some made =>
      rintro rfl
      exact hevents (List.mem_of_getElem? hevent)

theorem course_succ_eq (plan : Plan) (start : Session) (schedule : Schedule) (now : Nat) :
    course plan start schedule (now + 1) =
      course plan (course plan start schedule 1) (fun time => schedule (time + 1)) now := by
  induction now with
  | zero => rfl
  | succ now ih =>
      change ((course plan start schedule (now + 1)).step? plan (schedule (now + 1))).getD
        (course plan start schedule (now + 1)) = _
      rw [ih]
      rfl

/-- A run is the beginning of a course. -/
theorem course_scheduleOf {last : Session} {events : List SessionEvent}
    (hrun : start.run? plan events = some last) :
    course plan start (scheduleOf events) events.length = last := by
  induction events generalizing start with
  | nil => exact Option.some.inj hrun
  | cons event rest ih =>
      simp only [run?, Option.bind_eq_bind, Option.bind_eq_some_iff] at hrun
      obtain ⟨next, hstep, hrest⟩ := hrun
      have hfirst : course plan start (scheduleOf (event :: rest)) 1 = next := by
        simp only [course, scheduleOf, List.getD_cons_zero, hstep, Option.getD_some]
      rw [List.length_cons, course_succ_eq, hfirst]
      exact ih hrest

/-- A course is fair if its schedule begins with a run after which it is over. -/
theorem fair_scheduleOf {last : Session} {events : List SessionEvent}
    (hrun : start.run? plan events = some last) (hover : last.isOver = true) :
    Fair plan start (scheduleOf events) := by
  apply fair_of_isOver
  rw [course_scheduleOf hrun]
  exact hover

theorem main_of_finished (hverdict : session.verdict = .finished) :
    session.main = .done (.ok ()) := by
  rw [verdict] at hverdict
  split at hverdict
  · assumption
  · cases hverdict
  · cases hverdict
  · cases hverdict

theorem main_of_verdict {error : Error} (hverdict : session.verdict = .failed error) :
    session.main = .done (.error error) := by
  rw [verdict] at hverdict
  split at hverdict
  · exact Verdict.noConfusion hverdict
  · next hmain =>
      obtain rfl := Verdict.failed.inj hverdict
      exact hmain
  · exact Verdict.noConfusion hverdict
  · exact Verdict.noConfusion hverdict

/-- A session without delays, with a buffer of three bytes. -/
def promptPlan (mode : Mode) (policy : RetryPolicy) : Plan where
  options := ⟨mode, 3, 4, 4, policy, .zero⟩
  cleanup := .zero
  readyError := none
  runIds := fun _ => RunId.ofBits
  draws := id
  timeOfDay := fun clock => Timestamp.addMillis default clock

/-- Two attempts without a pause, and a jitter that is not a number. -/
def unsettledPolicy : RetryPolicy :=
  { RetryPolicy.immediate 2 with jitter := .nan }

/-! ## Descent -/

/-- Numbers that do not grow from some time on are the same from some time on. -/
theorem exists_constant (measure : Nat → Nat) {first : Nat}
    (hanti : ∀ now, first ≤ now → measure (now + 1) ≤ measure now) :
    ∃ least, first ≤ least ∧ ∀ now, least ≤ now → measure now = measure least := by
  have hsome : ∃ value, ∃ least, first ≤ least ∧ measure least = value :=
    ⟨measure first, first, Nat.le_refl _, rfl⟩
  classical
  obtain ⟨least, hleast, hvalue⟩ := Nat.find_spec hsome
  refine ⟨least, hleast, fun now hnow => ?_⟩
  have hle : measure now ≤ measure least := by
    induction now, hnow using Nat.le_induction with
    | base => exact Nat.le_refl _
    | succ now hnow ih => exact Nat.le_trans (hanti now (Nat.le_trans hleast hnow)) ih
  have hmin := Nat.find_min' hsome ⟨now, Nat.le_trans hleast hnow, rfl⟩
  omega

/-- A measure that the steps of the course never raise cannot be lowered for ever.
So a fair course is over, unless it comes to where no own step lowers it. -/
theorem Fair.descent (measure : Session → Nat) {first : Nat} (hfair : Fair plan start schedule)
    (hgoing : ∀ now, (course plan start schedule now).isOver = false)
    (hanti : ∀ now, first ≤ now → measure (course plan start schedule (now + 1)) ≤
      measure (course plan start schedule now))
    (hlowers : ∀ now, first ≤ now →
      (∀ later, now ≤ later → measure (course plan start schedule later) =
        measure (course plan start schedule now)) →
      ∃ event since, event.isOwn = true ∧ now ≤ since ∧
        (∀ later, since ≤ later →
          ((course plan start schedule later).step? plan event).isSome = true) ∧
        ∀ later, since ≤ later → schedule later = event →
          ((course plan start schedule later).step? plan event).isSome = true →
          measure (course plan start schedule (later + 1)) <
            measure (course plan start schedule later)) : False := by
  obtain ⟨least, hfirst, hconstant⟩ :=
    exists_constant (fun now => measure (course plan start schedule now)) hanti
  obtain ⟨event, since, hown, hsince, hpossible, hless⟩ := hlowers least hfirst hconstant
  have hagain : ∀ now, ∃ later, now ≤ later ∧
      (course plan start schedule later).CanTake plan event := by
    intro now
    exact ⟨max now since, Nat.le_max_left _ _, hgoing _, hpossible _ (Nat.le_max_right _ _)⟩
  obtain ⟨later, hlater, htake, hevent⟩ := hfair.takes_turns event hown hagain since
  have hdrop := hless later hlater hevent htake.2
  rw [hconstant later (Nat.le_trans hsince hlater),
    hconstant (later + 1) (Nat.le_succ_of_le (Nat.le_trans hsince hlater))] at hdrop
  exact Nat.lt_irrefl _ hdrop

end Session

end LogRelay
