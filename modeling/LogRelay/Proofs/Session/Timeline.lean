import LogRelay.Proofs.Session.Courses
import LogRelay.Session.Timeline

/-!
# The timeline is one order of the steps

Whatever the timeline chooses next is a step of the session.  So what is true of
every order of the steps is true of the sessions that are run.
-/

namespace LogRelay.SessionTimeline

variable {plan : Plan} {limit : Nat} {timeline next : SessionTimeline}

/-- The events that the timeline chooses from.  It cancels the session only when it has
been told to, and time passes up to the next time that something waits for, when no task
can go on. -/
inductive Chooses (plan : Plan) (timeline : SessionTimeline) : SessionEvent → Prop where
  | cancels (hcancel : timeline.cancelAt.isSome = true) : Chooses plan timeline .cancel
  | works (event : SessionEvent) (hcancel : event ≠ .cancel) (hpass : ∀ time, event ≠ .pass time) :
      Chooses plan timeline event
  | passes (time : Nat) (hgoing : timeline.isOver = false) (hstarted : timeline.isStarting = false)
      (hidle : timeline.stepTasks? plan = none)
      (hdue : ((timeline.dueTimes plan).filter (timeline.session.clock < ·)).min? = some time) :
      Chooses plan timeline (.pass time)

/-- The session makes one step that the timeline has chosen. -/
def Steps (plan : Plan) (timeline next : SessionTimeline) : Prop :=
  ∃ event, Chooses plan timeline event ∧
    timeline.session.step? plan event = some next.session ∧
    (timeline.cancelAt = none → next.cancelAt = none)

theorem steps_of_step? {event : SessionEvent} (hchooses : Chooses plan timeline event)
    (hstep : timeline.step? plan event = some next) : Steps plan timeline next := by
  obtain ⟨session, hsession, rfl⟩ := Option.map_eq_some_iff.mp hstep
  exact ⟨event, hchooses, hsession, id⟩

/-- What the timeline itself keeps in mind is no matter of the session. -/
theorem steps_of_map {event : SessionEvent} {update : SessionTimeline → SessionTimeline}
    (hchooses : Chooses plan timeline event)
    (hstep : (timeline.step? plan event).map update = some next)
    (hsession : ∀ timeline, (update timeline).session = timeline.session)
    (hcancel : ∀ timeline, timeline.cancelAt = none → (update timeline).cancelAt = none) :
    Steps plan timeline next := by
  obtain ⟨after, hafter, rfl⟩ := Option.map_eq_some_iff.mp hstep
  obtain ⟨made, hmade, hnext, hkeeps⟩ := steps_of_step? hchooses hafter
  exact ⟨made, hmade, by rw [hsession, hnext], fun hnone => hcancel after (hkeeps hnone)⟩

theorem steps_of_findSome? {α : Type} {choices : List α} {choose : α → Option SessionTimeline}
    (hchoices : ∀ choice ∈ choices, ∀ next, choose choice = some next → Steps plan timeline next)
    (hstep : choices.findSome? choose = some next) : Steps plan timeline next := by
  obtain ⟨choice, hmem, hchoice⟩ := List.exists_of_findSome?_eq_some hstep
  exact hchoices choice hmem next hchoice

theorem steps_of_stepMain? (hstep : timeline.stepMain? plan = some next) :
    Steps plan timeline next := by
  apply steps_of_findSome? _ hstep
  intro event hmem after hafter
  rcases List.mem_append.mp hmem with hjoin | hmain
  · obtain ⟨task, -, rfl⟩ := List.mem_map.mp hjoin
    exact steps_of_step?
      (.works _ SessionEvent.noConfusion fun _ => SessionEvent.noConfusion) hafter
  · obtain rfl := List.mem_singleton.mp hmain
    exact steps_of_step?
      (.works _ SessionEvent.noConfusion fun _ => SessionEvent.noConfusion) hafter

theorem steps_of_stepTasks? (hstep : timeline.stepTasks? plan = some next) :
    Steps plan timeline next := by
  apply steps_of_findSome? _ hstep
  intro task _ after hafter
  have hchooses : Chooses plan timeline (event task) := by
    cases task <;> exact .works _ SessionEvent.noConfusion fun _ => SessionEvent.noConfusion
  exact steps_of_map hchooses hafter (fun _ => rfl) fun _ => id

theorem steps_of_stepCancel? (hstep : timeline.stepCancel? plan = some next) :
    Steps plan timeline next := by
  rw [stepCancel?] at hstep
  split at hstep
  · next time htime =>
      split at hstep
      · exact steps_of_map (.cancels (Option.isSome_of_eq_some htime)) hstep (fun _ => rfl)
          fun _ _ => rfl
      · cases hstep
  · cases hstep

theorem chooses_tracer (plan : Plan) (timeline : SessionTimeline) (action : Tracer.Action) :
    Chooses plan timeline (.tracer action) :=
  .works _ SessionEvent.noConfusion fun _ => SessionEvent.noConfusion

theorem steps_of_stepTracer? (hstep : timeline.stepTracer? plan = some next) :
    Steps plan timeline next := by
  rw [stepTracer?] at hstep
  split at hstep
  · exact steps_of_step? (chooses_tracer plan timeline _) hstep
  · exact steps_of_step? (chooses_tracer plan timeline _) hstep
  · split at hstep
    · exact steps_of_step? (chooses_tracer plan timeline _) hstep
    · split at hstep
      · exact steps_of_map (chooses_tracer plan timeline _) hstep (fun _ => rfl) fun _ => id
      · cases hstep
  · cases hstep

theorem steps_of_stepTime? (hgoing : timeline.isOver = false)
    (hstarted : timeline.isStarting = false) (hidle : timeline.stepTasks? plan = none)
    (hstep : timeline.stepTime? plan limit = some next) : Steps plan timeline next := by
  rw [stepTime?] at hstep
  split at hstep
  · next time htime =>
      split at hstep
      · exact steps_of_step? (.passes time hgoing hstarted hidle htime) hstep
      · cases hstep
  · cases hstep

theorem steps_of_advance? (hstep : timeline.advance? plan limit = some next) :
    Steps plan timeline next := by
  rw [advance?] at hstep
  split at hstep
  · cases hstep
  · next hover =>
      split at hstep
      · exact steps_of_stepMain? hstep
      · next hstarting =>
          have hgoing := Bool.eq_false_iff.mpr hover
          have hstarted := Bool.eq_false_iff.mpr hstarting
          simp only [List.findSome?_cons, List.findSome?_nil] at hstep
          split at hstep
          · next hcancel => exact steps_of_stepCancel? (hcancel.trans hstep)
          · split at hstep
            · next htasks => exact steps_of_stepTasks? (htasks.trans hstep)
            · next hidle =>
                split at hstep
                · next htracer => exact steps_of_stepTracer? (htracer.trans hstep)
                · split at hstep
                  · next hmain => exact steps_of_stepMain? (hmain.trans hstep)
                  · split at hstep
                    · next htime =>
                        exact steps_of_stepTime? hgoing hstarted hidle (htime.trans hstep)
                    · cases hstep

/-- The steps that the timeline makes, with what the choice of each of them says. -/
theorem exists_run_advanceFor {holds : SessionTimeline → List SessionEvent → Prop}
    (hnone : ∀ timeline, holds timeline [])
    (hsome : ∀ timeline next event rest, Chooses plan timeline event →
      timeline.session.step? plan event = some next.session →
      (timeline.cancelAt = none → next.cancelAt = none) → holds next rest →
      holds timeline (event :: rest))
    (fuel : Nat) (timeline : SessionTimeline) :
    ∃ events, timeline.session.run? plan events =
      some (advanceFor plan limit fuel timeline).session ∧ holds timeline events := by
  induction fuel generalizing timeline with
  | zero => exact ⟨[], rfl, hnone timeline⟩
  | succ fuel ih =>
      rw [advanceFor]
      split
      · next after hafter =>
          obtain ⟨event, hchooses, hevent, hcancel⟩ := steps_of_advance? hafter
          obtain ⟨events, hevents, hholds⟩ := ih after
          refine ⟨event :: events, ?_, hsome timeline after event events hchooses hevent hcancel hholds⟩
          rw [Session.run?, hevent]
          exact hevents
      · exact ⟨[], rfl, hnone timeline⟩

/-- The session that is run has made steps that are possible, one after the other. -/
theorem exists_run (plan : Plan) (limit : Nat) (cancelAt : Option Nat) (start : Session) :
    ∃ events, start.run? plan events = some (run plan limit cancelAt start) := by
  obtain ⟨events, hrun, -⟩ := @exists_run_advanceFor plan limit (fun _ _ => True)
    (fun _ => trivial) (fun _ _ _ _ _ _ _ _ => trivial) stepBound ⟨start, none, 0, cancelAt⟩
  exact ⟨events, hrun⟩

end LogRelay.SessionTimeline
