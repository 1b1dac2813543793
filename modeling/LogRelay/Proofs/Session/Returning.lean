import LogRelay.Proofs.Session.Courses
import LogRelay.Proofs.Tracer.Stages

/-!
# The session returns

When the main task has told the reporting task to stop, that task takes a last
sample and finishes, however many intervals end in between.  With that, every
fair course comes to the end of the main task.
-/

namespace LogRelay

namespace Session

variable {plan : Plan} {start session next : Session} {schedule : Schedule}

theorem Move.advances {action : Tracer.Action} (hmove : session.Move plan (.tracer action) next) :
    session.tracer.Advances next.tracer action := by
  cases hmove with
  | tracer action tracer sample? hlaunched hstep =>
      have hadvances := (Tracer.advances_of_step? hstep).1
      cases sample? <;> exact hadvances

theorem Move.reporting {event : SessionEvent} (hmove : session.Move plan event next)
    (hevent : event.isWork = false) :
    next.tracer = session.tracer ∨
      ∃ action, event = .tracer action ∧ session.tracer.Advances next.tracer action := by
  cases hmove with
  | pass => exact Or.inl rfl
  | cancel => exact Or.inl (by simp)
  | tracer action tracer sample? hlaunched hstep hown =>
      have hmove : session.Move plan (.tracer action) _ :=
        .tracer action tracer sample? hlaunched hstep hown
      exact Or.inr ⟨action, rfl, hmove.advances⟩
  | reader | drain | join | main => exact absurd hevent.symm Bool.false_ne_true

theorem isSome_step?_tracer {action : Tracer.Action} (hlaunched : session.isLaunched = true)
    (hcounts : ∀ counter amount, action ≠ .record counter amount) (hstop : action ≠ .stop)
    (hstep : (session.tracer.step? action).isSome = true) :
    (session.step? plan (.tracer action)).isSome = true := by
  obtain ⟨⟨tracer, sample?⟩, htracer⟩ := Option.isSome_iff_exists.mp hstep
  cases action with
  | record counter amount => exact absurd rfl (hcounts counter amount)
  | stop => exact absurd rfl hstop
  | start | tick | conclude | take =>
      simp only [step?, stepTracer?, hlaunched, if_true, htracer]
      cases sample? <;> rfl

/-- The step of the schedule is the one that the reporting task makes. -/
theorem advances_of_event {now : Nat} {action : Tracer.Action}
    (hevent : schedule now = .tracer action)
    (hsome : ((course plan start schedule now).step? plan (.tracer action)).isSome = true) :
    (course plan start schedule now).tracer.Advances
      (course plan start schedule (now + 1)).tracer action := by
  have hstep : (course plan start schedule now).step? plan (.tracer action) =
      some (course plan start schedule (now + 1)) := by
    rw [← hevent]
    apply course_succ_of_isSome
    rw [hevent]
    exact hsome
  exact (move_of_step? hstep).advances

/-! ## The last report -/

/-- From some time on only time, the outside and the reporting task make steps,
and the main task waits for the last report. -/
structure Stopping (plan : Plan) (start : Session) (schedule : Schedule) (first : Nat) : Prop where
  quiet : ∀ now, first ≤ now →
    ((course plan start schedule now).step? plan (schedule now)).isSome = true →
      (schedule now).isWork = false
  launched : ∀ now, first ≤ now → (course plan start schedule now).isLaunched = true
  told : ∀ now, first ≤ now → (course plan start schedule now).tracer.stopping = true
  going : ∀ now, (course plan start schedule now).isOver = false

namespace Stopping

variable {first : Nat}

theorem advances_succ (hstopping : Stopping plan start schedule first) {now : Nat}
    (hnow : first ≤ now) :
    (course plan start schedule (now + 1)).tracer = (course plan start schedule now).tracer ∨
      ∃ action, schedule now = .tracer action ∧ (course plan start schedule now).tracer.Advances
        (course plan start schedule (now + 1)).tracer action := by
  rcases course_succ_cases plan start schedule now with hsame | hstep
  · exact Or.inl (congrArg _ hsame)
  · have hsome := Option.isSome_of_eq_some hstep
    exact (move_of_step? hstep).reporting (hstopping.quiet now hnow hsome)

/-- A step of the reporting task that is possible. -/
theorem isSome_step? (hstopping : Stopping plan start schedule first) {now : Nat}
    (hnow : first ≤ now) {action : Tracer.Action}
    (hcounts : ∀ counter amount, action ≠ .record counter amount) (hstop : action ≠ .stop)
    (hstep : ((course plan start schedule now).tracer.step? action).isSome = true) :
    ((course plan start schedule now).step? plan (.tracer action)).isSome = true :=
  isSome_step?_tracer (hstopping.launched now hnow) hcounts hstop hstep

theorem later (hstopping : Stopping plan start schedule first) {now : Nat} (hnow : first ≤ now) :
    Stopping plan start schedule now :=
  ⟨fun time htime => hstopping.quiet time (Nat.le_trans hnow htime),
    fun time htime => hstopping.launched time (Nat.le_trans hnow htime),
    fun time htime => hstopping.told time (Nat.le_trans hnow htime), hstopping.going⟩

/-- The reporting task cannot be at work for ever without coming to wait or to its end. -/
theorem exists_waiting (hstopping : Stopping plan start schedule first)
    (hfair : Fair plan start schedule) :
    ∃ now, first ≤ now ∧ ((course plan start schedule now).tracer.stage = .waiting ∨
      (course plan start schedule now).tracer.stage = .finished) := by
  by_contra hnever
  have hbusy : ∀ now, first ≤ now →
      (course plan start schedule now).tracer.stage ≠ .waiting ∧
        (course plan start schedule now).tracer.stage ≠ .finished := by
    intro now hnow
    exact ⟨fun hstage => hnever ⟨now, hnow, Or.inl hstage⟩,
      fun hstage => hnever ⟨now, hnow, Or.inr hstage⟩⟩
  apply hfair.descent (fun session => session.tracer.stage.distance) hstopping.going
  · intro now hnow
    rcases hstopping.advances_succ hnow with hsame | ⟨action, -, hadvances⟩
    · rw [hsame]
    · cases hadvances with
      | counts counter amount hsame => rw [hsame]
      | hears hsame => rw [hsame]
      | starts hbefore hafter => exact absurd hafter (hbusy _ (Nat.le_succ_of_le hnow)).1
      | ticks hbefore => exact absurd hbefore (hbusy now hnow).1
      | concludes soFar hbefore => exact absurd hbefore (hbusy now hnow).1
      | takes counter later before after last hbefore hafter hless => exact Nat.le_of_lt hless
      | completes soFar last hbefore hafter =>
          obtain ⟨hwaiting, hfinished⟩ := hbusy _ (Nat.le_succ_of_le hnow)
          cases last
          · exact absurd hafter hwaiting
          · exact absurd hafter hfinished
  · intro now hnow hconstant
    by_cases hstarting : (course plan start schedule now).tracer.stage.distance = 4
    · refine ⟨.tracer .start, now, rfl, Nat.le_refl _, fun later hlater => ?_, ?_⟩
      · apply hstopping.isSome_step? (Nat.le_trans hnow hlater) (fun _ _ => Tracer.Action.noConfusion)
          Tracer.Action.noConfusion
        have hstage := ReportStage.eq_starting ((hconstant later hlater).trans hstarting)
        rw [Tracer.step?, if_pos hstage]
        rfl
      · intro later hlater hevent hsome
        cases advances_of_event hevent hsome with
        | starts hbefore hafter =>
            simp only [hbefore, hafter]
            exact Nat.succ_pos 3
    · obtain ⟨hwaiting, hfinished⟩ := hbusy now hnow
      have hpos := ReportStage.distance_ne_zero hwaiting hfinished
      refine ⟨.tracer .take, now, rfl, Nat.le_refl _, fun later hlater => ?_, ?_⟩
      · apply hstopping.isSome_step? (Nat.le_trans hnow hlater) (fun _ _ => Tracer.Action.noConfusion)
          Tracer.Action.noConfusion
        rw [← hconstant later hlater] at hpos hstarting
        obtain ⟨counter, soFar, last, hstage⟩ := ReportStage.exists_taking hpos hstarting
        rw [Tracer.step?, hstage]
        rfl
      · intro later hlater hevent hsome
        cases advances_of_event hevent hsome with
        | takes counter next before after last hbefore hafter hless => exact hless
        | completes soFar last hbefore hafter =>
            rw [hbefore, hafter]
            cases last <;> exact Nat.succ_pos 0

/-- Once the last sample is begun, it is finished. -/
theorem exists_finished_of_last (hstopping : Stopping plan start schedule first)
    (hfair : Fair plan start schedule) {counter : Counter} {soFar : Counters}
    (hlast : (course plan start schedule first).tracer.stage = .taking counter soFar true) :
    ∃ now, first ≤ now ∧ (course plan start schedule now).tracer.stage = .finished := by
  by_contra hnever
  have htaking : ∀ now, first ≤ now → ∃ counter soFar,
      (course plan start schedule now).tracer.stage = .taking counter soFar true := by
    intro now hnow
    induction now, hnow using Nat.le_induction with
    | base => exact ⟨counter, soFar, hlast⟩
    | succ now hnow ih =>
        obtain ⟨counter, soFar, hstage⟩ := ih
        rcases hstopping.advances_succ hnow with hsame | ⟨action, -, hadvances⟩
        · exact ⟨counter, soFar, by rw [hsame, hstage]⟩
        · cases hadvances with
          | counts _ _ hsame => exact ⟨counter, soFar, hsame.trans hstage⟩
          | hears hsame => exact ⟨counter, soFar, hsame.trans hstage⟩
          | starts hbefore => exact absurd (hbefore.symm.trans hstage) ReportStage.noConfusion
          | ticks hbefore => exact absurd (hbefore.symm.trans hstage) ReportStage.noConfusion
          | concludes _ hbefore => exact absurd (hbefore.symm.trans hstage) ReportStage.noConfusion
          | takes _ later _ after last hbefore hafter =>
              obtain ⟨-, -, rfl⟩ := ReportStage.taking.inj (hbefore.symm.trans hstage)
              exact ⟨later, after, hafter⟩
          | completes _ last hbefore hafter =>
              obtain ⟨-, -, rfl⟩ := ReportStage.taking.inj (hbefore.symm.trans hstage)
              exact absurd ⟨_, Nat.le_succ_of_le hnow, hafter⟩ hnever
  obtain ⟨now, hnow, hstage⟩ := hstopping.exists_waiting hfair
  obtain ⟨counter, soFar, htaken⟩ := htaking now hnow
  rcases hstage with hwaiting | hfinished
  · exact absurd (hwaiting.symm.trans htaken) ReportStage.noConfusion
  · exact absurd (hfinished.symm.trans htaken) ReportStage.noConfusion

/-- The reporting task does nothing after its end. -/
theorem finished_of_finished (hstopping : Stopping plan start schedule first)
    (hfinished : (course plan start schedule first).tracer.stage = .finished) {now : Nat}
    (hnow : first ≤ now) : (course plan start schedule now).tracer.stage = .finished := by
  induction now, hnow using Nat.le_induction with
  | base => exact hfinished
  | succ now hnow ih =>
      rcases hstopping.advances_succ hnow with hsame | ⟨action, -, hadvances⟩
      · rw [hsame]
        exact ih
      · cases hadvances with
        | counts _ _ hsame => exact hsame.trans ih
        | hears hsame => exact hsame.trans ih
        | starts hbefore => exact absurd (hbefore.symm.trans ih) ReportStage.noConfusion
        | ticks hbefore => exact absurd (hbefore.symm.trans ih) ReportStage.noConfusion
        | concludes _ hbefore => exact absurd (hbefore.symm.trans ih) ReportStage.noConfusion
        | takes _ _ _ _ _ hbefore => exact absurd (hbefore.symm.trans ih) ReportStage.noConfusion
        | completes _ _ hbefore => exact absurd (hbefore.symm.trans ih) ReportStage.noConfusion

/-- The reporting task hears that it is to stop: it cannot miss it for ever. -/
theorem exists_finished (hstopping : Stopping plan start schedule first)
    (hfair : Fair plan start schedule) :
    ∃ now, first ≤ now ∧ (course plan start schedule now).tracer.stage = .finished := by
  by_contra hnever
  have hconclude : ∀ now, ∃ later, now ≤ later ∧
      (course plan start schedule later).CanTake plan (.tracer .conclude) := by
    intro now
    have hfirst : first ≤ max first now := Nat.le_max_left _ _
    obtain ⟨later, hlater, hstage⟩ := (hstopping.later hfirst).exists_waiting hfair
    have hnow := Nat.le_trans hfirst hlater
    rcases hstage with hwaiting | hfinished
    · refine ⟨later, Nat.le_trans (Nat.le_max_right _ _) hlater, hstopping.going later, ?_⟩
      apply hstopping.isSome_step? hnow (fun _ _ => Tracer.Action.noConfusion)
        Tracer.Action.noConfusion
      rw [Tracer.step?, if_pos ⟨hwaiting, hstopping.told later hnow⟩]
      rfl
    · exact absurd ⟨later, hnow, hfinished⟩ hnever
  obtain ⟨now, hnow, htake, hevent⟩ := hfair.takes_turns (.tracer .conclude) rfl hconclude first
  cases advances_of_event hevent htake.2 with
  | concludes soFar hbefore hafter =>
      have hnext := Nat.le_succ_of_le hnow
      obtain ⟨later, hlater, hfinished⟩ :=
        (hstopping.later hnext).exists_finished_of_last hfair hafter
      exact hnever ⟨later, Nat.le_trans hnext hlater, hfinished⟩

end Stopping

/-! ## The main task -/

/-- What the steps keep that lets the session go on. -/
structure Live (plan : Plan) (session : Session) : Prop where
  follows : session.ReadersFollow plan
  reached : session.main.Reached plan session
  orderly : plan.readyError = none → session.Orderly
  told : ∀ result, session.main = .stopping result → session.tracer.stopping = true

theorem live_create (plan : Plan) (stdout stderr : Option PipeScript) (sink : SinkBehaviour) :
    (create plan stdout stderr sink).Live plan where
  follows := readersFollow_create plan stdout stderr sink
  reached := trivial
  orderly _ := orderly_create plan stdout stderr sink
  told _ hmain := MainStage.noConfusion hmain

theorem MainMove.told {result : Except Error Unit} {stage : MainStage}
    (hmove : session.MainMove plan stage next) (hmain : next.main = .stopping result) :
    next.tracer.stopping = true := by
  cases hmove with
  | ready =>
      cases hready : plan.readyError with
      | none => simp [Session.ready, hready] at hmain
      | some error => simp [Session.ready, hready, stop]
  | stops => rfl
  | endsFlush => exact MainStage.noConfusion hmain
  | _ => exact MainStage.noConfusion hmain

theorem Live.move {event : SessionEvent} (hlive : session.Live plan)
    (hmove : session.Move plan event next) : next.Live plan where
  follows := hlive.follows.move hmove
  reached := reached_move hlive.reached hmove
  orderly hready := (hlive.orderly hready).move hready hmove
  told result hmain := by
    have hsame : next.main = session.main → next.tracer.stopping = session.tracer.stopping →
        next.tracer.stopping = true :=
      fun hbefore htracer => htracer.trans (hlive.told result (hbefore.symm.trans hmain))
    cases hmove with
    | pass => exact hsame rfl rfl
    | cancel => exact hsame (by simp) (by simp)
    | reader source reader next hlaunched hreader hmove =>
        exact hsame hmove.changes.2.1 hmove.leaves_others.2.2.2.2
    | drain stage buffer next hlaunched hdrain hbuffer hmove =>
        exact hsame hmove.counts.2.2.1 hmove.leaves_others.2.2.2.2
    | join task ended next hjoining hresult hmem hmove =>
        exact hsame hmove.keeps.2.1 (congrArg _ hmove.leaves_others.2.2.2)
    | main next hmove => exact hmove.told hmain
    | tracer action tracer sample? hlaunched hstep =>
        have htold := (Tracer.advances_of_step? hstep).2
        cases sample? <;> exact htold (hlive.told result hmain)

theorem Live.concluded {result : Except Error Unit} (hlive : session.Live plan)
    (hdone : session.main = .done result) : session.Concluded plan result := by
  have hreached := hlive.reached
  rw [hdone] at hreached
  exact hreached

/-- No pipe hangs. -/
def PipesAlive (session : Session) : Prop :=
  ∀ source reader, session.reader? source = some reader → reader.pipe.isAlive = true

theorem pipesAlive_create (plan : Plan) {stdout stderr : Option PipeScript} (sink : SinkBehaviour)
    (hpipes : ∀ source pipe, pipesOf stdout stderr source = some pipe → pipe.isAlive = true) :
    (create plan stdout stderr sink).PipesAlive := by
  intro source reader hreader
  obtain ⟨pipe, hpipe, rfl⟩ := exists_pipe_of_create hreader
  exact hpipes source pipe hpipe

theorem Reader.Step.isAlive {source : Source} {reader after : Reader}
    (hstep : reader.Step plan source session after) (halive : reader.pipe.isAlive = true) :
    after.pipe.isAlive = true := by
  have hlook : ∀ {clock asked : Nat} {answer : PipeAnswer} {pipe : PipeScript},
      reader.pipe.look clock asked = (answer, pipe) → pipe.isAlive = true := by
    intro clock asked answer pipe hlook
    have hlater := PipeScript.isAlive_look clock asked halive
    rw [hlook] at hlater
    exact hlater
  cases hstep with
  | brings asked looking bytes pipe hstage hfound => exact hlook hfound
  | startsAgain asked looking failure pipe hstage hfound => exact hlook hfound
  | fails asked looking failure pipe hstage hfound => exact hlook hfound
  | crashes asked looking pipe hstage hfound => exact hlook hfound
  | cancels asked looking pipe hstage hfound => exact hlook hfound
  | waits asked looking until? pipe hstage hfound => exact hlook hfound
  | aborts hready =>
      rw [Reader.abort]
      split <;> exact halive
  | _ => exact halive

theorem PipesAlive.move {event : SessionEvent} (halive : session.PipesAlive)
    (hmove : session.Move plan event next) : next.PipesAlive := by
  intro source after hafter
  obtain ⟨reader, hreader, rfl | hstep⟩ := hmove.reader_step hafter
  · exact halive source _ hreader
  · exact Reader.Step.isAlive hstep (halive source reader hreader)

theorem SameTasks.refl (session : Session) : session.SameTasks session :=
  ⟨rfl, rfl, rfl, rfl, rfl, rfl, rfl⟩

theorem SameTasks.trans {later : Session} (hfirst : session.SameTasks next)
    (hsecond : next.SameTasks later) : session.SameTasks later :=
  ⟨hsecond.stdout.trans hfirst.stdout, hsecond.stderr.trans hfirst.stderr,
    hsecond.drain.trans hfirst.drain, hsecond.buffer.trans hfirst.buffer,
    hsecond.main.trans hfirst.main, hsecond.toJoin.trans hfirst.toJoin,
    hsecond.unjoined.trans hfirst.unjoined⟩

theorem isOwn_of_isWork {event : SessionEvent} (hwork : event.isWork = true) :
    event.isOwn = true := by
  cases event with
  | reader | drain | join | main => rfl
  | pass | cancel | tracer => exact absurd hwork Bool.noConfusion

/-- When no work is done any more, the tasks stay as they are. -/
theorem sameTasks_of_quiet {first : Nat}
    (hquiet : ∀ now, first ≤ now →
      ((course plan start schedule now).step? plan (schedule now)).isSome = true →
        (schedule now).isWork = false) {now : Nat} (hnow : first ≤ now) :
    (course plan start schedule first).SameTasks (course plan start schedule now) := by
  induction now, hnow using Nat.le_induction with
  | base => exact .refl _
  | succ now hnow ih =>
      rcases course_succ_cases plan start schedule now with hsame | hstep
      · rw [hsame]
        exact ih
      · have hsome := Option.isSome_of_eq_some hstep
        exact ih.trans ((move_of_step? hstep).sameTasks (hquiet now hnow hsome))

/-- Where only the reporting task keeps the main task waiting, the main task can
go on in the end. -/
theorem Fair.exists_canFinish {first : Nat} {result : Except Error Unit}
    (hfair : Fair plan start schedule)
    (hgoing : ∀ now, (course plan start schedule now).isOver = false)
    (hquiet : ∀ now, first ≤ now →
      ((course plan start schedule now).step? plan (schedule now)).isSome = true →
        (schedule now).isWork = false)
    (hlives : ∀ now, (course plan start schedule now).Live plan)
    (hmain : (course plan start schedule first).main = .stopping result) :
    ∃ since, first ≤ since ∧ ∀ later, since ≤ later →
      ((course plan start schedule later).step? plan .main).isSome = true := by
  have hmains : ∀ now, first ≤ now → (course plan start schedule now).main = .stopping result :=
    fun now hnow => (sameTasks_of_quiet hquiet hnow).main.trans hmain
  have hstopping : Stopping plan start schedule first := by
    refine ⟨hquiet, fun now hnow => ?_, fun now hnow => ?_, hgoing⟩
    · rw [isLaunched, hmains now hnow]
    · exact (hlives now).told result (hmains now hnow)
  obtain ⟨since, hsince, hfinished⟩ := hstopping.exists_finished hfair
  refine ⟨since, hsince, fun later hlater => ?_⟩
  have hstage := (hstopping.later hsince).finished_of_finished hfinished hlater
  simp only [step?, stepMain?, hmains later (Nat.le_trans hsince hlater), if_pos hstage,
    Option.isSome_some]

/-- Work that stays possible is done, and it becomes less.  So a fair course cannot go
on for ever while there always is some. -/
theorem Fair.false_of_possible {first : Nat} (hfair : Fair plan start schedule)
    (hlives : ∀ now, (course plan start schedule now).Live plan)
    (hgoing : ∀ now, (course plan start schedule now).isOver = false)
    (hpossible : ∀ now, first ≤ now →
      (∀ later, now ≤ later →
        ((course plan start schedule later).step? plan (schedule later)).isSome = true →
          (schedule later).isWork = false) →
      ∃ event since, event.isWork = true ∧ now ≤ since ∧ ∀ later, since ≤ later →
        ((course plan start schedule later).step? plan event).isSome = true) : False := by
  have hlowers : ∀ now event, schedule now = event → event.isWork = true →
      ((course plan start schedule now).step? plan event).isSome = true →
      (course plan start schedule (now + 1)).work plan.options.retry.attempts <
        (course plan start schedule now).work plan.options.retry.attempts := by
    intro now event hevent hwork hsome
    rw [← hevent] at hsome hwork
    exact (move_of_step? (course_succ_of_isSome hsome)).work_lt (hlives now).follows hwork
  refine hfair.descent (work plan.options.retry.attempts) hgoing (fun now _ => ?_)
    (fun now (hnow : first ≤ now) hconstant => ?_)
  · rcases course_succ_cases plan start schedule now with hsame | hstep
    · rw [hsame]
    · exact (move_of_step? hstep).work_le (hlives now).follows
  · have hquiet : ∀ later, now ≤ later →
        ((course plan start schedule later).step? plan (schedule later)).isSome = true →
          (schedule later).isWork = false := by
      intro later hlater hsome
      apply Bool.eq_false_iff.mpr
      intro hwork
      have hless := hlowers later _ rfl hwork hsome
      rw [hconstant later hlater, hconstant (later + 1) (Nat.le_succ_of_le hlater)] at hless
      exact Nat.lt_irrefl _ hless
    obtain ⟨event, since, hwork, hsince, hsteps⟩ := hpossible now hnow hquiet
    exact ⟨event, since, isOwn_of_isWork hwork, hsince, hsteps,
      fun later _ hevent hsome => hlowers later event hevent hwork hsome⟩

theorem Live.course (hlive : start.Live plan) (now : Nat) :
    (course plan start schedule now).Live plan :=
  course_induction hlive (fun _ _ hbefore hmove => hbefore.move hmove) now

/-- Every fair course comes to the end of the main task if no pipe hangs or the
session is cancelled at some time. -/
theorem Fair.exists_isOver (hfair : Fair plan start schedule) (hlive : start.Live plan)
    (hends : start.PipesAlive ∨ ∃ now, (course plan start schedule now).cancelled = true) :
    ∃ now, (course plan start schedule now).isOver = true := by
  by_contra hnever
  have hgoing : ∀ now, (course plan start schedule now).isOver = false :=
    fun now => Bool.eq_false_iff.mpr fun hover => hnever ⟨now, hover⟩
  have hlives : ∀ now, (course plan start schedule now).Live plan := hlive.course
  have hclock : ∀ {first now : Nat}, first ≤ now →
      (course plan start schedule first).clock ≤ (course plan start schedule now).clock := by
    intro first now hnow
    exact course_induction_from (motive := fun session =>
      (course plan start schedule first).clock ≤ session.clock) (Nat.le_refl _)
      (fun _ _ hbefore hmove => Nat.le_trans hbefore hmove.clock_le) hnow
  obtain ⟨first, hgoes⟩ : ∃ first, ∀ now, first ≤ now →
      (course plan start schedule now).PipesAlive ∨
        (course plan start schedule now).cancelled = true := by
    rcases hends with halive | ⟨first, hcancelled⟩
    · refine ⟨0, fun now _ => Or.inl ?_⟩
      exact course_induction halive (fun _ _ hbefore hmove => hbefore.move hmove) now
    · refine ⟨first, fun now hnow => Or.inr ?_⟩
      exact course_induction_from hcancelled (fun _ _ hbefore hmove =>
        hmove.cancelled_mono hbefore) hnow
  refine hfair.false_of_possible hlives hgoing (fun now (hnow : first ≤ now) hquiet => ?_)
  rcases exists_canDo (hlives now).reached (hlives now).orderly (hgoing now) with
    ⟨event, hwork, time, hcan⟩ | ⟨result, hmain⟩
  · obtain ⟨moment, hmoment⟩ := hfair.time_passes time
    have htime := hmoment.resolve_right (ne_true_of_eq_false (hgoing moment))
    refine ⟨event, max now moment, hwork, Nat.le_max_left _ _, fun later hlater => ?_⟩
    have hafter := Nat.le_trans (Nat.le_max_left now moment) hlater
    have hpassed := Nat.le_trans (Nat.le_max_right now moment) hlater
    exact hcan _ (sameTasks_of_quiet hquiet hafter) (Nat.le_trans htime (hclock hpassed))
      (hgoes later (Nat.le_trans hnow hafter))
  · obtain ⟨since, hsince, hpossible⟩ := hfair.exists_canFinish hgoing hquiet hlives hmain
    exact ⟨.main, since, rfl, hsince, hpossible⟩

end Session

end LogRelay
