import LogRelay.Proofs.Session.Cancellation
import LogRelay.Proofs.Session.Leaving

/-!
# A read that fails ends the session

When a read fails, its reader ends with the failure, and the main task finds it
there sooner or later, whatever else the session is waiting for.  From then on
the session is cancelled: no read is begun, a pipe that hangs is left, and the
session returns with that error, when all that has been framed has been passed
on and the time for cleaning up is over.
-/

namespace LogRelay.Session

variable {plan : Plan} {start session next : Session} {source : Source}
variable {stdout stderr : Option PipeScript} {sink : SinkBehaviour} {schedule : Schedule}

/-! ## The session is cancelled -/

theorem taskResult?_course {first now : Nat} {task : Task} {result : TaskResult}
    (hready : plan.readyError = none)
    (hresult : (course plan start schedule first).taskResult? task = some result)
    (hnow : first ≤ now) : (course plan start schedule now).taskResult? task = some result :=
  course_induction_from (motive := fun session => session.taskResult? task = some result)
    hresult (fun _ _ hbefore hmove => hmove.taskResult?_of_ended hready hbefore) hnow

/-- A fair course in which a task ends with an error comes to its end: the error is
joined, and then nothing can keep the session waiting. -/
theorem Fair.exists_isOver_of_error {moment : Nat} {task : Task} {result : TaskResult}
    {error : Error} (hready : plan.readyError = none) (hfair : Fair plan start schedule)
    (hlives : ∀ now, (course plan start schedule now).Live plan)
    (htidy : ∀ now, (course plan start schedule now).Tidy plan)
    (hresult : (course plan start schedule moment).taskResult? task = some result)
    (herror : result.error? = some error) :
    ∃ now, (course plan start schedule now).isOver = true := by
  by_cases hcancelled : ∃ now, (course plan start schedule now).cancelled = true
  · exact hfair.exists_isOver (hlives 0) (Or.inr hcancelled)
  · by_contra hnever
    have hgoing : ∀ now, (course plan start schedule now).isOver = false :=
      fun now => Bool.eq_false_iff.mpr fun hover => hnever ⟨now, hover⟩
    -- As long as nobody cancels, the error has not been joined.
    have hwaits : ∀ now, moment ≤ now → task ∈ (course plan start schedule now).toJoin := by
      intro now hnow
      have hstill := taskResult?_course hready hresult hnow
      rcases ((hlives now).orderly hready).awaited.kept task result error hstill herror with
        hmem | hsome
      · exact hmem
      · exact absurd ⟨now, (htidy now).cancelled hsome⟩ hcancelled
    refine hfair.false_of_possible hlives hgoing (fun now (hnow : moment ≤ now) hquiet => ?_)
    obtain ⟨event, hwork, hsteps⟩ := exists_step_of_toJoin hready (hlives now).reached
      ((hlives now).orderly hready) (hgoing now) (hwaits now hnow)
    exact ⟨event, now, hwork, Nat.le_refl _,
      fun later hlater => hsteps _ (sameTasks_of_quiet hquiet hlater)⟩

/-- The first error that is joined is kept. -/
theorem Move.firstError_of_some {event : SessionEvent} {error : Error}
    (hmove : session.Move plan event next) (herror : session.firstError = some error) :
    next.firstError = some error := by
  rcases hmove.firstError_cases with heq | ⟨task, result, -, heq⟩
  · exact heq.trans herror
  · rw [heq, herror]
    rfl

/-! ## The time for cleaning up -/

/-- At that time the main task was at work with the other tasks or with the flush; it
still has to clean up, or it has done so. -/
def CleansAfter (plan : Plan) (time : Nat) (session : Session) : Prop :=
  match session.main with
  | .starting => False
  | .launched | .joining | .flushing _ | .flushSending _ _ => time ≤ session.clock
  | .cleaning wakeAt => time + plan.cleanup.ceilMillis ≤ wakeAt
  | .stopping _ | .done _ => time + plan.cleanup.ceilMillis ≤ session.clock
  | .crashed => True

theorem CleansAfter.of_main_eq {time : Nat} (hcleans : session.CleansAfter plan time)
    (hmain : next.main = session.main) (hclock : session.clock ≤ next.clock) :
    next.CleansAfter plan time := by
  rw [CleansAfter] at hcleans ⊢
  rw [hmain]
  cases hstage : session.main <;> rw [hstage] at hcleans <;>
    first | exact hcleans | exact Nat.le_trans hcleans hclock

theorem CleansAfter.main {time : Nat} (hready : plan.readyError = none)
    (hcleans : session.CleansAfter plan time) (hmove : session.MainMove plan session.main next) :
    next.CleansAfter plan time := by
  have hclock := hmove.leaves_others.1
  rw [CleansAfter] at hcleans
  generalize session.main = stage at hcleans hmove
  cases hmove with
  | refuses | launches => exact hcleans.elim
  | ready =>
      rw [Session.ready, hready]
      exact hcleans
  | flushes | hands | sendGoesOn | sendOver => exact hcleans.trans (Nat.le_of_eq hclock.symm)
  | sendCrashes => trivial
  | skipsFlush => exact Nat.add_le_add_right hcleans _
  | endsFlush =>
      unfold finishFlush
      dsimp only
      split <;> exact Nat.add_le_add_right hcleans _
  | stops wakeAt result hwake => exact Nat.le_trans hcleans hwake
  | finishes => exact hcleans

theorem CleansAfter.move {event : SessionEvent} {time : Nat} (hready : plan.readyError = none)
    (hcleans : session.CleansAfter plan time) (hmove : session.Move plan event next) :
    next.CleansAfter plan time := by
  rcases hmove.main_cases with hmain | hmain
  · exact hcleans.of_main_eq hmain hmove.clock_le
  · exact hcleans.main hready hmain

/-- A session does not return before it has cleaned up. -/
theorem clock_add_cleanup_le {first now : Nat} {result : Except Error Unit}
    (hready : plan.readyError = none)
    (hworks : (course plan start schedule first).main.isRelaying = true ∨
      (course plan start schedule first).main.isFlushing = true)
    (hdone : (course plan start schedule now).main = .done result) :
    (course plan start schedule first).clock + plan.cleanup.ceilMillis ≤
      (course plan start schedule now).clock := by
  have hfirst : (course plan start schedule first).CleansAfter plan
      (course plan start schedule first).clock := by
    rw [CleansAfter]
    cases hmain : (course plan start schedule first).main <;>
      simp [hmain, MainStage.isRelaying, MainStage.isFlushing] at hworks ⊢
  have hover : (course plan start schedule now).isOver = true := by rw [isOver, hdone]
  rcases Nat.le_total first now with hle | hge
  · have hlast := course_induction_from (motive := fun session => session.CleansAfter plan
      (course plan start schedule first).clock) hfirst
      (fun _ _ hbefore hmove => hbefore.move hready hmove) hle
    rw [CleansAfter, hdone] at hlast
    exact hlast
  · have hstill := course_induction_from (motive := fun session => session.isOver = true) hover
      (fun _ _ hbefore hmove => hmove.isOver hbefore) hge
    rw [isOver] at hstill
    cases hmain : (course plan start schedule first).main <;>
      simp [hmain, MainStage.isRelaying, MainStage.isFlushing] at hworks hstill

/-! ## What the session returns -/

/-- The session returns the failure of a read: it is the first error that was joined, and
the reader of the source has ended with it. -/
structure ReturnsFailure (session : Session) (result : Except Error Unit) (source : Source)
    (failure : Failure) : Prop where
  result_eq : result = .error (.read source failure)
  fails : ReadFails source failure session.journal
  ended : session.taskResult? (.reader source) = some (.failed (.read source failure))
  first : session.joinErrors.head? = some (.read source failure)

/-- A reader whose read has failed has ended with the failure. -/
theorem ReadersHeed.taskResult?_of_fails {reader : Reader} {failure : Failure}
    (hheed : session.ReadersHeed) (hreader : session.reader? source = some reader)
    (hfails : ReadFails source failure session.journal) :
    session.taskResult? (.reader source) = some (.failed (.read source failure)) := by
  have hended := (hheed source reader hreader).failed failure hfails.1 hfails.2
  simp only [taskResult?, hreader, hended]

theorem Diligent.exists_returnsFailure {result : Except Error Unit} {task : Task}
    {ended : TaskResult} {error : Error} (hready : plan.readyError = none)
    (hdiligent : session.Diligent plan) (hcalm : session.Calm)
    (hdone : session.main = .done result) (hpipe : session.hasPipe = true)
    (hresult : session.taskResult? task = some ended) (herror : ended.error? = some error) :
    ∃ source failure, session.ReturnsFailure result source failure := by
  have hlive := hdiligent.account.live
  have hjoined := (hlive.settled hready hdone hpipe).2
  have hsome : session.firstError.isSome = true := by
    rcases (hlive.orderly hready).awaited.kept task ended error hresult herror with hmem | hsome
    · rw [hjoined] at hmem
      exact absurd hmem List.not_mem_nil
    · exact hsome
  obtain ⟨first, hfirst⟩ := Option.isSome_iff_exists.mp hsome
  obtain ⟨source, failure, rfl, hfailed⟩ := hdiligent.tidy.exists_failed hready hcalm hfirst
  obtain ⟨reader, hreader, hstage⟩ := taskResult?_reader hfailed
  have hhead : session.joinErrors.head? = some (.read source failure) :=
    hdiligent.account.first.symm.trans hfirst
  refine ⟨source, failure, ?_, (hdiligent.heed source reader hreader).blamed failure hstage,
    hfailed, hhead⟩
  rw [hdiligent.account.result_eq hready hdone hpipe, hhead]
  rfl

theorem diligent_course (hready : plan.readyError = none) (now : Nat) :
    (course plan (create plan stdout stderr sink) schedule now).Diligent plan :=
  course_induction (diligent_create plan stdout stderr sink)
    (fun _ _ hbefore hmove => hbefore.move hready hmove) now

/-- The error of a read that has been joined is kept until it is returned, and no read
is begun any more. -/
theorem firstError_course {first now : Nat} {error : Error} (hready : plan.readyError = none)
    (herror : (course plan (create plan stdout stderr sink) schedule first).firstError = some error)
    (hnow : first ≤ now) :
    (course plan (create plan stdout stderr sink) schedule now).firstError = some error ∧
      ∀ source, begun source (course plan (create plan stdout stderr sink) schedule now).journal =
        begun source (course plan (create plan stdout stderr sink) schedule first).journal := by
  have hsome := Option.isSome_of_eq_some herror
  have hcancelled := (diligent_course hready first).tidy.cancelled hsome
  refine ⟨?_, fun source => begun_course _ hnow hcancelled⟩
  exact course_induction_from (motive := fun session => session.firstError = some error) herror
    (fun _ _ hbefore hmove => hmove.firstError_of_some hbefore) hnow

/-- If a read of a session in which nothing crashes fails, the session returns, even if
the other pipe hangs.  It returns the failure of the reader that was joined first,
and once this has been joined no read is begun and no other error takes its place.
By then all that the framers have made of what was read has been passed on, and
the session has cleaned up. -/
theorem returns_read_failure {pipe : PipeScript} {failure : Failure} {moment : Nat}
    (hready : plan.readyError = none)
    (hcalm : ∀ now, (course plan (create plan stdout stderr sink) schedule now).Calm)
    (hfair : Fair plan (create plan stdout stderr sink) schedule)
    (hpipe : pipesOf stdout stderr source = some pipe)
    (hfails : ReadFails source failure
      (course plan (create plan stdout stderr sink) schedule moment).journal) :
    (∃ now result,
      (course plan (create plan stdout stderr sink) schedule now).main = .done result) ∧
    (∀ now session result, course plan (create plan stdout stderr sink) schedule now = session →
      session.main = .done result →
        (∃ origin cause, session.ReturnsFailure result origin cause) ∧
        session.HandsOn plan ∧
        (∀ origin pipe, pipesOf stdout stderr origin = some pipe →
          session.FramesAll plan origin) ∧
        ∀ first working,
          course plan (create plan stdout stderr sink) schedule first = working →
          working.main.isRelaying = true ∨ working.main.isFlushing = true →
          working.clock + plan.cleanup.ceilMillis ≤ session.clock) ∧
    ∀ first now error, first ≤ now →
      (course plan (create plan stdout stderr sink) schedule first).firstError = some error →
        (course plan (create plan stdout stderr sink) schedule now).firstError = some error ∧
        ∀ origin, begun origin (course plan (create plan stdout stderr sink) schedule now).journal =
          begun origin (course plan (create plan stdout stderr sink) schedule first).journal := by
  have hdiligent : ∀ now,
      (course plan (create plan stdout stderr sink) schedule now).Diligent plan :=
    diligent_course hready
  have hreaders : ∀ now origin pipe, pipesOf stdout stderr origin = some pipe → ∃ reader,
      (course plan (create plan stdout stderr sink) schedule now).reader? origin =
        some reader := by
    intro now origin pipe hsome
    apply Option.isSome_iff_exists.mp
    rw [present_course, hsome]
    rfl
  obtain ⟨reader, hreader⟩ := hreaders moment source pipe hpipe
  have hfailed := (hdiligent moment).heed.taskResult?_of_fails hreader hfails
  refine ⟨?_, ?_, fun first now error hnow herror => firstError_course hready herror hnow⟩
  · obtain ⟨now, hover⟩ := hfair.exists_isOver_of_error hready
      (fun now => (hdiligent now).account.live) (fun now => (hdiligent now).tidy) hfailed rfl
    rw [isOver] at hover
    split at hover
    · next result hdone => exact ⟨now, result, hdone⟩
    · next hcrashed => exact absurd hcrashed (hcalm now).stands
    · exact absurd hover Bool.false_ne_true
  · rintro now session result rfl hdone
    obtain ⟨last, hlast⟩ := hreaders now source pipe hpipe
    have hended : (course plan (create plan stdout stderr sink) schedule now).taskResult?
        (.reader source) = some (.failed (.read source failure)) := by
      obtain ⟨ended, -, hended⟩ := (hdiligent now).account.live.exists_ended hready hdone hlast
      rcases Nat.le_total moment now with hle | hge
      · exact taskResult?_course hready hfailed hle
      · rw [hended, ← taskResult?_course hready hended hge, hfailed]
    refine ⟨(hdiligent now).exists_returnsFailure hready (hcalm now) hdone
      (hasPipe_of_reader hlast) hended rfl, (hdiligent now).handsOn hdone,
      fun origin pipe hsome => ?_, ?_⟩
    · obtain ⟨reader, hreader⟩ := hreaders now origin pipe hsome
      obtain ⟨ended, hstage, -⟩ := (hdiligent now).account.live.exists_ended hready hdone hreader
      exact (hdiligent now).account.live.follows.framesAll (hdiligent now).heed hreader
        ((hdiligent now).tidy.pending_eq_nil hready (hcalm now) hreader hstage)
    · rintro first working rfl hworks
      exact clock_add_cleanup_le hready hworks hdone

/-- Nothing crashes where neither the sink nor a pipe does and the jitter is a number. -/
theorem Safe.calm {pipes : Source → Option PipeScript} (hready : plan.readyError = none)
    (hsafe : session.Safe plan pipes)
    (hpipes : ∀ source pipe, pipes source = some pipe → .crash ∉ pipe) : session.Calm where
  stands := hsafe.stands
  tasks task hcrashed := by
    cases task with
    | drain =>
        rcases hsafe.explained.drain _ (taskResult?_drain hcrashed) with hfinished | ⟨-, hsome⟩
        · exact TaskResult.noConfusion hfinished
        · simp [hready] at hsome
    | reader source =>
        obtain ⟨reader, hreader, hended⟩ := taskResult?_reader hcrashed
        obtain ⟨whole, hwhole, hexplained⟩ := hsafe.explained.readers source reader hreader
        have hstage := hexplained.stage_explained
        rw [hended] at hstage
        exact hpipes source whole hwhole hstage

/-- One attempt for each message, and five milliseconds for cleaning up. -/
def cleaningPlan : Plan :=
  { promptPlan .nonBlocking (.immediate 1) with cleanup := Duration.ofMillis 5 }

/-- A pipe that fails after a line, and another one that hangs. -/
def failingStart : Session :=
  create cleaningPlan (some [.data [97, 10], .fail (.plain .brokenPipe)]) (some [.hang]) ⟨[], []⟩

/-- One order of the steps of that session. -/
def failingEvents : List SessionEvent :=
  [.main, .main, .reader .stderr, .reader .stdout, .reader .stdout, .reader .stdout,
    .reader .stdout, .reader .stdout, .drain, .drain, .join (.reader .stdout), .reader .stderr,
    .drain, .join (.reader .stderr), .join .drain, .main, .main, .pass 5, .main, .tracer .start,
    .tracer .conclude, .tracer .take, .tracer .take, .tracer .take, .main]

theorem returns_read_failure_of_hanging_sibling :
    ∃ session, failingStart.run? cleaningPlan failingEvents = some session ∧
      session.ReturnsFailure (.error (.read .stdout (.plain .brokenPipe))) .stdout
        (.plain .brokenPipe) ∧
      session.offered = session.framed ∧ session.handed = session.stored ∧
      session.handed.map (·.line) = [[97]] ∧ 5 ≤ session.clock := by
  have hview : (failingStart.run? cleaningPlan failingEvents).map (fun session =>
      (session.verdict, session.handed.map (·.line))) =
        some (.failed (.read .stdout (.plain .brokenPipe)), [[97]]) := by
    decide +kernel
  obtain ⟨session, hrun, hsession⟩ := Option.map_eq_some_iff.mp hview
  obtain ⟨hverdict, hlines⟩ := Prod.mk.inj hsession
  have hdone := main_of_verdict hverdict
  have hfair : Fair cleaningPlan failingStart (scheduleOf failingEvents) :=
    fair_scheduleOf hrun (by rw [isOver, hdone])
  have hnone : ∀ source pipe, pipesOf (some [.data [97, 10], .fail (.plain .brokenPipe)])
      (some [.hang]) source = some pipe → .crash ∉ pipe := by
    intro source pipe hpipe
    cases source with
    | stdout =>
        cases hpipe
        decide
    | stderr =>
        cases hpipe
        decide
  have hcalm : ∀ now,
      (course cleaningPlan failingStart (scheduleOf failingEvents) now).Calm := by
    intro now
    have hsafe : (course cleaningPlan failingStart (scheduleOf failingEvents) now).Safe
        cleaningPlan (pipesOf (some [.data [97, 10], .fail (.plain .brokenPipe)])
          (some [.hang])) :=
      safe_course rfl rfl rfl now
    exact hsafe.calm rfl hnone
  have hfails : ReadFails .stdout (.plain .brokenPipe)
      (course cleaningPlan failingStart (scheduleOf failingEvents) 8).journal :=
    ⟨rfl, by decide +kernel⟩
  obtain ⟨-, hreturns, -⟩ := returns_read_failure rfl hcalm hfair rfl hfails
  have hlast := course_scheduleOf hrun
  obtain ⟨⟨origin, cause, hreturned⟩, ⟨hoffered, hhanded⟩, -, hcleans⟩ :=
    hreturns failingEvents.length session _ hlast hdone
  have hclock := hcleans 2 _ rfl (Or.inl (by decide +kernel))
  cases hreturned.result_eq
  exact ⟨session, hrun, hreturned, hoffered, hhanded, hlines, hclock⟩

end LogRelay.Session
