import LogRelay.Proofs.Session.Outcomes
import LogRelay.Proofs.Session.Safe

/-!
# Why a session fails

A session fails for want of a pipe, because it is not ready, because a read fails
or because a pipe crashes, and it fails with the error of just that.  Where the
sink does not crash, nothing that it answers can make a session fail.
-/

namespace LogRelay.Session

variable {plan : Plan} {pipes : Source → Option PipeScript} {session next : Session}
variable {source : Source}

/-! ## The result of a session -/

/-- Nothing has happened that makes a session fail. -/
structure Untroubled (plan : Plan) (pipes : Source → Option PipeScript) (session : Session) :
    Prop where
  present : ∃ source, (pipes source).isSome = true
  ready : plan.readyError = none
  reads : ∀ source pipe, pipes source = some pipe → ∀ failure,
    ¬ ReadFails source failure session.journal
  stands : ∀ source pipe, pipes source = some pipe →
    session.taskResult? (.reader source) ≠ some .crashed

/-- What makes a session fail, with the error that it returns for it. -/
inductive Blamed (plan : Plan) (pipes : Source → Option PipeScript) (session : Session) :
    Error → Prop where
  | noPipes (hnone : ∀ source, pipes source = none) : Blamed plan pipes session .noPipes
  | notReady (error : Error) (hready : plan.readyError = some error) :
      Blamed plan pipes session (.ready error.message)
  | read (source : Source) (pipe : PipeScript) (failure : Failure)
      (hpipe : pipes source = some pipe) (hfails : ReadFails source failure session.journal) :
      Blamed plan pipes session (.read source failure)
  | crash (source : Source) (pipe : PipeScript) (hpipe : pipes source = some pipe)
      (hmem : .crash ∈ pipe) (hcrashed : session.taskResult? (.reader source) = some .crashed) :
      Blamed plan pipes session (.task TaskResult.crashText)

theorem Blamed.isFatal {error : Error} (hblamed : Blamed plan pipes session error) :
    error.isFatal = true := by
  cases hblamed <;> rfl

theorem Blamed.not_untroubled {error : Error} (hblamed : Blamed plan pipes session error) :
    ¬ Untroubled plan pipes session := by
  intro huntroubled
  cases hblamed with
  | noPipes hnone =>
      obtain ⟨source, hsome⟩ := huntroubled.present
      rw [hnone source] at hsome
      exact Bool.false_ne_true hsome
  | notReady error hready =>
      exact absurd (huntroubled.ready.symm.trans hready) (Option.some_ne_none _).symm
  | read source pipe failure hpipe hfails =>
      exact huntroubled.reads source pipe hpipe failure hfails
  | crash source pipe hpipe hmem hcrashed => exact huntroubled.stands source pipe hpipe hcrashed

/-- The session has failed if and only if there is something to blame for it. -/
structure Judged (plan : Plan) (pipes : Source → Option PipeScript) (session : Session)
    (result : Except Error Unit) : Prop where
  succeeds : Untroubled plan pipes session → result = .ok ()
  fails : ¬ Untroubled plan pipes session →
    ∃ error, result = .error error ∧ Blamed plan pipes session error

theorem judged_of_blamed {error : Error} (hblamed : Blamed plan pipes session error) :
    Judged plan pipes session (.error error) :=
  ⟨fun huntroubled => absurd huntroubled hblamed.not_untroubled, fun _ => ⟨error, rfl, hblamed⟩⟩

theorem pipes_eq_none (hpresent : ∀ source, (session.reader? source).isSome = (pipes source).isSome)
    (hnone : session.hasPipe = false) (source : Source) : pipes source = none := by
  obtain ⟨hstdout, hstderr⟩ := Bool.or_eq_false_iff.mp hnone
  have hreader : (session.reader? source).isSome = false := by
    cases source with
    | stdout => exact hstdout
    | stderr => exact hstderr
  rw [hpresent source] at hreader
  simpa using hreader

/-- The first error that has been joined is that of a pipe. -/
theorem Explained.blamed {error : Error} (hready : plan.readyError = none)
    (hexplained : session.Explained plan pipes) (hheed : session.ReadersHeed)
    (herror : session.firstError = some error) : Blamed plan pipes session error := by
  obtain ⟨source, reader, result, hreader, hended, hresult⟩ := hexplained.firstError error herror
  obtain ⟨whole, hwhole, hreader_explained⟩ := hexplained.readers source reader hreader
  have hstage := hreader_explained.stage_explained
  rw [hended] at hstage
  cases result with
  | finished => exact absurd hresult (Option.some_ne_none _).symm
  | failed cause =>
      obtain rfl : cause = error := Option.some.inj hresult
      obtain ⟨failure, -, -, rfl⟩ := hstage
      exact .read source whole failure hwhole ((hheed source reader hreader).blamed failure hended)
  | crashed =>
      obtain rfl : .task TaskResult.crashText = error := Option.some.inj hresult
      refine .crash source whole hwhole hstage ?_
      simp only [taskResult?, hreader, hended]
  | aborted =>
      rw [ReaderStage.Explained, hready] at hstage
      exact absurd hstage Bool.false_ne_true

/-- When the session returns without an error, every reader has finished. -/
theorem Safe.finished_of_ok {reader : Reader} {result : Except Error Unit}
    (hready : plan.readyError = none) (hsafe : session.Safe plan pipes)
    (hdone : session.main = .done result) (hnone : session.firstError = none)
    (hreader : session.reader? source = some reader) : reader.stage = .ended .finished := by
  obtain ⟨ended, hstage, hresult⟩ := hsafe.live.exists_ended hready hdone hreader
  have horderly := hsafe.live.orderly hready
  have hjoined := (hsafe.live.settled hready hdone (hasPipe_of_reader hreader)).2
  have hquiet : ended.error? = none := by
    cases herror : ended.error? with
    | none => rfl
    | some error =>
        rcases horderly.awaited.kept _ ended error hresult herror with hmem | hsome
        · rw [hjoined] at hmem
          exact absurd hmem List.not_mem_nil
        · rw [hnone] at hsome
          exact absurd hsome Bool.false_ne_true
  cases ended with
  | finished => exact hstage
  | failed | crashed | aborted => exact absurd hquiet (Option.some_ne_none _)

theorem Safe.untroubled {result : Except Error Unit} (hready : plan.readyError = none)
    (hsafe : session.Safe plan pipes) (hheed : session.ReadersHeed)
    (hdone : session.main = .done result) (hpipe : session.hasPipe = true)
    (hnone : session.firstError = none) : Untroubled plan pipes session := by
  have hfinished : ∀ source pipe, pipes source = some pipe → ∃ reader,
      session.reader? source = some reader ∧ reader.stage = .ended .finished := by
    intro source pipe hpipe
    obtain ⟨reader, hreader⟩ := hsafe.exists_reader hpipe
    exact ⟨reader, hreader, hsafe.finished_of_ok hready hdone hnone hreader⟩
  constructor
  · rcases Bool.or_eq_true_iff.mp hpipe with hstdout | hstderr
    · exact ⟨.stdout, (hsafe.present .stdout).symm.trans hstdout⟩
    · exact ⟨.stderr, (hsafe.present .stderr).symm.trans hstderr⟩
  · exact hready
  · intro source pipe hpipe failure hfails
    obtain ⟨reader, hreader, hstage⟩ := hfinished source pipe hpipe
    have hfailed := (hheed source reader hreader).failed failure hfails.1 hfails.2
    exact TaskResult.noConfusion (ReaderStage.ended.inj (hstage.symm.trans hfailed))
  · intro source pipe hpipe hcrashed
    obtain ⟨reader, hreader, hstage⟩ := hfinished source pipe hpipe
    simp [taskResult?, hreader, hstage] at hcrashed

/-- A session that is ready returns what its pipes are to blame for. -/
theorem Safe.judged {result : Except Error Unit} (hready : plan.readyError = none)
    (hsafe : session.Safe plan pipes) (hheed : session.ReadersHeed)
    (hdone : session.main = .done result) : Judged plan pipes session result := by
  cases hsafe.live.concluded hdone with
  | noPipes hnone => exact judged_of_blamed (.noPipes (pipes_eq_none hsafe.present hnone))
  | notReady error hsome herror => exact judged_of_blamed (.notReady error herror)
  | joined hsome hnone hunjoined =>
      cases hfirst : session.firstError with
      | none =>
          have huntroubled := hsafe.untroubled hready hheed hdone hsome hfirst
          exact ⟨fun _ => rfl, fun hnot => absurd huntroubled hnot⟩
      | some error => exact judged_of_blamed (hsafe.explained.blamed hready hheed hfirst)

/-- A session that is not ready fails for that, or for want of a pipe. -/
theorem Live.judged {result : Except Error Unit} (hready : plan.readyError ≠ none)
    (hlive : session.Live plan)
    (hpresent : ∀ source, (session.reader? source).isSome = (pipes source).isSome)
    (hdone : session.main = .done result) : Judged plan pipes session result := by
  cases hlive.concluded hdone with
  | noPipes hnone => exact judged_of_blamed (.noPipes (pipes_eq_none hpresent hnone))
  | notReady error hsome herror => exact judged_of_blamed (.notReady error herror)
  | joined hsome hnone hunjoined => exact absurd hnone hready

/-! ## The ends of the pipes -/

/-- Neither the outside nor a pipe cancels the session. -/
def Undisturbed (pipes : Source → Option PipeScript) (schedule : Schedule) : Prop :=
  (∀ now, schedule now ≠ .cancel) ∧
    ∀ source pipe, pipes source = some pipe → .cancel ∉ pipe

/-- A session that returns without an error has read every pipe to its end, if it
was cancelled by nothing but errors. -/
theorem Safe.readsToEnd {pipe : PipeScript} (hready : plan.readyError = none)
    (hsafe : session.Safe plan pipes) (hheed : session.ReadersHeed)
    (hcancels : session.cancelled = true → session.firstError.isSome = true)
    (hdone : session.main = .done (.ok ())) (hpipe : pipes source = some pipe) :
    ReadsToEnd source session.journal := by
  have hnone := (hsafe.live.concluded hdone).firstError_eq_none
  have hundisturbed : session.cancelled ≠ true := by
    intro hcancelled
    have hsome := hcancels hcancelled
    rw [hnone] at hsome
    exact Bool.false_ne_true hsome
  obtain ⟨reader, hreader⟩ := hsafe.exists_reader hpipe
  obtain ⟨whole, -, hexplained⟩ := hsafe.explained.readers source reader hreader
  have hstage := hexplained.stage_explained
  rw [hsafe.finished_of_ok hready hdone hnone hreader] at hstage
  exact (hheed source reader hreader).ended.mp (hstage.2.resolve_right hundisturbed)

/-! ## Whole sessions -/

/-- What a session that has returned can be told from. -/
structure Returned (plan : Plan) (pipes : Source → Option PipeScript) (schedule : Schedule)
    (session : Session) (result : Except Error Unit) : Prop where
  judged : Judged plan pipes session result
  fatal : ∀ error, result = .error error → error.isFatal = true
  ends : result = .ok () → Undisturbed pipes schedule → ∀ source pipe, pipes source = some pipe →
    ReadsToEnd source session.journal

theorem Judged.isFatal {error : Error} (hjudged : Judged plan pipes session (.error error)) :
    error.isFatal = true := by
  have hnot : ¬ Untroubled plan pipes session :=
    fun huntroubled => by cases hjudged.succeeds huntroubled
  obtain ⟨cause, hcause, hblamed⟩ := hjudged.fails hnot
  rw [Except.error.inj hcause]
  exact hblamed.isFatal

variable {stdout stderr : Option PipeScript} {sink : SinkBehaviour} {schedule : Schedule}

theorem live_course (plan : Plan) (stdout stderr : Option PipeScript) (sink : SinkBehaviour)
    (schedule : Schedule) (now : Nat) :
    (course plan (create plan stdout stderr sink) schedule now).Live plan :=
  (live_create plan stdout stderr sink).course now

theorem present_course (plan : Plan) (stdout stderr : Option PipeScript) (sink : SinkBehaviour)
    (schedule : Schedule) (now : Nat) (source : Source) :
    ((course plan (create plan stdout stderr sink) schedule now).reader? source).isSome =
      (pipesOf stdout stderr source).isSome := by
  apply course_induction (motive := fun session =>
    (session.reader? source).isSome = (pipesOf stdout stderr source).isSome)
  · rw [reader?_create, Option.isSome_map]
  · intro _ next hbefore hmove
    exact (hmove.reader?_isSome source).trans hbefore

theorem safe_course (hready : plan.readyError = none)
    (hjitter : plan.options.retry.jitter.isNaN = false) (hsink : sink.neverCrashes = true)
    (now : Nat) :
    (course plan (create plan stdout stderr sink) schedule now).Safe plan
      (pipesOf stdout stderr) :=
  course_induction (safe_create plan stdout stderr hsink)
    (fun _ _ hbefore hmove => hbefore.move hready hjitter hmove) now

theorem readersHeed_course (hready : plan.readyError = none) (now : Nat) :
    (course plan (create plan stdout stderr sink) schedule now).ReadersHeed :=
  course_induction (readersHeed_create plan stdout stderr sink)
    (fun _ _ hbefore hmove => hbefore.move hready hmove) now

/-- Where nobody cancels the session, only an error does. -/
theorem firstError_of_cancelled (hready : plan.readyError = none)
    (hjitter : plan.options.retry.jitter.isNaN = false) (hsink : sink.neverCrashes = true)
    (hundisturbed : Undisturbed (pipesOf stdout stderr) schedule) (now : Nat)
    (hcancelled : (course plan (create plan stdout stderr sink) schedule now).cancelled = true) :
    (course plan (create plan stdout stderr sink) schedule now).firstError.isSome = true := by
  revert hcancelled
  apply course_induction (motive := fun session =>
    session.cancelled = true → session.firstError.isSome = true)
  · exact fun hcancelled => absurd hcancelled Bool.false_ne_true
  · intro now next hbefore hmove hcancelled
    have hsafe : (course plan (create plan stdout stderr sink) schedule now).Safe plan
        (pipesOf stdout stderr) := safe_course hready hjitter hsink now
    rcases hsafe.explained.cancelled_cases hready hundisturbed.2 (hundisturbed.1 now) hmove with
      heq | hsome
    · exact hmove.firstError_mono (hbefore (heq.symm.trans hcancelled))
    · exact hsome

/-- A session never crashes if its sink does not and its jitter is a number. -/
theorem stands_course (hjitter : plan.options.retry.jitter.isNaN = false)
    (hsink : sink.neverCrashes = true) (now : Nat) :
    (course plan (create plan stdout stderr sink) schedule now).main ≠ .crashed := by
  intro hcrashed
  have hreached := (live_course plan stdout stderr sink schedule now).reached
  rw [hcrashed] at hreached
  exact (safe_course hreached.2.1 hjitter hsink now).stands hcrashed

theorem returned_of_done (hjitter : plan.options.retry.jitter.isNaN = false)
    (hsink : sink.neverCrashes = true) {now : Nat} {result : Except Error Unit}
    (hdone : (course plan (create plan stdout stderr sink) schedule now).main = .done result) :
    Returned plan (pipesOf stdout stderr) schedule
      (course plan (create plan stdout stderr sink) schedule now) result := by
  have hjudged : Judged plan (pipesOf stdout stderr)
      (course plan (create plan stdout stderr sink) schedule now) result := by
    by_cases hready : plan.readyError = none
    · exact (safe_course hready hjitter hsink now).judged hready (readersHeed_course hready now)
        hdone
    · exact (live_course plan stdout stderr sink schedule now).judged hready
        (present_course plan stdout stderr sink schedule now) hdone
  refine ⟨hjudged, fun error herror => (herror ▸ hjudged).isFatal, ?_⟩
  rintro rfl hundisturbed source pipe hpipe
  have hready : plan.readyError = none := by
    by_contra hnot
    obtain ⟨error, herror, -⟩ := hjudged.fails fun huntroubled => hnot huntroubled.ready
    cases herror
  exact (safe_course hready hjitter hsink now).readsToEnd hready (readersHeed_course hready now)
    (firstError_of_cancelled hready hjitter hsink hundisturbed now) hdone hpipe

end LogRelay.Session
