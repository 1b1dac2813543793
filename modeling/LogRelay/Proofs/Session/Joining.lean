import LogRelay.Proofs.Session.Results

/-!
# Joining the tasks

A task that has ended waits to be joined, and an error that is joined is not
forgotten.  The main task closes the session when all tasks have been joined, so
the result of the session is the first of their errors, or success if there is
none.
-/

namespace LogRelay.Session

variable {plan : Plan} {session next : Session}

/-! ## Tasks that end -/

/-- A step of a task concerns no other, and if the task has ended with it, it
waits to be joined. -/
structure StepsAlone (session next : Session) (task : Task) : Prop where
  others : ∀ other, other ≠ task → next.taskResult? other = session.taskResult? other
  own : next.taskResult? task = none ∧ next.toJoin = session.toJoin ∨
    (next.taskResult? task).isSome = true ∧ next.toJoin = session.toJoin ++ [task]

theorem taskResult?_congr (hdrain : next.drain = session.drain)
    (hreaders : next.reader? = session.reader?) : next.taskResult? = session.taskResult? := by
  funext task
  cases task with
  | drain => rw [taskResult?, taskResult?, hdrain]
  | reader source => rw [taskResult?, taskResult?, hreaders]

theorem taskResult?_eq_of_reader {source : Source} {reader : Reader}
    (hreader : session.reader? source = some reader) :
    session.taskResult? (.reader source) = none ∧ reader.atWork = 1 ∨
      (session.taskResult? (.reader source)).isSome = true ∧ reader.atWork = 0 := by
  simp only [taskResult?, hreader, Reader.atWork]
  cases reader.stage with
  | ended result => exact Or.inr ⟨rfl, rfl⟩
  | asking | reading | sending => exact Or.inl ⟨rfl, rfl⟩

theorem taskResult?_eq_of_drain {stage : DrainStage} (hdrain : session.drain = some stage) :
    session.taskResult? .drain = none ∧ stage.atWork = 1 ∨
      (session.taskResult? .drain).isSome = true ∧ stage.atWork = 0 := by
  simp only [taskResult?, hdrain]
  cases stage with
  | ended result => exact Or.inr ⟨rfl, rfl⟩
  | waiting | sending => exact Or.inl ⟨rfl, rfl⟩

theorem ReaderMove.toJoin_cases {source : Source} {reader : Reader}
    (hmove : session.ReaderMove plan source reader next) :
    next.toJoin = session.toJoin ∨ next.toJoin = session.toJoin ++ [.reader source] := by
  cases hmove with
  | reads asked looking next hstage hgoes hread => cases hread <;> simp
  | sendGoesOn sending later sent hstage hdue hsend => simp [hsend.keeps]
  | sendOver sending sent hstage hdue hsend => simp [hsend.keeps]
  | sendCrashes sending sent hstage hdue hsend => simp [hsend.keeps]
  | _ => simp

theorem DrainMove.toJoin_cases {buffer : Buffer} {stage : DrainStage}
    (hmove : session.DrainMove plan buffer stage next) :
    next.toJoin = session.toJoin ∨ next.toJoin = session.toJoin ++ [.drain] := by
  cases hmove with
  | takes => simp [setDrain]
  | finishes => simp
  | sendGoesOn sending later sent hdue hsend => simp [setDrain, hsend.keeps]
  | sendOver sending sent hdue hsend => simp [setDrain, hsend.keeps]
  | sendCrashes sending sent hdue hsend => simp [hsend.keeps]

theorem DrainMove.exists_drain {buffer : Buffer} {stage : DrainStage}
    (hmove : session.DrainMove plan buffer stage next) : ∃ after, next.drain = some after := by
  cases hmove with
  | finishes | sendCrashes => exact ⟨_, (endDrain_keeps _ _).2.2.2.2.1⟩
  | takes | sendGoesOn | sendOver => exact ⟨_, rfl⟩

theorem ReaderMove.stepsAlone {source : Source} {reader : Reader}
    (hmove : session.ReaderMove plan source reader next) :
    session.StepsAlone next (.reader source) := by
  obtain ⟨-, -, hdrain, -, after, hstdout, hstderr, hlength⟩ := hmove.changes
  have hreader : next.reader? source = some after := by
    cases source with
    | stdout => exact hstdout
    | stderr => exact hstderr
  constructor
  · intro other hother
    cases other with
    | drain => rw [taskResult?, taskResult?, hdrain]
    | reader origin =>
        have hsame : next.reader? origin = session.reader? origin := by
          cases source <;> cases origin
          · exact absurd rfl hother
          · exact hstderr
          · exact hstdout
          · exact absurd rfl hother
        rw [taskResult?, taskResult?, hsame]
  · rcases hmove.toJoin_cases with heq | heq
    · rcases taskResult?_eq_of_reader hreader with ⟨hnone, -⟩ | ⟨-, hwork⟩
      · exact Or.inl ⟨hnone, heq⟩
      · rw [heq, hwork] at hlength
        omega
    · rcases taskResult?_eq_of_reader hreader with ⟨-, hwork⟩ | ⟨hsome, -⟩
      · rw [heq, hwork, List.length_append, List.length_singleton] at hlength
        omega
      · exact Or.inr ⟨hsome, heq⟩

theorem DrainMove.stepsAlone {buffer : Buffer} {stage : DrainStage}
    (hmove : session.DrainMove plan buffer stage next) : session.StepsAlone next .drain := by
  obtain ⟨-, -, -, -, hlength⟩ := hmove.counts
  obtain ⟨after, hdrain⟩ := hmove.exists_drain
  rw [hdrain, Option.map_some, Option.getD_some] at hlength
  constructor
  · intro other hother
    cases other with
    | drain => exact absurd rfl hother
    | reader origin => rw [taskResult?, taskResult?, hmove.reader?_eq]
  · rcases hmove.toJoin_cases with heq | heq
    · rcases taskResult?_eq_of_drain hdrain with ⟨hnone, -⟩ | ⟨-, hwork⟩
      · exact Or.inl ⟨hnone, heq⟩
      · rw [heq, hwork] at hlength
        omega
    · rcases taskResult?_eq_of_drain hdrain with ⟨-, hwork⟩ | ⟨hsome, -⟩
      · rw [heq, hwork, List.length_append, List.length_singleton] at hlength
        omega
      · exact Or.inr ⟨hsome, heq⟩

/-! ## Tasks that wait to be joined -/

/-- Whatever waits to be joined has ended, and an error of what does not is kept. -/
structure Awaited (session : Session) : Prop where
  ended : ∀ task ∈ session.toJoin, (session.taskResult? task).isSome = true
  kept : ∀ task result error, session.taskResult? task = some result →
    result.error? = some error → task ∈ session.toJoin ∨ session.firstError.isSome = true

theorem awaited_create (plan : Plan) (stdout stderr : Option PipeScript) (sink : SinkBehaviour) :
    (create plan stdout stderr sink).Awaited where
  ended task hmem := absurd hmem List.not_mem_nil
  kept task result error hresult := by
    cases task with
    | drain => exact absurd (taskResult?_drain hresult) (drain_create_ne_ended _ _ _ _ _)
    | reader source =>
        obtain ⟨reader, hreader, hended⟩ := taskResult?_reader hresult
        obtain ⟨pipe, -, rfl⟩ := exists_pipe_of_create hreader
        exact ReaderStage.noConfusion hended

theorem Awaited.of_same (hawaited : session.Awaited)
    (htasks : next.taskResult? = session.taskResult?) (htoJoin : next.toJoin = session.toJoin)
    (herror : next.firstError = session.firstError) : next.Awaited := by
  constructor
  · rw [htasks, htoJoin]
    exact hawaited.ended
  · rw [htasks, htoJoin, herror]
    exact hawaited.kept

theorem Awaited.stepsAlone {task : Task} (hawaited : session.Awaited)
    (halone : session.StepsAlone next task) (herror : next.firstError = session.firstError)
    (hbefore : session.taskResult? task = none) : next.Awaited := by
  have hnot : task ∉ session.toJoin := by
    intro hmem
    have hsome := hawaited.ended task hmem
    rw [hbefore] at hsome
    exact Bool.noConfusion hsome
  constructor
  · intro other hmem
    rcases halone.own with ⟨-, htoJoin⟩ | ⟨hsome, htoJoin⟩
    · rw [htoJoin] at hmem
      rw [halone.others other fun heq => hnot (heq ▸ hmem)]
      exact hawaited.ended other hmem
    · by_cases hother : other = task
      · rw [hother]
        exact hsome
      · rw [htoJoin, List.mem_append, List.mem_singleton] at hmem
        rw [halone.others other hother]
        exact hawaited.ended other (hmem.resolve_right hother)
  · intro other result error hresult hfails
    rw [herror]
    by_cases hother : other = task
    · rw [hother] at hresult ⊢
      rcases halone.own with ⟨hnone, -⟩ | ⟨-, htoJoin⟩
      · exact absurd (hnone.symm.trans hresult) (Option.some_ne_none _).symm
      · exact Or.inl (by simp [htoJoin])
    · rw [halone.others other hother] at hresult
      refine (hawaited.kept other result error hresult hfails).imp_left fun hmem => ?_
      rcases halone.own with ⟨-, htoJoin⟩ | ⟨-, htoJoin⟩
      · exact htoJoin ▸ hmem
      · rw [htoJoin]
        exact List.mem_append_left _ hmem

theorem Awaited.join {task : Task} {result : TaskResult} (hawaited : session.Awaited)
    (hresult : session.taskResult? task = some result)
    (hmove : session.JoinMove task result next) : next.Awaited := by
  have htasks : next.taskResult? = session.taskResult? :=
    taskResult?_congr hmove.keeps.1 hmove.reader?_eq
  have htoJoin := hmove.counts.2.2.2.1
  have herror := hmove.leaves_others.2.1
  constructor
  · rw [htasks, htoJoin]
    exact fun other hmem => hawaited.ended other (List.mem_of_mem_erase hmem)
  · intro other ended error hended hfails
    rw [htasks] at hended
    rw [htoJoin, herror]
    by_cases hother : other = task
    · rw [hother, hresult, Option.some.injEq] at hended
      rw [hended, hfails]
      exact Or.inr (by simp)
    · refine (hawaited.kept other ended error hended hfails).imp (fun hmem => ?_) fun hsome => ?_
      · exact (List.mem_erase_of_ne hother).mpr hmem
      · rw [Option.isSome_or, hsome, Bool.true_or]

theorem ReaderMove.taskResult?_eq_none {source : Source} {reader : Reader}
    (hreader : session.reader? source = some reader)
    (hmove : session.ReaderMove plan source reader next) :
    session.taskResult? (.reader source) = none := by
  rcases taskResult?_eq_of_reader hreader with ⟨hnone, -⟩ | ⟨-, hwork⟩
  · exact hnone
  · exact absurd (hmove.changes.1.symm.trans hwork) Nat.one_ne_zero

theorem DrainMove.taskResult?_eq_none {buffer : Buffer} {stage : DrainStage}
    (hdrain : session.drain = some stage)
    (hmove : session.DrainMove plan buffer stage next) : session.taskResult? .drain = none := by
  rcases taskResult?_eq_of_drain hdrain with ⟨hnone, -⟩ | ⟨-, hwork⟩
  · exact hnone
  · exact absurd (hmove.counts.1.symm.trans hwork) Nat.one_ne_zero

theorem Awaited.move {event : SessionEvent} (hready : plan.readyError = none)
    (hawaited : session.Awaited) (hmove : session.Move plan event next) : next.Awaited := by
  cases hmove with
  | pass => exact hawaited.of_same (taskResult?_congr rfl (reader?_of_same rfl rfl)) rfl rfl
  | cancel =>
      exact hawaited.of_same (taskResult?_congr (by simp) (funext (reader?_cancel session)))
        (by simp) (by simp)
  | reader source reader next hlaunched hreader hmove =>
      exact hawaited.stepsAlone hmove.stepsAlone hmove.leaves_others.2.1
        (hmove.taskResult?_eq_none hreader)
  | drain stage buffer next hlaunched hdrain hbuffer hmove =>
      exact hawaited.stepsAlone hmove.stepsAlone hmove.leaves_others.2.1
        (hmove.taskResult?_eq_none hdrain)
  | join task result next hmain hresult hmem hmove => exact hawaited.join hresult hmove
  | main next hmove =>
      obtain ⟨-, hdrain, htoJoin, -⟩ := hmove.counts hready
      exact hawaited.of_same (taskResult?_congr hdrain (hmove.reader?_eq hready)) htoJoin
        hmove.leaves_others.2.1
  | tracer action tracer sample? =>
      cases sample? <;>
        exact hawaited.of_same (taskResult?_congr rfl (reader?_of_same rfl rfl)) rfl rfl

/-! ## The end of the session -/

/-- There is a pipe to read. -/
def hasPipe (session : Session) : Bool :=
  session.stdout.isSome || session.stderr.isSome

/-- Where the result of a session comes from. -/
inductive Concluded (plan : Plan) (session : Session) : Except Error Unit → Prop where
  | noPipes (hpipes : session.hasPipe = false) : Concluded plan session (.error .noPipes)
  | notReady (error : Error) (hpipes : session.hasPipe = true)
      (hready : plan.readyError = some error) :
      Concluded plan session (.error (.ready error.message))
  | joined (hpipes : session.hasPipe = true) (hready : plan.readyError = none)
      (hunjoined : session.unjoined = 0) :
      Concluded plan session ((session.firstError.map Except.error).getD (.ok ()))

/-- Where a session succeeds, no error has been joined. -/
theorem Concluded.firstError_eq_none (hconcluded : session.Concluded plan (.ok ())) :
    session.firstError = none := by
  generalize hresult : Except.ok () = result at hconcluded
  cases hconcluded with
  | noPipes | notReady => cases hresult
  | joined =>
      cases hfirst : session.firstError with
      | none => rfl
      | some error => simp [hfirst] at hresult

/-- A session that is ready and has a pipe has joined all its tasks. -/
theorem Concluded.joined_of_ready {result : Except Error Unit} (hready : plan.readyError = none)
    (hpipe : session.hasPipe = true) (hconcluded : session.Concluded plan result) :
    session.unjoined = 0 ∧ result = (session.firstError.map Except.error).getD (.ok ()) := by
  cases hconcluded with
  | noPipes hnone => exact absurd (hnone.symm.trans hpipe) Bool.false_ne_true
  | notReady error hsome herror =>
      exact absurd (hready.symm.trans herror) (Option.some_ne_none _).symm
  | joined hsome hnone hunjoined => exact ⟨hunjoined, rfl⟩

end LogRelay.Session

namespace LogRelay

/-- What the main task has found when it comes to that stage. -/
def MainStage.Reached (plan : Plan) (session : Session) : MainStage → Prop
  | .starting => True
  | .launched => session.hasPipe = true
  | .joining => session.hasPipe = true ∧ plan.readyError = none
  | .flushing _ | .flushSending _ _ | .cleaning _ | .crashed =>
    session.hasPipe = true ∧ plan.readyError = none ∧ session.unjoined = 0
  | .stopping result => session.hasPipe = true ∧ session.Concluded plan result
  | .done result => session.Concluded plan result

namespace Session

variable {plan : Plan} {session next : Session}

theorem Move.hasPipe_eq {event : SessionEvent} (hmove : session.Move plan event next) :
    next.hasPipe = session.hasPipe := by
  have hstdout : next.stdout.isSome = session.stdout.isSome := hmove.reader?_isSome .stdout
  have hstderr : next.stderr.isSome = session.stderr.isSome := hmove.reader?_isSome .stderr
  rw [hasPipe, hasPipe, hstdout, hstderr]

theorem Concluded.congr {result : Except Error Unit} (hconcluded : session.Concluded plan result)
    (hpipes : next.hasPipe = session.hasPipe) (hunjoined : next.unjoined = session.unjoined)
    (herror : next.firstError = session.firstError) : next.Concluded plan result := by
  cases hconcluded with
  | noPipes hnone => exact .noPipes (hpipes.trans hnone)
  | notReady error hsome hready => exact .notReady error (hpipes.trans hsome) hready
  | joined hsome hready hzero =>
      rw [← herror]
      exact .joined (hpipes.trans hsome) hready (hunjoined.trans hzero)

theorem reached_congr {stage : MainStage} (hreached : stage.Reached plan session)
    (hpipes : next.hasPipe = session.hasPipe) (hunjoined : next.unjoined = session.unjoined)
    (herror : next.firstError = session.firstError) : stage.Reached plan next := by
  cases stage with
  | starting => trivial
  | launched => exact hpipes.trans hreached
  | joining => exact ⟨hpipes.trans hreached.1, hreached.2⟩
  | flushing | flushSending | cleaning | crashed =>
      exact ⟨hpipes.trans hreached.1, hreached.2.1, hunjoined.trans hreached.2.2⟩
  | stopping result =>
      exact ⟨hpipes.trans hreached.1, Concluded.congr hreached.2 hpipes hunjoined herror⟩
  | done result => exact Concluded.congr hreached hpipes hunjoined herror

theorem MainMove.reached (hreached : session.main.Reached plan session)
    (hmove : session.MainMove plan session.main next) (hpipes : next.hasPipe = session.hasPipe) :
    next.main.Reached plan next := by
  have herror := hmove.leaves_others.2.1
  have hcounts : plan.readyError = none → next.unjoined = session.unjoined :=
    fun hready => (hmove.counts hready).2.2.2
  generalize session.main = stage at hreached hmove
  cases hmove with
  | refuses hstdout hstderr => exact .noPipes (by simp [hasPipe, hstdout, hstderr])
  | launches hsome =>
      have hhas : session.hasPipe = true := by
        rw [Bool.and_eq_false_iff, Option.isNone_eq_false_iff, Option.isNone_eq_false_iff] at hsome
        rw [hasPipe, Bool.or_eq_true_iff]
        exact hsome
      exact hhas
  | ready =>
      cases hready : plan.readyError with
      | none =>
          have hmain : (session.ready plan).main = .joining := by simp [Session.ready, hready]
          rw [hmain]
          exact ⟨hpipes.trans hreached, hready⟩
      | some error =>
          have hmain : (session.ready plan).main = .stopping (.error (.ready error.message)) := by
            simp [Session.ready, hready, stop]
          rw [hmain]
          exact ⟨hpipes.trans hreached, .notReady error (hpipes.trans hreached) hready⟩
  | flushes buffer hunjoined hbuffer =>
      exact ⟨hpipes.trans hreached.1, hreached.2, (hcounts hreached.2).trans hunjoined⟩
  | skipsFlush hunjoined hbuffer =>
      exact ⟨hpipes.trans hreached.1, hreached.2, (hcounts hreached.2).trans hunjoined⟩
  | endsFlush =>
      have hmain : ∃ wakeAt, (session.finishFlush plan).main = .cleaning wakeAt := ⟨_, rfl⟩
      obtain ⟨wakeAt, hmain⟩ := hmain
      rw [hmain]
      exact ⟨hpipes.trans hreached.1, hreached.2.1, (hcounts hreached.2.1).trans hreached.2.2⟩
  | hands | sendGoesOn | sendOver | sendCrashes =>
      exact ⟨hpipes.trans hreached.1, hreached.2.1, (hcounts hreached.2.1).trans hreached.2.2⟩
  | stops wakeAt result hwake hresult =>
      rw [hresult, ← herror]
      exact ⟨hpipes.trans hreached.1, .joined (hpipes.trans hreached.1) hreached.2.1
        ((hcounts hreached.2.1).trans hreached.2.2)⟩
  | finishes result htracer => exact Concluded.congr hreached.2 hpipes rfl herror

theorem reached_move {event : SessionEvent} (hreached : session.main.Reached plan session)
    (hmove : session.Move plan event next) : next.main.Reached plan next := by
  have hpipes := hmove.hasPipe_eq
  have hsame : next.main = session.main → next.unjoined = session.unjoined →
      next.firstError = session.firstError → next.main.Reached plan next := by
    intro hmain hunjoined herror
    rw [hmain]
    exact reached_congr hreached hpipes hunjoined herror
  cases hmove with
  | pass => exact hsame rfl rfl rfl
  | cancel => exact hsame (by simp) (by simp) (by simp)
  | reader source reader next hlaunched hreader hmove =>
      exact hsame hmove.changes.2.1 hmove.changes.2.2.2.1 hmove.leaves_others.2.1
  | drain stage buffer next hlaunched hdrain hbuffer hmove =>
      exact hsame hmove.counts.2.2.1 hmove.counts.2.2.2.1 hmove.leaves_others.2.1
  | join task result next hmain hresult hmem hmove =>
      rw [hmain] at hreached
      rw [hmove.keeps.2.1, hmain]
      exact ⟨hpipes.trans hreached.1, hreached.2⟩
  | main next hmove => exact hmove.reached hreached hpipes
  | tracer action tracer sample? => cases sample? <;> exact hsame rfl rfl rfl

/-- Only before all tasks have been joined can a task be at work. -/
theorem isRelaying_of_atWork (hready : plan.readyError = none)
    (hreached : session.main.Reached plan session) (hcounted : session.Counted)
    (hlaunched : session.isLaunched = true) (hwork : 0 < session.atWork) :
    session.main = .launched ∨ session.main = .joining := by
  have hjoined : session.unjoined ≠ 0 := by
    rw [Counted] at hcounted
    omega
  have hnot : session.hasPipe = true → ∀ result, ¬ session.Concluded plan result :=
    fun hpipes _ hconcluded => hjoined (hconcluded.joined_of_ready hready hpipes).1
  cases hmain : session.main with
  | starting => simp [isLaunched, hmain] at hlaunched
  | launched => exact Or.inl rfl
  | joining => exact Or.inr rfl
  | flushing | flushSending | cleaning | crashed =>
      rw [hmain] at hreached
      exact absurd hreached.2.2 hjoined
  | stopping result =>
      rw [hmain] at hreached
      exact absurd hreached.2 (hnot hreached.1 result)
  | done result =>
      rw [hmain] at hreached
      cases hpipes : session.hasPipe with
      | true => exact absurd hreached (hnot hpipes result)
      | false =>
          cases hreached with
          | noPipes => simp [isLaunched, hmain] at hlaunched
          | notReady error hsome => exact absurd (hpipes.symm.trans hsome) Bool.false_ne_true
          | joined hsome => exact absurd (hpipes.symm.trans hsome) Bool.false_ne_true

end Session

end LogRelay
