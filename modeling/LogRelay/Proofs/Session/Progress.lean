import LogRelay.Proofs.Session.Joining
import LogRelay.Proofs.Session.Producers
import LogRelay.Proofs.Session.Work

/-!
# There is always something to do

A session that is not over can go on, now or when some time has passed: a task
is at work or waits to be joined, or the main task goes on by itself.  Only a
pipe that hangs can keep a session from going on, and only until the session is
cancelled.
-/

namespace LogRelay

theorem Reader.atWork_cases (reader : Reader) : reader.atWork = 0 ∨ reader.atWork = 1 := by
  rw [atWork]
  split
  · exact Or.inl rfl
  · exact Or.inr rfl

theorem DrainStage.atWork_cases (stage : DrainStage) : stage.atWork = 0 ∨ stage.atWork = 1 := by
  cases stage with
  | ended result => exact Or.inl rfl
  | waiting | sending => exact Or.inr rfl

namespace Session

variable {plan : Plan} {session next : Session}

/-! ## The buffer closes -/

/-- The buffer is closed when its producers have finished, and only a reader at
work has not. -/
def Closing (session : Session) : Prop :=
  ∀ buffer, session.buffer = some buffer →
    buffer.producers ≤ session.readersAtWork + buffer.closedProducers ∧
      (buffer.producers ≤ buffer.closedProducers → buffer.closed = true)

theorem closing_create (plan : Plan) (stdout stderr : Option PipeScript) (sink : SinkBehaviour) :
    (create plan stdout stderr sink).Closing := by
  intro buffer hbuffer
  rw [readersAtWork_create]
  simp only [create] at hbuffer
  split at hbuffer
  · cases hbuffer
    simp only [Buffer.create]
    refine ⟨Nat.le_refl _, fun hproducers => ?_⟩
    simpa using hproducers
  · exact absurd hbuffer (Option.some_ne_none _).symm

theorem Closing.move {event : SessionEvent} (hready : plan.readyError = none)
    (hclosing : session.Closing) (hmove : session.Move plan event next) : next.Closing := by
  intro after hafter
  cases hbuffer : session.buffer with
  | none =>
      have hnone := hmove.buffer_eq_none hready hbuffer
      exact absurd (hnone.symm.trans hafter) (Option.some_ne_none _).symm
  | some buffer =>
      obtain ⟨found, hfound, hstep⟩ := hmove.bufferStep hready hbuffer
      obtain rfl : found = after := Option.some.inj (hfound.symm.trans hafter)
      obtain ⟨hproducers, hclosed⟩ := hclosing buffer hbuffer
      cases hstep with
      | stays hreaders hoffers | empties hreaders hoffers =>
          rw [hreaders]
          exact ⟨hproducers, hclosed⟩
      | takes message hwork hreaders =>
          obtain ⟨hsame, hfinished⟩ := fields_enqueue buffer message
          rw [hreaders, hsame, hfinished, Buffer.closed_enqueue]
          exact ⟨hproducers, hclosed⟩
      | gives message rest hdequeue hreaders hoffers =>
          obtain ⟨hsame, hfinished⟩ := fields_of_dequeue? hdequeue
          rw [hreaders, hsame, hfinished, Buffer.closed_of_dequeue? hdequeue]
          exact ⟨hproducers, hclosed⟩
      | closes hreaders hoffers =>
          simp only [Buffer.closeProducer, Bool.or_eq_true, decide_eq_true_eq]
          exact ⟨by omega, Or.inr⟩

/-! ## What can be done at some time -/

/-- The session has a buffer if and only if it has a drain. -/
def Paired (session : Session) : Prop :=
  session.drain.isSome = session.buffer.isSome

theorem paired_create (plan : Plan) (stdout stderr : Option PipeScript) (sink : SinkBehaviour) :
    (create plan stdout stderr sink).Paired := by
  simp only [Paired, create]
  split <;> rfl

theorem Paired.move {event : SessionEvent} (hready : plan.readyError = none)
    (hpaired : session.Paired) (hmove : session.Move plan event next) : next.Paired := by
  rw [Paired, hmove.isSome_buffer hready, ← hpaired]
  rcases hmove.drain_cases with hdrain | ⟨stage, buffer, hdrain, -, hmove⟩ | ⟨hsome, -⟩
  · rw [hdrain]
  · obtain ⟨after, hafter⟩ := hmove.exists_drain
    rw [hafter, hdrain]
    rfl
  · simp [hready] at hsome

theorem exists_send? (plan : Plan) {sending : Sending} (hdue : sending.dueAt ≤ session.clock) :
    ∃ result, session.send? plan sending = some result := by
  rw [send?, if_neg (Nat.not_lt.mpr hdue)]
  dsimp only
  split
  · exact ⟨_, rfl⟩
  · split <;> exact ⟨_, rfl⟩

theorem isSome_stepReader?_of_asking {source : Source} {reader : Reader}
    (hstage : reader.stage = .asking) : (session.stepReader? plan source reader).isSome = true := by
  simp only [stepReader?, hstage]
  split <;> rfl

theorem isSome_stepReader?_of_reading {source : Source} {reader : Reader} {asked : Nat}
    {looking : Bool} (hstage : reader.stage = .reading asked looking)
    (hgoes : reader.pipe.isWaiting session.clock = false ∨ session.cancelled = true) :
    (session.stepReader? plan source reader).isSome = true := by
  simp only [stepReader?, hstage]
  split
  · rfl
  · next hlooks =>
      split
      · rfl
      · rfl
      · rfl
      · split
        · next hwaits =>
            rw [Bool.and_eq_true, Bool.not_eq_true'] at hwaits
            rcases hgoes with hnot | hcancelled
            · exact absurd (hnot.symm.trans hwaits.1) Bool.false_ne_true
            · simp [hcancelled, hwaits.2] at hlooks
        · rfl

theorem isSome_stepReader?_of_sending {source : Source} {reader : Reader} {sending : Sending}
    (hstage : reader.stage = .sending sending) (hdue : sending.dueAt ≤ session.clock) :
    (session.stepReader? plan source reader).isSome = true := by
  obtain ⟨⟨sent, progress⟩, hsend⟩ := exists_send? plan hdue
  simp only [stepReader?, hstage, hsend]
  cases progress <;> rfl

theorem isSome_stepDrain? {buffer : Buffer} {stage : DrainStage} (hwork : stage.atWork = 1)
    (hclosed : buffer.closed = true)
    (hdue : ∀ sending, stage = .sending sending → sending.dueAt ≤ session.clock) :
    (session.stepDrain? plan buffer stage).isSome = true := by
  cases stage with
  | ended result => exact absurd hwork Nat.zero_ne_one
  | waiting =>
      rw [stepDrain?]
      split
      · rfl
      · rw [if_pos hclosed]
        rfl
  | sending sending =>
      obtain ⟨⟨sent, progress⟩, hsend⟩ := exists_send? plan (hdue sending rfl)
      simp only [stepDrain?, hsend]
      cases progress <;> rfl

/-- The tasks are as they were, and the step can be made from some time on if no
pipe hangs or the session is cancelled. -/
def CanDo (plan : Plan) (session : Session) (event : SessionEvent) : Prop :=
  ∃ time, ∀ later, session.SameTasks later → time ≤ later.clock →
    ((∀ source reader, later.reader? source = some reader → reader.pipe.isAlive = true) ∨
      later.cancelled = true) →
    (later.step? plan event).isSome = true

/-- What the order of the tasks amounts to when the session is ready. -/
structure Orderly (session : Session) : Prop where
  counted : session.Counted
  awaited : session.Awaited
  closing : session.Closing
  paired : session.Paired

theorem orderly_create (plan : Plan) (stdout stderr : Option PipeScript) (sink : SinkBehaviour) :
    (create plan stdout stderr sink).Orderly where
  counted := counted_create plan stdout stderr sink
  awaited := awaited_create plan stdout stderr sink
  closing := closing_create plan stdout stderr sink
  paired := paired_create plan stdout stderr sink

theorem Orderly.move {event : SessionEvent} (hready : plan.readyError = none)
    (horderly : session.Orderly) (hmove : session.Move plan event next) : next.Orderly where
  counted := horderly.counted.move hready hmove
  awaited := horderly.awaited.move hready hmove
  closing := horderly.closing.move hready hmove
  paired := horderly.paired.move hready hmove

theorem SameTasks.reader?_eq (hsame : session.SameTasks next) : next.reader? = session.reader? :=
  reader?_of_same hsame.stdout hsame.stderr

theorem isLaunched_of_joining (hmain : session.main = .joining) : session.isLaunched = true := by
  rw [isLaunched, hmain]

theorem step?_reader {source : Source} {reader : Reader} (hlaunched : session.isLaunched = true)
    (hreader : session.reader? source = some reader) :
    session.step? plan (.reader source) = session.stepReader? plan source reader := by
  rw [step?, if_pos hlaunched, hreader]

theorem canDo_reader {source : Source} {reader : Reader} (hmain : session.main = .joining)
    (hreader : session.reader? source = some reader) (hwork : reader.atWork = 1) :
    session.CanDo plan (.reader source) := by
  have hstep : ∀ later : Session, session.SameTasks later →
      later.step? plan (.reader source) = later.stepReader? plan source reader := by
    intro later hsame
    have hlaunched := isLaunched_of_joining (hsame.main.trans hmain)
    exact step?_reader hlaunched (by rw [hsame.reader?_eq, hreader])
  cases hstage : reader.stage with
  | ended result => simp [Reader.atWork, hstage] at hwork
  | asking =>
      refine ⟨0, fun later hsame _ _ => ?_⟩
      rw [hstep later hsame]
      exact isSome_stepReader?_of_asking hstage
  | sending sending =>
      refine ⟨sending.dueAt, fun later hsame hdue _ => ?_⟩
      rw [hstep later hsame]
      exact isSome_stepReader?_of_sending hstage hdue
  | reading asked looking =>
      cases halive : reader.pipe.isAlive with
      | true =>
          obtain ⟨time, hwaits⟩ := PipeScript.exists_time_of_isAlive halive
          refine ⟨time, fun later hsame htime _ => ?_⟩
          rw [hstep later hsame]
          exact isSome_stepReader?_of_reading hstage (Or.inl (hwaits later.clock htime))
      | false =>
          refine ⟨0, fun later hsame _ hends => ?_⟩
          rw [hstep later hsame]
          apply isSome_stepReader?_of_reading hstage
          rcases hends with hpipes | hcancelled
          · have hlater : later.reader? source = some reader := by rw [hsame.reader?_eq, hreader]
            exact absurd (halive.symm.trans (hpipes source reader hlater)) Bool.false_ne_true
          · exact Or.inr hcancelled

theorem canDo_drain {stage : DrainStage} (hmain : session.main = .joining)
    (horderly : session.Orderly) (hreaders : session.readersAtWork = 0)
    (hdrain : session.drain = some stage) (hwork : stage.atWork = 1) :
    session.CanDo plan .drain := by
  have hsome : session.buffer.isSome = true := by
    rw [← horderly.paired, hdrain]
    rfl
  obtain ⟨buffer, hbuffer⟩ := Option.isSome_iff_exists.mp hsome
  obtain ⟨hproducers, hcloses⟩ := horderly.closing buffer hbuffer
  have hclosed : buffer.closed = true := hcloses (by omega)
  have hstep : ∀ later : Session, session.SameTasks later →
      later.step? plan .drain = later.stepDrain? plan buffer stage := by
    intro later hsame
    have hlaunched := isLaunched_of_joining (hsame.main.trans hmain)
    simp only [step?, hlaunched, if_true, hsame.drain, hsame.buffer, hdrain, hbuffer]
  have hdue : ∃ time, ∀ sending, stage = .sending sending → sending.dueAt ≤ time := by
    cases stage with
    | sending sending =>
        refine ⟨sending.dueAt, fun other hother => ?_⟩
        cases hother
        exact Nat.le_refl _
    | waiting | ended => exact ⟨0, fun _ hother => DrainStage.noConfusion hother⟩
  obtain ⟨time, htime⟩ := hdue
  refine ⟨time, fun later hsame hlater _ => ?_⟩
  rw [hstep later hsame]
  exact isSome_stepDrain? hwork hclosed fun sending hsending =>
    Nat.le_trans (htime sending hsending) hlater

/-- A task that has ended can be joined, whatever else keeps the session. -/
theorem isSome_step?_join {task : Task} (hmain : session.main = .joining)
    (hawaited : session.Awaited) (hmem : task ∈ session.toJoin) (hsame : session.SameTasks next) :
    (next.step? plan (.join task)).isSome = true := by
  have htasks : next.taskResult? = session.taskResult? :=
    taskResult?_congr hsame.drain hsame.reader?_eq
  obtain ⟨result, hresult⟩ := Option.isSome_iff_exists.mp (hawaited.ended task hmem)
  have hlater : task ∈ next.toJoin := hsame.toJoin ▸ hmem
  simp only [step?, join?, hsame.main, hmain, htasks, hresult, if_pos hlater]
  split <;> rfl

theorem canDo_join {task : Task} (hmain : session.main = .joining) (hawaited : session.Awaited)
    (hmem : task ∈ session.toJoin) : session.CanDo plan (.join task) :=
  ⟨0, fun _ hsame _ _ => isSome_step?_join hmain hawaited hmem hsame⟩

/-- As long as not all tasks are joined, one of them can go on or be joined. -/
theorem exists_canDo_of_joining (hmain : session.main = .joining) (horderly : session.Orderly) :
    ∃ event, event.isWork = true ∧ session.CanDo plan event := by
  by_cases hunjoined : session.unjoined = 0
  · refine ⟨.main, rfl, 0, fun later hsame _ _ => ?_⟩
    simp only [step?, stepMain?, hsame.main, hmain, hsame.unjoined, hunjoined, if_true,
      Option.isSome_some]
  · cases htoJoin : session.toJoin with
    | cons task rest =>
        refine ⟨.join task, rfl, canDo_join hmain horderly.awaited ?_⟩
        rw [htoJoin]
        exact List.mem_cons_self
    | nil =>
        have hcounted := horderly.counted
        rw [Counted, htoJoin, List.length_nil, Nat.add_zero, atWork] at hcounted
        have hreader : ∀ source, ((session.reader? source).map Reader.atWork).getD 0 ≠ 0 →
            session.CanDo plan (.reader source) := by
          intro source hwork
          cases hreader : session.reader? source with
          | none => simp [hreader] at hwork
          | some reader =>
              rw [hreader, Option.map_some, Option.getD_some] at hwork
              exact canDo_reader hmain hreader (reader.atWork_cases.resolve_left hwork)
        by_cases hstdout : (session.stdout.map Reader.atWork).getD 0 = 0
        · by_cases hstderr : (session.stderr.map Reader.atWork).getD 0 = 0
          · refine ⟨.drain, rfl, ?_⟩
            cases hdrain : session.drain with
            | none =>
                rw [readersAtWork, hstdout, hstderr, hdrain] at hcounted
                exact absurd hcounted hunjoined
            | some stage =>
                have hreaders : session.readersAtWork = 0 := by
                  rw [readersAtWork, hstdout, hstderr]
                rw [hreaders, hdrain, Option.map_some, Option.getD_some, Nat.zero_add] at hcounted
                apply canDo_drain hmain horderly hreaders hdrain
                apply stage.atWork_cases.resolve_left
                exact fun hnone => hunjoined (hcounted.trans hnone)
          · exact ⟨.reader .stderr, rfl, hreader .stderr hstderr⟩
        · exact ⟨.reader .stdout, rfl, hreader .stdout hstdout⟩

/-! ## The main task -/

/-- The main task has come to its end. -/
def isOver (session : Session) : Bool :=
  match session.main with
  | .done _ | .crashed => true
  | _ => false

theorem isSome_stepMain?_of_starting
    (hmain : session.main = .starting ∨ session.main = .launched) :
    (session.stepMain? plan).isSome = true := by
  rcases hmain with hmain | hmain
  · rw [stepMain?, hmain]
    dsimp only
    split <;> rfl
  · rw [stepMain?, hmain]
    rfl

theorem canDo_main (hmain : ∃ time, ∀ later : Session, later.main = session.main →
    time ≤ later.clock → (later.stepMain? plan).isSome = true) : session.CanDo plan .main := by
  obtain ⟨time, hstep⟩ := hmain
  exact ⟨time, fun later hsame htime _ => hstep later hsame.main htime⟩

/-- As long as a task waits to be joined, it can be joined, or the main task can go on
until it can be. -/
theorem exists_step_of_toJoin {task : Task} (hready : plan.readyError = none)
    (hreached : session.main.Reached plan session) (horderly : session.Orderly)
    (hover : session.isOver = false) (hmem : task ∈ session.toJoin) :
    ∃ event, event.isWork = true ∧
      ∀ later, session.SameTasks later → (later.step? plan event).isSome = true := by
  have hunjoined : session.unjoined ≠ 0 := by
    have hcounted := horderly.counted
    have hpos := List.length_pos_of_mem hmem
    rw [Counted] at hcounted
    omega
  cases hmain : session.main with
  | starting =>
      exact ⟨.main, rfl, fun later hsame =>
        isSome_stepMain?_of_starting (Or.inl (hsame.main.trans hmain))⟩
  | launched =>
      exact ⟨.main, rfl, fun later hsame =>
        isSome_stepMain?_of_starting (Or.inr (hsame.main.trans hmain))⟩
  | joining =>
      exact ⟨.join task, rfl, fun later hsame =>
        isSome_step?_join hmain horderly.awaited hmem hsame⟩
  | flushing | flushSending | cleaning =>
      rw [hmain] at hreached
      exact absurd hreached.2.2 hunjoined
  | stopping result =>
      rw [hmain] at hreached
      exact absurd (hreached.2.joined_of_ready hready hreached.1).1 hunjoined
  | done | crashed => simp [isOver, hmain] at hover

/-- As long as the session is not over, some task can go on, or the main task
waits for the reporting task to stop. -/
theorem exists_canDo (hreached : session.main.Reached plan session)
    (horderly : plan.readyError = none → session.Orderly) (hover : session.isOver = false) :
    (∃ event, event.isWork = true ∧ session.CanDo plan event) ∨
      ∃ result, session.main = .stopping result := by
  cases hmain : session.main with
  | stopping result => exact Or.inr ⟨result, rfl⟩
  | done | crashed => simp [isOver, hmain] at hover
  | joining =>
      rw [hmain] at hreached
      exact Or.inl (exists_canDo_of_joining hmain (horderly hreached.2))
  | starting =>
      exact Or.inl ⟨.main, rfl, canDo_main ⟨0, fun later hlater _ =>
        isSome_stepMain?_of_starting (Or.inl (hlater.trans hmain))⟩⟩
  | launched =>
      exact Or.inl ⟨.main, rfl, canDo_main ⟨0, fun later hlater _ =>
        isSome_stepMain?_of_starting (Or.inr (hlater.trans hmain))⟩⟩
  | flushing remaining =>
      refine Or.inl ⟨.main, rfl, canDo_main ⟨0, fun later hlater _ => ?_⟩⟩
      rw [stepMain?, hlater, hmain]
      cases remaining <;> rfl
  | flushSending sending remaining =>
      refine Or.inl ⟨.main, rfl, canDo_main ⟨sending.dueAt, fun later hlater hdue => ?_⟩⟩
      obtain ⟨⟨sent, progress⟩, hsend⟩ := exists_send? plan hdue
      rw [stepMain?, hlater, hmain]
      simp only [hsend]
      cases progress <;> rfl
  | cleaning wakeAt =>
      refine Or.inl ⟨.main, rfl, canDo_main ⟨wakeAt, fun later hlater hwake => ?_⟩⟩
      rw [stepMain?, hlater, hmain]
      simp only [if_neg (Nat.not_lt.mpr hwake)]
      split <;> rfl

end Session

end LogRelay
