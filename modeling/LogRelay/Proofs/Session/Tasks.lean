import LogRelay.Proofs.Session.Moves

/-!
# Tasks that end are joined

A task that has ended waits to be joined, and no task is joined before.  So the
tasks that have not been joined are those at work and those that wait, and once
there are none left, every reader and the drain have ended.
-/

namespace LogRelay

def Reader.atWork (reader : Reader) : Nat :=
  match reader.stage with
  | .ended _ => 0
  | _ => 1

def DrainStage.atWork : DrainStage → Nat
  | .ended _ => 0
  | _ => 1

namespace Session

/-- How many readers have not ended. -/
def readersAtWork (session : Session) : Nat :=
  (session.stdout.map Reader.atWork).getD 0 + (session.stderr.map Reader.atWork).getD 0

/-- How many tasks have not ended. -/
def atWork (session : Session) : Nat :=
  session.readersAtWork + (session.drain.map DrainStage.atWork).getD 0

/-- Every task that has not been joined is at work or waits to be joined. -/
def Counted (session : Session) : Prop :=
  session.unjoined = session.atWork + session.toJoin.length

variable {plan : Plan} {session next : Session}

theorem readersAtWork_create (plan : Plan) (stdout stderr : Option PipeScript)
    (sink : SinkBehaviour) : (create plan stdout stderr sink).readersAtWork =
      (if stdout.isSome then 1 else 0) + if stderr.isSome then 1 else 0 := by
  cases stdout <;> cases stderr <;> rfl

theorem counted_create (plan : Plan) (stdout stderr : Option PipeScript) (sink : SinkBehaviour) :
    (create plan stdout stderr sink).Counted := by
  rw [Counted, atWork, readersAtWork_create]
  simp only [create, List.length_nil, Nat.add_zero]
  cases decide (plan.options.mode = .nonBlocking) <;> rfl

/-- A step of a reader puts another reader in its place.  If that one has ended,
it waits to be joined. -/
theorem ReaderMove.changes {source : Source} {reader : Reader}
    (hmove : session.ReaderMove plan source reader next) :
    reader.atWork = 1 ∧ next.main = session.main ∧ next.drain = session.drain ∧
      next.unjoined = session.unjoined ∧
      ∃ after : Reader,
        next.stdout = (if source = .stdout then some after else session.stdout) ∧
        next.stderr = (if source = .stderr then some after else session.stderr) ∧
        after.atWork + next.toJoin.length = 1 + session.toJoin.length := by
  cases hmove with
  | offers message framer buffer hstage =>
      refine ⟨?_, ?_, ?_, ?_, { reader with framer := framer, stage := .asking }, ?_⟩ <;>
        simp [Reader.atWork, hstage]
  | hands message framer hstage =>
      refine ⟨?_, ?_, ?_, ?_, ⟨framer, reader.pipe,
        .sending ((session.note (.framed message)).hand plan message).2⟩, ?_⟩ <;>
        simp [Reader.atWork, hstage]
  | finishes hstage =>
      refine ⟨?_, ?_, ?_, ?_, { reader with stage := .ended .finished }, ?_⟩ <;>
        simp [Reader.atWork, hstage, Nat.add_comm]
  | begins asked hstage =>
      refine ⟨?_, ?_, ?_, ?_, { reader with stage := .reading asked false }, ?_⟩ <;>
        simp [Reader.atWork, hstage]
  | leaves asked hstage =>
      refine ⟨?_, ?_, ?_, ?_, { reader with stage := .ended .finished }, ?_⟩ <;>
        simp [Reader.atWork, hstage, Nat.add_comm]
  | reads asked looking next hstage hgoes hread =>
      have hwork : reader.atWork = 1 := by rw [Reader.atWork, hstage]
      refine ⟨hwork, ?_⟩
      cases hread with
      | brings bytes pipe =>
          refine ⟨?_, ?_, ?_, ⟨(reader.framer.receive (plan.runIds source)
            (plan.timeOfDay session.clock) bytes).1, pipe, .asking⟩, ?_⟩ <;>
            simp [Reader.atWork]
      | startsAgain failure pipe =>
          refine ⟨?_, ?_, ?_, ⟨reader.framer, pipe, .asking⟩, ?_⟩ <;> simp [Reader.atWork]
      | fails failure pipe =>
          refine ⟨?_, ?_, ?_, ⟨reader.framer, pipe, .ended (.failed (.read source failure))⟩, ?_⟩ <;>
            simp [Reader.atWork, Nat.add_comm]
      | crashes pipe =>
          refine ⟨?_, ?_, ?_, ⟨reader.framer, pipe, .ended .crashed⟩, ?_⟩ <;>
            simp [Reader.atWork, Nat.add_comm]
      | cancels pipe =>
          refine ⟨?_, ?_, ?_, ⟨reader.framer, pipe, .reading asked true⟩, ?_⟩ <;>
            simp [Reader.atWork]
      | waits until? pipe =>
          refine ⟨?_, ?_, ?_, ⟨reader.framer, pipe, .reading asked false⟩, ?_⟩ <;>
            simp [Reader.atWork]
  | sendGoesOn sending later sent hstage hdue hsend =>
      refine ⟨?_, ?_, ?_, ?_, { reader with stage := .sending later }, ?_⟩ <;>
        simp [Reader.atWork, hstage, hsend.keeps]
  | sendOver sending sent hstage hdue hsend =>
      refine ⟨?_, ?_, ?_, ?_, { reader with stage := .asking }, ?_⟩ <;>
        simp [Reader.atWork, hstage, hsend.keeps]
  | sendCrashes sending sent hstage hdue hsend =>
      refine ⟨?_, ?_, ?_, ?_, { reader with stage := .ended .crashed }, ?_⟩ <;>
        simp [Reader.atWork, hstage, hsend.keeps, Nat.add_comm]

/-- A step of a reader is a step of one that is at work, which may end with it. -/
theorem ReaderMove.counts {source : Source} {reader : Reader}
    (hreader : session.reader? source = some reader)
    (hmove : session.ReaderMove plan source reader next) :
    0 < session.readersAtWork ∧
      next.readersAtWork + next.toJoin.length = session.readersAtWork + session.toJoin.length := by
  obtain ⟨hwork, -, -, -, after, hstdout, hstderr, hlength⟩ := hmove.changes
  cases source with
  | stdout =>
      have hbefore : session.stdout = some reader := hreader
      rw [readersAtWork, readersAtWork, hstdout, hstderr, hbefore]
      simp only [if_true, reduceCtorEq, if_false, Option.map_some, Option.getD_some]
      omega
  | stderr =>
      have hbefore : session.stderr = some reader := hreader
      rw [readersAtWork, readersAtWork, hstdout, hstderr, hbefore]
      simp only [if_true, reduceCtorEq, if_false, Option.map_some, Option.getD_some]
      omega

theorem DrainMove.counts {buffer : Buffer} {stage : DrainStage}
    (hmove : session.DrainMove plan buffer stage next) :
    stage.atWork = 1 ∧ next.readersAtWork = session.readersAtWork ∧
      next.main = session.main ∧ next.unjoined = session.unjoined ∧
      (next.drain.map DrainStage.atWork).getD 0 + next.toJoin.length =
        1 + session.toJoin.length := by
  cases hmove with
  | takes => simp [setDrain, readersAtWork, DrainStage.atWork]
  | finishes => simp [readersAtWork, DrainStage.atWork, Nat.add_comm]
  | sendGoesOn sending later sent hdue hsend =>
      simp [setDrain, readersAtWork, DrainStage.atWork, hsend.keeps]
  | sendOver sending sent hdue hsend =>
      simp [setDrain, readersAtWork, DrainStage.atWork, hsend.keeps]
  | sendCrashes sending sent hdue hsend =>
      simp [readersAtWork, DrainStage.atWork, hsend.keeps, Nat.add_comm]

theorem JoinMove.counts {task : Task} {result : TaskResult}
    (hmove : session.JoinMove task result next) :
    next.readersAtWork = session.readersAtWork ∧ next.drain = session.drain ∧
      next.main = session.main ∧ next.toJoin = session.toJoin.erase task ∧
      next.unjoined = session.unjoined - 1 := by
  cases hmove <;> simp [readersAtWork]

theorem Counted.reader {source : Source} {reader : Reader} (hcounted : session.Counted)
    (hreader : session.reader? source = some reader)
    (hmove : session.ReaderMove plan source reader next) : next.Counted := by
  obtain ⟨-, -, hdrain, hunjoined, -⟩ := hmove.changes
  obtain ⟨-, hcounts⟩ := hmove.counts hreader
  rw [Counted, atWork] at hcounted ⊢
  rw [hunjoined, hdrain, hcounted]
  omega

theorem Counted.drain {stage : DrainStage} {buffer : Buffer} (hcounted : session.Counted)
    (hdrain : session.drain = some stage)
    (hmove : session.DrainMove plan buffer stage next) : next.Counted := by
  obtain ⟨hwork, hreaders, -, hunjoined, hcounts⟩ := hmove.counts
  rw [Counted, atWork] at hcounted ⊢
  rw [hdrain, Option.map_some, Option.getD_some, hwork] at hcounted
  rw [hunjoined, hreaders, hcounted]
  omega

theorem Counted.join {task : Task} {result : TaskResult} (hcounted : session.Counted)
    (hmem : task ∈ session.toJoin) (hmove : session.JoinMove task result next) :
    next.Counted := by
  obtain ⟨hreaders, hdrain, -, htoJoin, hunjoined⟩ := hmove.counts
  have hlength := List.length_erase_of_mem hmem
  have hpos := List.length_pos_of_mem hmem
  rw [Counted, atWork] at hcounted ⊢
  rw [hunjoined, hreaders, hdrain, htoJoin, hcounted]
  omega

/-- If the ready callback succeeds, the main task ends no other task. -/
theorem MainMove.counts {stage : MainStage} (hready : plan.readyError = none)
    (hmove : session.MainMove plan stage next) :
    next.readersAtWork = session.readersAtWork ∧ next.drain = session.drain ∧
      next.toJoin = session.toJoin ∧ next.unjoined = session.unjoined := by
  cases hmove with
  | refuses | launches | flushes => simp [readersAtWork]
  | ready => simp [Session.ready, hready, readersAtWork]
  | skipsFlush => simp [clean, readersAtWork]
  | endsFlush =>
      rw [finishFlush]
      simp only [clean, readersAtWork]
      split <;> simp
  | hands => simp [readersAtWork]
  | sendGoesOn sending later remaining sent hdue hsend => simp [readersAtWork, hsend.keeps]
  | sendOver sending remaining sent hdue hsend => simp [readersAtWork, hsend.keeps]
  | sendCrashes sending remaining sent hdue hsend => simp [readersAtWork, hsend.keeps]
  | stops | finishes => simp [stop, readersAtWork]

theorem Counted.move {event : SessionEvent} (hready : plan.readyError = none)
    (hcounted : session.Counted) (hmove : session.Move plan event next) : next.Counted := by
  cases hmove with
  | pass => exact hcounted
  | cancel => simpa [Counted, atWork, readersAtWork] using hcounted
  | reader source reader next hlaunched hreader hmove => exact hcounted.reader hreader hmove
  | drain stage buffer next hlaunched hdrain hbuffer hmove => exact hcounted.drain hdrain hmove
  | join task result next hmain hresult hmem hmove => exact hcounted.join hmem hmove
  | main next hmove =>
      obtain ⟨hreaders, hdrain, htoJoin, hunjoined⟩ := hmove.counts hready
      rw [Counted, atWork, hreaders, hdrain, htoJoin, hunjoined]
      exact hcounted
  | tracer action tracer sample? =>
      cases sample? <;> simpa [Counted, atWork, readersAtWork] using hcounted

end Session

end LogRelay
