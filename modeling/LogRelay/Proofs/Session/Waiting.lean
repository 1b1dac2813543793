import LogRelay.Proofs.Buffer.LoneConsumer
import LogRelay.Proofs.Session.Ledger
import LogRelay.Proofs.Session.Tasks

/-!
# The drain waits as a consumer does

A session lets its drain go on as soon as there is a message in the buffer or the buffer is
closed.  The buffer lets a consumer go on that has looked in vain only when it is given a
signal.  Both come to the same: the steps of a session are turns at its buffer, and in every
state the drain can make a step if and only if its turn as the one consumer of the buffer
comes to something, which is then the same message or the same end.
-/

namespace LogRelay.Session

variable {plan : Plan} {session next : Session} {monitor : Monitor}

/-- The name under which the drain registers. -/
def drainName : Nat := 0

/-- The buffer of the session with the drain on its list, if it has begun to wait. -/
structure Watches (session : Session) (monitor : Monitor) : Prop where
  buffer : session.buffer = some monitor.buffer
  serves : monitor.Serves drainName (session.drain = some .waiting)

/-- Some turns at the buffer lead to that of the session. -/
def WatchesAfter (session : Session) (monitor : Monitor) : Prop :=
  ∃ later, Relation.ReflTransGen Monitor.Turn monitor later ∧ session.Watches later

theorem Watches.now (hwatches : session.Watches monitor) : session.WatchesAfter monitor :=
  ⟨monitor, .refl, hwatches⟩

theorem Watches.of_eq (hwatches : session.Watches monitor)
    (hbuffer : next.buffer = session.buffer) (hdrain : next.drain = session.drain) :
    next.Watches monitor :=
  ⟨hbuffer.trans hwatches.buffer, hdrain ▸ hwatches.serves⟩

theorem Watches.stays (hwatches : session.Watches monitor)
    (hbuffer : next.buffer = session.buffer) (hdrain : next.drain = session.drain) :
    next.WatchesAfter monitor :=
  (hwatches.of_eq hbuffer hdrain).now

theorem watches_create {stdout stderr : Option PipeScript} {sink : SinkBehaviour}
    (hmode : plan.options.mode = .nonBlocking) :
    (create plan stdout stderr sink).Watches (Monitor.create plan.options.maxBufferSize
      ((if stdout.isSome then 1 else 0) + if stderr.isSome then 1 else 0)) := by
  refine ⟨?_, Monitor.serves_create _ _ _ _⟩
  simp only [create, hmode, decide_true, if_true]
  rfl

/-! ## The turn of the drain -/

/-- The drain that waits can make a step if and only if its turn comes to something.  It then
hands over what it has been given, or ends; else it waits for a signal. -/
theorem Watches.turn (plan : Plan) (hwatches : session.Watches monitor)
    (hwaiting : session.drain = some .waiting) :
    match (monitor.turn drainName).2 with
    | some taken => ∃ next, session.stepDrain? plan monitor.buffer .waiting = some next ∧
        next.handed = session.handed ++ taken.toList ∧
        next.Watches (monitor.turn drainName).1
    | none => session.stepDrain? plan monitor.buffer .waiting = none ∧
        (∃ consumer ∈ (monitor.turn drainName).1.consumers, consumer.IsIdle) ∧
        session.Watches (monitor.turn drainName).1 := by
  have hserves := hwatches.serves.turn
  obtain ⟨permit, hturn⟩ := hwatches.serves.turn_eq
  cases hdequeue : monitor.buffer.dequeue? with
  | some taken =>
      obtain ⟨message, rest⟩ := taken
      simp only [hdequeue] at hturn
      rw [hturn] at hserves ⊢
      refine ⟨_, by rw [stepDrain?, hdequeue], ?_, ?_, ?_⟩
      · simp [handed, setDrain]
      · simp [setDrain]
      · exact hserves.mono fun hnone => absurd hnone (Option.some_ne_none _)
  | none =>
      cases hclosed : monitor.buffer.closed with
      | true =>
          simp only [hdequeue, hclosed, if_true] at hturn
          rw [hturn] at hserves ⊢
          refine ⟨session.endDrain .finished, ?_, ?_, ?_, ?_⟩
          · rw [stepDrain?, hdequeue]
            exact if_pos hclosed
          · simp [handed]
          · simp [hwatches.buffer]
          · exact hserves.mono fun hnone => absurd hnone (Option.some_ne_none _)
      | false =>
          simp only [hdequeue, hclosed, Bool.false_eq_true, if_false] at hturn
          rw [hturn] at hserves ⊢
          refine ⟨?_, ⟨_, List.mem_singleton_self _, rfl, rfl⟩, hwatches.buffer, ?_⟩
          · rw [stepDrain?, hdequeue]
            exact if_neg (Bool.eq_false_iff.mp hclosed)
          · exact hserves.mono fun _ => hwaiting

/-- While the drain waits without a signal there is nothing that it could do. -/
theorem Watches.stepDrain?_of_idle {consumer : Consumer} (hwatches : session.Watches monitor)
    (hmem : consumer ∈ monitor.consumers) (hidle : consumer.IsIdle) :
    session.stepDrain? plan monitor.buffer .waiting = none := by
  obtain ⟨hempty, hopen⟩ := hwatches.serves.nothing_of_idle hmem hidle
  rw [stepDrain?, hempty]
  exact if_neg (Bool.eq_false_iff.mp hopen)

/-! ## Steps are turns -/

theorem WatchesAfter.trans {middle : Monitor} (hafter : session.WatchesAfter middle)
    (hturns : Relation.ReflTransGen Monitor.Turn monitor middle) : session.WatchesAfter monitor :=
  let ⟨later, hlater, hwatches⟩ := hafter
  ⟨later, hturns.trans hlater, hwatches⟩

theorem Watches.closes (hwatches : session.Watches monitor)
    (hbuffer : next.buffer = session.buffer.map Buffer.closeProducer)
    (hdrain : next.drain = session.drain) : next.WatchesAfter monitor := by
  refine ⟨_, .single .finishes, ?_, hdrain ▸ hwatches.serves.finishProducer⟩
  rw [hbuffer, hwatches.buffer, Option.map_some, Monitor.buffer_finishProducer]

theorem Watches.reader {source : Source} {reader : Reader} (hwatches : session.Watches monitor)
    (hmove : session.ReaderMove plan source reader next) : next.WatchesAfter monitor := by
  have hdrain : next.drain = session.drain := hmove.changes.2.2.1
  rcases hmove.ledger_cases hwatches.buffer with ⟨message, hbuffer, -⟩ | ⟨hsame | hclosed, -⟩
  · refine ⟨_, .single (.puts message), ?_, hdrain ▸ hwatches.serves.put message⟩
    rw [hbuffer, Monitor.buffer_put]
  · exact hwatches.stays (hsame.trans hwatches.buffer.symm) hdrain
  · exact hwatches.closes (hclosed.trans (by rw [hwatches.buffer]; rfl)) hdrain

theorem Watches.drain {stage : DrainStage} (hwatches : session.Watches monitor)
    (hdrain : session.drain = some stage)
    (hstep : session.stepDrain? plan monitor.buffer stage = some next) :
    next.WatchesAfter monitor := by
  cases stage with
  | waiting =>
      have hturn := hwatches.turn plan hdrain
      split at hturn
      · obtain ⟨after, hafter, -, hwatches⟩ := hturn
        obtain rfl : after = next := Option.some.inj (hafter.symm.trans hstep)
        exact ⟨_, .single (.goesOn drainName), hwatches⟩
      · rw [hturn.1] at hstep
        cases hstep
  | sending sending =>
      have hbusy : ∀ after : Session, after.buffer = session.buffer → after.WatchesAfter monitor :=
        fun after hbuffer => Watches.now ⟨hbuffer.trans hwatches.buffer,
          hwatches.serves.mono fun hwaiting => by
            rw [hdrain] at hwaiting
            cases hwaiting⟩
      cases drainMove_of_stepDrain? hstep with
      | sendGoesOn | sendOver => exact hbusy _ (by simp [setDrain, SendMove.keeps ‹_›])
      | sendCrashes => exact hbusy _ (by simp [SendMove.keeps ‹_›])
  | ended result => cases hstep

theorem Watches.join {task : Task} {result : TaskResult} (hwatches : session.Watches monitor)
    (hmove : session.JoinMove task result next) : next.Watches monitor :=
  hwatches.of_eq hmove.ledger_eq.1 (by cases hmove <;> simp)

theorem Watches.abortReader (hwatches : session.Watches monitor) (source : Source) :
    (session.abortReader source).WatchesAfter monitor := by
  rw [Session.abortReader]
  split
  · split
    · exact hwatches.now
    · exact hwatches.closes (by simp) (by simp)
  · exact hwatches.now

theorem Watches.abortDrain (hwatches : session.Watches monitor) :
    session.abortDrain.WatchesAfter monitor := by
  rw [Session.abortDrain]
  split
  · exact hwatches.now
  · obtain ⟨hturn, hbuffer, hserves⟩ := hwatches.serves.abandon
    refine ⟨_, .single hturn, ?_, hserves.mono False.elim⟩
    simp [hwatches.buffer, hbuffer]
  · exact hwatches.now

theorem Watches.ready (hwatches : session.Watches monitor) (plan : Plan) :
    (session.ready plan).WatchesAfter monitor := by
  rw [Session.ready]
  cases plan.readyError with
  | none => exact hwatches.stays rfl rfl
  | some error =>
      have hcancelled : (session.note .readyCalled).cancel.Watches monitor :=
        hwatches.of_eq (by simp) (by simp)
      obtain ⟨first, hfirst, hstdout⟩ := hcancelled.abortReader .stdout
      obtain ⟨second, hsecond, hstderr⟩ := hstdout.abortReader .stderr
      obtain ⟨last, hlast, hdrain⟩ := hstderr.abortDrain
      exact ⟨last, (hfirst.trans hsecond).trans hlast, hdrain.of_eq rfl rfl⟩

theorem Watches.main {stage : MainStage} (hwatches : session.Watches monitor)
    (hmove : session.MainMove plan stage next) : next.WatchesAfter monitor := by
  cases hmove with
  | refuses | launches | skipsFlush | stops | finishes => exact hwatches.stays rfl rfl
  | ready => exact hwatches.ready plan
  | flushes buffer hunjoined hbuffer =>
      obtain rfl : buffer = monitor.buffer := Option.some.inj (hbuffer.symm.trans hwatches.buffer)
      exact ⟨_, .single .takesAll, rfl, hwatches.serves.takeAll⟩
  | endsFlush =>
      refine hwatches.stays ?_ ?_ <;>
      · unfold finishFlush
        dsimp only
        split <;> rfl
  | hands => exact hwatches.stays (by simp) (by simp)
  | sendGoesOn sending later remaining sent hdue hsend
  | sendOver sending remaining sent hdue hsend | sendCrashes sending remaining sent hdue hsend =>
      exact hwatches.stays hsend.keeps.2.2.2.2.2.1 hsend.keeps.2.2.2.2.1

/-- Every step of a session is some turns at its buffer. -/
theorem Watches.step {event : SessionEvent} (hwatches : session.Watches monitor)
    (hstep : session.step? plan event = some next) : next.WatchesAfter monitor := by
  cases move_of_step? hstep with
  | pass => exact hwatches.stays rfl rfl
  | cancel => exact hwatches.stays (by simp) (by simp)
  | reader source reader next hlaunched hreader hmove => exact hwatches.reader hmove
  | drain stage buffer next hlaunched hdrain hbuffer =>
      obtain rfl : buffer = monitor.buffer := Option.some.inj (hbuffer.symm.trans hwatches.buffer)
      simp only [step?, hlaunched, if_true, hdrain, hbuffer] at hstep
      exact hwatches.drain hdrain hstep
  | join task result next hmain hresult hmem hmove => exact (hwatches.join hmove).now
  | main next hmove => exact hwatches.main hmove
  | tracer action tracer sample? => cases sample? <;> exact hwatches.stays rfl rfl

/-! ## Runs -/

/-- Every run of a session in non-blocking mode is turns at its buffer, and the drain is the
one consumer that they leave on the list. -/
theorem watches_of_run? {stdout stderr : Option PipeScript} {sink : SinkBehaviour}
    {events : List SessionEvent} (hmode : plan.options.mode = .nonBlocking)
    (hrun : (create plan stdout stderr sink).run? plan events = some session) :
    session.WatchesAfter (Monitor.create plan.options.maxBufferSize
      ((if stdout.isSome then 1 else 0) + if stderr.isSome then 1 else 0)) :=
  run?_induction_on_rest (motive := fun session _ => session.WatchesAfter _) hrun
    (watches_create hmode).now fun _ _ _ _ hbefore hstep => by
      obtain ⟨later, hturns, hwatches⟩ := hbefore
      exact (hwatches.step hstep).trans hturns

end LogRelay.Session
