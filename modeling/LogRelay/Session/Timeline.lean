import LogRelay.Session.Step

/-!
# Sessions on a timeline

One order of the steps of a session: a task goes on until it has to wait, and
time passes only when every task waits.  Everything that happens at one moment
takes no time.
-/

namespace LogRelay

/-- A session with what is needed to choose its next step. -/
structure SessionTimeline where
  session : Session
  /-- The task that goes on until it has to wait. -/
  current : Option Task
  /-- How many intervals of the tracer are over. -/
  ticks : Nat
  /-- When the session will be cancelled from outside. -/
  cancelAt : Option Nat

namespace SessionTimeline

def event : Task → SessionEvent
  | .drain => .drain
  | .reader source => .reader source

/-- Readers come before the drain: what they can read at one moment is in the
buffer when the drain goes on. -/
def order : List Task := [.reader .stdout, .reader .stderr, .drain]

/-- The end of the next interval of the tracer, which is at least a millisecond. -/
def nextTick (plan : Plan) (timeline : SessionTimeline) : Nat :=
  let period := max plan.options.traceInterval.nanos nanosPerMilli
  ((timeline.ticks + 1) * period + (nanosPerMilli - 1)) / nanosPerMilli

def step? (plan : Plan) (timeline : SessionTimeline) (event : SessionEvent) :
    Option SessionTimeline :=
  (timeline.session.step? plan event).map fun session => { timeline with session := session }

def stepTask? (plan : Plan) (timeline : SessionTimeline) (task : Task) : Option SessionTimeline :=
  (timeline.step? plan (event task)).map fun timeline => { timeline with current := some task }

/-- The task at work goes on, or else the first one that can. -/
def stepTasks? (plan : Plan) (timeline : SessionTimeline) : Option SessionTimeline :=
  let tasks := timeline.current.toList ++ order
  tasks.findSome? (timeline.stepTask? plan)

/-- The reporting task takes its samples at the ends of the intervals and when it
is told to stop. -/
def stepTracer? (plan : Plan) (timeline : SessionTimeline) : Option SessionTimeline :=
  match timeline.session.tracer.stage with
  | .starting => timeline.step? plan (.tracer .start)
  | .taking _ _ _ => timeline.step? plan (.tracer .take)
  | .waiting =>
    if timeline.session.tracer.stopping then timeline.step? plan (.tracer .conclude)
    else if timeline.nextTick plan ≤ timeline.session.clock then
      (timeline.step? plan (.tracer .tick)).map fun timeline =>
        { timeline with ticks := timeline.ticks + 1 }
    else none
  | .finished => none

def stepCancel? (plan : Plan) (timeline : SessionTimeline) : Option SessionTimeline :=
  match timeline.cancelAt with
  | some time =>
    if time ≤ timeline.session.clock then
      (timeline.step? plan .cancel).map fun timeline => { timeline with cancelAt := none }
    else none
  | none => none

/-- Tasks are joined in the order in which they ended. -/
def stepMain? (plan : Plan) (timeline : SessionTimeline) : Option SessionTimeline :=
  let joins := timeline.session.toJoin.head?.toList.map SessionEvent.join
  (joins ++ [SessionEvent.main]).findSome? (timeline.step? plan)

/-- Before the tasks have been launched and the ready callback has returned,
only the main task goes on. -/
def isStarting (timeline : SessionTimeline) : Bool :=
  match timeline.session.main with
  | .starting | .launched => true
  | _ => false

def isOver (timeline : SessionTimeline) : Bool :=
  match timeline.session.main with
  | .done _ | .crashed => true
  | _ => false

def readerDue : Option Reader → List Nat
  | some reader =>
    match reader.stage with
    | .reading _ _ =>
      match reader.pipe with
      | .waitUntil time :: _ => [time]
      | _ => []
    | .sending sending => [sending.dueAt]
    | _ => []
  | none => []

/-- The times that something is waiting for. -/
def dueTimes (plan : Plan) (timeline : SessionTimeline) : List Nat :=
  let session := timeline.session
  let drain :=
    match session.drain with
    | some (.sending sending) => [sending.dueAt]
    | _ => []
  let main :=
    match session.main with
    | .flushSending sending _ => [sending.dueAt]
    | .cleaning wakeAt => [wakeAt]
    | _ => []
  readerDue session.stdout ++ readerDue session.stderr ++ drain ++ main ++
    timeline.cancelAt.toList ++ [timeline.nextTick plan]

/-- Time passes up to the next moment that something waits for. -/
def stepTime? (plan : Plan) (limit : Nat) (timeline : SessionTimeline) : Option SessionTimeline :=
  match ((timeline.dueTimes plan).filter (timeline.session.clock < ·)).min? with
  | some time => if time ≤ limit then timeline.step? plan (.pass time) else none
  | none => none

/-- The next step: the first of these that is possible. -/
def advance? (plan : Plan) (limit : Nat) (timeline : SessionTimeline) : Option SessionTimeline :=
  if timeline.isOver then none
  else if timeline.isStarting then timeline.stepMain? plan
  else
    [stepCancel?, stepTasks?, stepTracer?, stepMain?, (stepTime? · limit)].findSome?
      fun step => step plan timeline

def advanceFor (plan : Plan) (limit : Nat) : (fuel : Nat) → SessionTimeline → SessionTimeline
  | 0, timeline => timeline
  | fuel + 1, timeline =>
    match timeline.advance? plan limit with
    | some timeline => advanceFor plan limit fuel timeline
    | none => timeline

/-- How many steps there are at most: no pipe, sink or interval gives cause for
more before the time limit. -/
def stepBound : Nat := 1099511627776

/-- Runs the session until it is over or nothing more happens up to the limit. -/
def run (plan : Plan) (limit : Nat) (cancelAt : Option Nat) (session : Session) : Session :=
  (advanceFor plan limit stepBound ⟨session, none, 0, cancelAt⟩).session

end SessionTimeline

end LogRelay
