import LogRelay.Session.Basic

/-!
# Steps of a session

The atomic steps of the tasks of a session.  The tasks run side by side, so the
steps may come in any order that is possible; time may pass between any two.
-/

namespace LogRelay

inductive SessionEvent where
  /-- Time moves on. -/
  | pass (time : Nat)
  /-- The session is cancelled from outside. -/
  | cancel
  | reader (source : Source)
  | drain
  /-- The main task joins a task that has ended. -/
  | join (task : Task)
  | main
  /-- The reporting task. -/
  | tracer (action : Tracer.Action)
  deriving DecidableEq, Repr

namespace Session

def cancel (session : Session) : Session :=
  if session.cancelled then session
  else ({ session with cancelled := true }).note .cancelled

/-! ## Delivering -/

/-- Calls the sink with the message of the delivery. -/
def call (session : Session) (delivery : Delivery) : Session × Sending :=
  let (delayMs, reply, sink) := session.sink.call delivery.message.source
  (({ session with sink := sink }).note (.called delivery.message reply),
    ⟨delivery, .calling (session.clock + delayMs) reply⟩)

/-- Hands a message to the dispatcher. -/
def hand (plan : Plan) (session : Session) (message : Message) : Session × Sending :=
  (session.note (.handed message)).call (Delivery.start plan.options.retry message)

inductive SendProgress where
  | goesOn (sending : Sending)
  | done
  | crashed
  deriving DecidableEq, Repr

/-- Goes on with a delivery that is due. -/
def send? (plan : Plan) (session : Session) (sending : Sending) :
    Option (Session × SendProgress) :=
  if session.clock < sending.dueAt then none
  else
    let message := sending.delivery.message
    match sending.stage with
    | .pausing _ =>
      let (session, sending) := session.call sending.delivery
      some (session, .goesOn sending)
    | .calling _ reply =>
      let session := session.note (.answered message reply)
      match sending.delivery.answer (plan.draws session.drawn) reply with
      | .delivered => some ((session.record .sent message.size).note (.delivered message), .done)
      | .failed error => some (session.note (.abandoned message error), .done)
      | .pause duration next =>
        some ({ session with drawn := session.drawn + 1 },
          .goesOn ⟨next, .pausing (session.clock + duration.ceilMillis)⟩)
      | .crashed => some (session, .crashed)

/-! ## Readers -/

def endTask (session : Session) (task : Task) (result : TaskResult) : Session :=
  ({ session with toJoin := session.toJoin ++ [task] }).note (.ended task result)

/-- However a reader ends, it counts as a finished producer of the buffer. -/
def endReader (session : Session) (source : Source) (reader : Reader) (result : TaskResult) :
    Session :=
  let session := session.setReader source { reader with stage := .ended result }
  let session :=
    match session.buffer with
    | some buffer =>
      ({ session with buffer := some buffer.closeProducer }).note (.producerClosed source)
    | none => session
  session.endTask (.reader source) result

/-- Passes a message on: into the buffer if there is one, else to the sink. -/
def passOn (plan : Plan) (session : Session) (source : Source) (reader : Reader)
    (message : Message) : Session :=
  match session.buffer with
  | some buffer =>
    let entry := if buffer.accepts message then .stored message else .refused message
    (({ session with buffer := some (buffer.enqueue message) }).setReader source reader).note entry
  | none =>
    let (session, sending) := session.hand plan message
    session.setReader source { reader with stage := .sending sending }

/-- Takes up what a read has brought. -/
def finishRead (plan : Plan) (session : Session) (source : Source) (reader : Reader) (asked : Nat)
    (result : ReadResult) : Session :=
  let session := session.note (.readDone source asked result)
  match result with
  | .failed failure =>
    if failure.isInterruption then session.setReader source { reader with stage := .asking }
    else session.endReader source reader (.failed (.read source failure))
  | .data bytes =>
    let received :=
      reader.framer.receive (plan.runIds source) (plan.timeOfDay session.clock) bytes
    let session := session.setReader source { reader with framer := received.1, stage := .asking }
    (session.record .read bytes.length).record .newlines received.2

def stepReader? (plan : Plan) (session : Session) (source : Source) (reader : Reader) :
    Option Session :=
  match reader.stage with
  | .ended _ => none
  | .asking =>
    match reader.framer.demand session.cancelled with
    | .message message framer =>
      let reader := { reader with framer := framer }
      some ((session.note (.framed message)).passOn plan source reader message)
    | .finished => some (session.endReader source reader .finished)
    | .read asked =>
      let session := session.setReader source { reader with stage := .reading asked false }
      some (session.note (.readBegun source asked))
  | .reading asked looking =>
    if session.cancelled && !looking then some (session.endReader source reader .finished)
    else
      let (answer, pipe) := reader.pipe.look session.clock asked
      let after := { reader with pipe := pipe }
      match answer with
      | .ready result => some (session.finishRead plan source after asked result)
      | .crashed => some (session.endReader source after .crashed)
      | .cancels =>
        some (session.cancel.setReader source { after with stage := .reading asked true })
      | .pending _ =>
        if reader.pipe.isWaiting session.clock && !looking then none
        else some (session.setReader source { after with stage := .reading asked false })
  | .sending sending =>
    match session.send? plan sending with
    | none => none
    | some (session, .goesOn sending) =>
      some (session.setReader source { reader with stage := .sending sending })
    | some (session, .done) => some (session.setReader source { reader with stage := .asking })
    | some (session, .crashed) => some (session.endReader source reader .crashed)

/-! ## Drain -/

def setDrain (session : Session) (stage : DrainStage) : Session :=
  { session with drain := some stage }

def endDrain (session : Session) (result : TaskResult) : Session :=
  (session.setDrain (.ended result)).endTask .drain result

/-- The drain waits while the buffer is empty and open. -/
def stepDrain? (plan : Plan) (session : Session) (buffer : Buffer) : DrainStage → Option Session
  | .ended _ => none
  | .waiting =>
    match buffer.dequeue? with
    | some (message, buffer) =>
      let (session, sending) := ({ session with buffer := some buffer }).hand plan message
      some (session.setDrain (.sending sending))
    | none => if buffer.closed then some (session.endDrain .finished) else none
  | .sending sending =>
    match session.send? plan sending with
    | none => none
    | some (session, .goesOn sending) => some (session.setDrain (.sending sending))
    | some (session, .done) => some (session.setDrain .waiting)
    | some (session, .crashed) => some (session.endDrain .crashed)

/-! ## Main task -/

/-- Ends a reader where it stands. -/
def abortReader (session : Session) (source : Source) : Session :=
  match session.reader? source with
  | some reader =>
    match reader.stage with
    | .ended _ => session
    | _ => session.endReader source reader .aborted
  | none => session

def abortDrain (session : Session) : Session :=
  match session.drain with
  | some (.ended _) => session
  | some _ => session.endDrain .aborted
  | none => session

/-- Tells the reporting task to stop and waits for its last report. -/
def stop (session : Session) (result : Except Error Unit) : Session :=
  { session with tracer := { session.tracer with stopping := true }, main := .stopping result }

def ready (plan : Plan) (session : Session) : Session :=
  let session := session.note .readyCalled
  match plan.readyError with
  | none => { session with main := .joining }
  | some error =>
    let session := ((session.cancel.abortReader .stdout).abortReader .stderr).abortDrain
    session.stop (.error (.ready error.message))

def clean (plan : Plan) (session : Session) : Session :=
  { session with main := .cleaning (session.clock + plan.cleanup.ceilMillis) }

/-- All tasks have been joined: what is left in the buffer is flushed. -/
def flush (plan : Plan) (session : Session) : Session :=
  match session.buffer with
  | some buffer =>
    ({ session with
        buffer := some buffer.flush
        main := .flushing buffer.messages }).note (.flushed buffer.messages)
  | none => session.clean plan

def finishFlush (plan : Plan) (session : Session) : Session :=
  let dropped := (session.buffer.map (·.dropped)).getD 0
  let session := if 0 < dropped then session.note (.overflowed dropped) else session
  session.clean plan

def stepMain? (plan : Plan) (session : Session) : Option Session :=
  match session.main with
  | .starting =>
    if session.stdout.isNone && session.stderr.isNone then
      some { session with main := .done (.error .noPipes) }
    else some { session with main := .launched }
  | .launched => some (session.ready plan)
  | .joining => if session.unjoined = 0 then some (session.flush plan) else none
  | .flushing [] => some (session.finishFlush plan)
  | .flushing (message :: remaining) =>
    let (session, sending) := session.hand plan message
    some { session with main := .flushSending sending remaining }
  | .flushSending sending remaining =>
    match session.send? plan sending with
    | none => none
    | some (session, .goesOn sending) =>
      some { session with main := .flushSending sending remaining }
    | some (session, .done) => some { session with main := .flushing remaining }
    | some (session, .crashed) => some { session with main := .crashed }
  | .cleaning wakeAt =>
    if session.clock < wakeAt then none
    else
      match session.firstError with
      | some error => some (session.stop (.error error))
      | none => some (session.stop (.ok ()))
  | .stopping result =>
    if session.tracer.stage = .finished then some { session with main := .done result } else none
  | .done _ => none
  | .crashed => none

def taskResult? (session : Session) : Task → Option TaskResult
  | .drain =>
    match session.drain with
    | some (.ended result) => some result
    | _ => none
  | .reader source =>
    match session.reader? source with
    | some reader =>
      match reader.stage with
      | .ended result => some result
      | _ => none
    | none => none

/-- The first error that is joined is kept, and every error cancels the session. -/
def join? (session : Session) (task : Task) : Option Session :=
  match session.main, session.taskResult? task with
  | .joining, some result =>
    if task ∈ session.toJoin then
      let session :=
        ({ session with
            toJoin := session.toJoin.erase task
            unjoined := session.unjoined - 1 }).note (.joined task result)
      match result.error? with
      | none => some session
      | some error =>
        some ({ session.cancel with firstError := some (session.firstError.getD error) })
    else none
  | _, _ => none

/-! ## All steps -/

/-- The reporting task exists once the tasks have been spawned. -/
def isLaunched (session : Session) : Bool :=
  match session.main with
  | .starting => false
  | .done (.error .noPipes) => false
  | _ => true

def stepTracer? (session : Session) (action : Tracer.Action) : Option Session :=
  match action with
  | .record _ _ => none
  | .stop => none
  | _ =>
    if session.isLaunched then
      match session.tracer.step? action with
      | some (tracer, none) => some { session with tracer := tracer }
      | some (tracer, some sample) =>
        some (({ session with tracer := tracer }).note (.reported sample))
      | none => none
    else none

/-- One step of the session, if it is possible. -/
def step? (plan : Plan) (session : Session) : SessionEvent → Option Session
  | .pass time => if session.clock < time then some { session with clock := time } else none
  | .cancel => some session.cancel
  | .reader source =>
    if session.isLaunched then
      match session.reader? source with
      | some reader => session.stepReader? plan source reader
      | none => none
    else none
  | .drain =>
    if session.isLaunched then
      match session.drain, session.buffer with
      | some stage, some buffer => session.stepDrain? plan buffer stage
      | _, _ => none
    else none
  | .join task => session.join? task
  | .main => session.stepMain? plan
  | .tracer action => session.stepTracer? action

/-- The steps one after the other, if each is possible. -/
def run? (plan : Plan) (session : Session) : List SessionEvent → Option Session
  | [] => some session
  | event :: rest => do run? plan (← session.step? plan event) rest

end Session

end LogRelay
