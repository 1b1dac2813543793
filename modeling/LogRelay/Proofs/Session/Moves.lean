import LogRelay.Proofs.Session.Parts
import LogRelay.Proofs.Tracer.Sampling

/-!
# What a step of a session can do

Every kind of step with what it requires and what it leads to, one relation for
each task.  Whatever holds at the start and is kept by each kind of step holds
throughout every run, in whatever order the tasks take turns.
-/

namespace LogRelay.Session

variable (plan : Plan) (session : Session)

/-- How a delivery goes on once it is due. -/
inductive SendMove (sending : Sending) : Session → SendProgress → Prop where
  | recalls (wakeAt : Nat) (hstage : sending.stage = .pausing wakeAt) :
      SendMove sending (session.call sending.delivery).1
        (.goesOn (session.call sending.delivery).2)
  | delivers (answerAt : Nat) (reply : Reply) (hstage : sending.stage = .calling answerAt reply)
      (hanswer : sending.delivery.answer (plan.draws session.drawn) reply = .delivered) :
      SendMove sending
        (((session.note (.answered sending.delivery.message reply)).record .sent
          sending.delivery.message.size).note (.delivered sending.delivery.message)) .done
  | abandons (answerAt : Nat) (reply : Reply) (error : Error)
      (hstage : sending.stage = .calling answerAt reply)
      (hanswer : sending.delivery.answer (plan.draws session.drawn) reply = .failed error) :
      SendMove sending
        ((session.note (.answered sending.delivery.message reply)).note
          (.abandoned sending.delivery.message error)) .done
  | pauses (answerAt : Nat) (reply : Reply) (duration : Duration) (next : Delivery)
      (hstage : sending.stage = .calling answerAt reply)
      (hanswer : sending.delivery.answer (plan.draws session.drawn) reply = .pause duration next) :
      SendMove sending
        { session.note (.answered sending.delivery.message reply) with
          drawn := session.drawn + 1 }
        (.goesOn ⟨next, .pausing (session.clock + duration.ceilMillis)⟩)
  | crashes (answerAt : Nat) (reply : Reply) (hstage : sending.stage = .calling answerAt reply)
      (hanswer : sending.delivery.answer (plan.draws session.drawn) reply = .crashed) :
      SendMove sending (session.note (.answered sending.delivery.message reply)) .crashed

/-- What a look at the pipe leads to while a read is under way. -/
inductive ReadMove (source : Source) (reader : Reader) (asked : Nat) (looking : Bool) :
    Session → Prop where
  | brings (bytes : Bytes) (pipe : PipeScript)
      (hlook : reader.pipe.look session.clock asked = (.ready (.data bytes), pipe)) :
      ReadMove source reader asked looking
        ((((session.note (.readDone source asked (.data bytes))).setReader source
          { framer := (reader.framer.receive (plan.runIds source)
              (plan.timeOfDay session.clock) bytes).1
            pipe := pipe
            stage := .asking }).record .read bytes.length).record .newlines
            (reader.framer.receive (plan.runIds source) (plan.timeOfDay session.clock) bytes).2)
  | startsAgain (failure : Failure) (pipe : PipeScript)
      (hlook : reader.pipe.look session.clock asked = (.ready (.failed failure), pipe))
      (hfailure : failure.isInterruption = true) :
      ReadMove source reader asked looking
        ((session.note (.readDone source asked (.failed failure))).setReader source
          { reader with pipe := pipe, stage := .asking })
  | fails (failure : Failure) (pipe : PipeScript)
      (hlook : reader.pipe.look session.clock asked = (.ready (.failed failure), pipe))
      (hfailure : failure.isInterruption = false) :
      ReadMove source reader asked looking
        ((session.note (.readDone source asked (.failed failure))).endReader source
          { reader with pipe := pipe } (.failed (.read source failure)))
  | crashes (pipe : PipeScript)
      (hlook : reader.pipe.look session.clock asked = (.crashed, pipe)) :
      ReadMove source reader asked looking
        (session.endReader source { reader with pipe := pipe } .crashed)
  | cancels (pipe : PipeScript)
      (hlook : reader.pipe.look session.clock asked = (.cancels, pipe)) :
      ReadMove source reader asked looking
        (session.cancel.setReader source
          { reader with pipe := pipe, stage := .reading asked true })
  | waits (until? : Option Nat) (pipe : PipeScript)
      (hlook : reader.pipe.look session.clock asked = (.pending until?, pipe))
      (hwaits : (reader.pipe.isWaiting session.clock && !looking) = false) :
      ReadMove source reader asked looking
        (session.setReader source { reader with pipe := pipe, stage := .reading asked false })

inductive ReaderMove (source : Source) (reader : Reader) : Session → Prop where
  | offers (message : Message) (framer : Framer) (buffer : Buffer)
      (hstage : reader.stage = .asking)
      (hdemand : reader.framer.demand session.cancelled = .message message framer)
      (hbuffer : session.buffer = some buffer) :
      ReaderMove source reader
        (({ session.note (.framed message) with
            buffer := some (buffer.enqueue message) }.setReader source
          { reader with framer := framer, stage := .asking }).note
          (if buffer.accepts message then .stored message else .refused message))
  | hands (message : Message) (framer : Framer)
      (hstage : reader.stage = .asking)
      (hdemand : reader.framer.demand session.cancelled = .message message framer)
      (hbuffer : session.buffer = none) :
      ReaderMove source reader
        (((session.note (.framed message)).hand plan message).1.setReader source
          { reader with
            framer := framer
            stage := .sending ((session.note (.framed message)).hand plan message).2 })
  | finishes (hstage : reader.stage = .asking)
      (hdemand : reader.framer.demand session.cancelled = .finished) :
      ReaderMove source reader (session.endReader source reader .finished)
  | begins (asked : Nat) (hstage : reader.stage = .asking)
      (hdemand : reader.framer.demand session.cancelled = .read asked) :
      ReaderMove source reader
        ((session.setReader source { reader with stage := .reading asked false }).note
          (.readBegun source asked))
  /-- The session is cancelled while nothing is being looked at. -/
  | leaves (asked : Nat) (hstage : reader.stage = .reading asked false)
      (hcancelled : session.cancelled = true) :
      ReaderMove source reader (session.endReader source reader .finished)
  | reads (asked : Nat) (looking : Bool) (next : Session)
      (hstage : reader.stage = .reading asked looking)
      (hgoes : session.cancelled = true → looking = true)
      (hread : session.ReadMove plan source reader asked looking next) :
      ReaderMove source reader next
  | sendGoesOn (sending later : Sending) (next : Session)
      (hstage : reader.stage = .sending sending) (hdue : sending.dueAt ≤ session.clock)
      (hsend : session.SendMove plan sending next (.goesOn later)) :
      ReaderMove source reader (next.setReader source { reader with stage := .sending later })
  | sendOver (sending : Sending) (next : Session)
      (hstage : reader.stage = .sending sending) (hdue : sending.dueAt ≤ session.clock)
      (hsend : session.SendMove plan sending next .done) :
      ReaderMove source reader (next.setReader source { reader with stage := .asking })
  | sendCrashes (sending : Sending) (next : Session)
      (hstage : reader.stage = .sending sending) (hdue : sending.dueAt ≤ session.clock)
      (hsend : session.SendMove plan sending next .crashed) :
      ReaderMove source reader (next.endReader source reader .crashed)

inductive DrainMove (buffer : Buffer) : DrainStage → Session → Prop where
  | takes (message : Message) (rest : Buffer)
      (hdequeue : buffer.dequeue? = some (message, rest)) :
      DrainMove buffer .waiting
        ((({ session with buffer := some rest }).hand plan message).1.setDrain
          (.sending (({ session with buffer := some rest }).hand plan message).2))
  | finishes (hdequeue : buffer.dequeue? = none) (hclosed : buffer.closed = true) :
      DrainMove buffer .waiting (session.endDrain .finished)
  | sendGoesOn (sending later : Sending) (next : Session) (hdue : sending.dueAt ≤ session.clock)
      (hsend : session.SendMove plan sending next (.goesOn later)) :
      DrainMove buffer (.sending sending) (next.setDrain (.sending later))
  | sendOver (sending : Sending) (next : Session) (hdue : sending.dueAt ≤ session.clock)
      (hsend : session.SendMove plan sending next .done) :
      DrainMove buffer (.sending sending) (next.setDrain .waiting)
  | sendCrashes (sending : Sending) (next : Session) (hdue : sending.dueAt ≤ session.clock)
      (hsend : session.SendMove plan sending next .crashed) :
      DrainMove buffer (.sending sending) (next.endDrain .crashed)

inductive MainMove : MainStage → Session → Prop where
  | refuses (hstdout : session.stdout = none) (hstderr : session.stderr = none) :
      MainMove .starting { session with main := .done (.error .noPipes) }
  | launches (hpipes : (session.stdout.isNone && session.stderr.isNone) = false) :
      MainMove .starting { session with main := .launched }
  | ready : MainMove .launched (session.ready plan)
  | flushes (buffer : Buffer) (hunjoined : session.unjoined = 0)
      (hbuffer : session.buffer = some buffer) :
      MainMove .joining
        (({ session with
            buffer := some buffer.flush
            main := .flushing buffer.messages }).note (.flushed buffer.messages))
  | skipsFlush (hunjoined : session.unjoined = 0) (hbuffer : session.buffer = none) :
      MainMove .joining (session.clean plan)
  | endsFlush : MainMove (.flushing []) (session.finishFlush plan)
  | hands (message : Message) (remaining : List Message) :
      MainMove (.flushing (message :: remaining))
        { (session.hand plan message).1 with
          main := .flushSending (session.hand plan message).2 remaining }
  | sendGoesOn (sending later : Sending) (remaining : List Message) (next : Session)
      (hdue : sending.dueAt ≤ session.clock)
      (hsend : session.SendMove plan sending next (.goesOn later)) :
      MainMove (.flushSending sending remaining) { next with main := .flushSending later remaining }
  | sendOver (sending : Sending) (remaining : List Message) (next : Session)
      (hdue : sending.dueAt ≤ session.clock)
      (hsend : session.SendMove plan sending next .done) :
      MainMove (.flushSending sending remaining) { next with main := .flushing remaining }
  | sendCrashes (sending : Sending) (remaining : List Message) (next : Session)
      (hdue : sending.dueAt ≤ session.clock)
      (hsend : session.SendMove plan sending next .crashed) :
      MainMove (.flushSending sending remaining) { next with main := .crashed }
  | stops (wakeAt : Nat) (result : Except Error Unit) (hwake : wakeAt ≤ session.clock)
      (hresult : result = (session.firstError.map Except.error).getD (.ok ())) :
      MainMove (.cleaning wakeAt) (session.stop result)
  | finishes (result : Except Error Unit) (htracer : session.tracer.stage = .finished) :
      MainMove (.stopping result) { session with main := .done result }

inductive JoinMove (task : Task) (result : TaskResult) : Session → Prop where
  | ends (hresult : result.error? = none) :
      JoinMove task result
        (({ session with
            toJoin := session.toJoin.erase task
            unjoined := session.unjoined - 1 }).note (.joined task result))
  | fails (error : Error) (hresult : result.error? = some error) :
      JoinMove task result
        { (({ session with
              toJoin := session.toJoin.erase task
              unjoined := session.unjoined - 1 }).note (.joined task result)).cancel with
          firstError := some (session.firstError.getD error) }

/-- A step of one of the tasks, of time or from outside. -/
inductive Move : SessionEvent → Session → Prop where
  | pass (time : Nat) (htime : session.clock < time) :
      Move (.pass time) { session with clock := time }
  | cancel : Move .cancel session.cancel
  | reader (source : Source) (reader : Reader) (next : Session)
      (hlaunched : session.isLaunched = true) (hreader : session.reader? source = some reader)
      (hmove : session.ReaderMove plan source reader next) : Move (.reader source) next
  | drain (stage : DrainStage) (buffer : Buffer) (next : Session)
      (hlaunched : session.isLaunched = true) (hdrain : session.drain = some stage)
      (hbuffer : session.buffer = some buffer)
      (hmove : session.DrainMove plan buffer stage next) : Move .drain next
  | join (task : Task) (result : TaskResult) (next : Session) (hmain : session.main = .joining)
      (hresult : session.taskResult? task = some result) (hmem : task ∈ session.toJoin)
      (hmove : session.JoinMove task result next) : Move (.join task) next
  | main (next : Session) (hmove : session.MainMove plan session.main next) : Move .main next
  | tracer (action : Tracer.Action) (tracer : Tracer) (sample? : Option Counters)
      (hlaunched : session.isLaunched = true)
      (hstep : session.tracer.step? action = some (tracer, sample?)) (hown : action.isOwn = true) :
      Move (.tracer action)
        (match sample? with
          | none => { session with tracer := tracer }
          | some sample => ({ session with tracer := tracer }).note (.reported sample))

variable {plan session} {next : Session}

/-! ## Deliveries -/

/-- A delivery changes the sink, the tracer and the random choices at most. -/
theorem SendMove.keeps {sending : Sending} {progress : SendProgress}
    (hsend : session.SendMove plan sending next progress) :
    next.clock = session.clock ∧ next.cancelled = session.cancelled ∧
    next.stdout = session.stdout ∧ next.stderr = session.stderr ∧ next.drain = session.drain ∧
    next.buffer = session.buffer ∧ next.toJoin = session.toJoin ∧
    next.unjoined = session.unjoined ∧ next.firstError = session.firstError ∧
    next.main = session.main := by
  cases hsend <;> simp only [call_keeps, note_keeps, record_keeps, and_self]

theorem SendMove.reader?_eq {sending : Sending} {progress : SendProgress}
    (hsend : session.SendMove plan sending next progress) (source : Source) :
    next.reader? source = session.reader? source := by
  cases source <;> simp only [reader?, hsend.keeps]

theorem SendMove.selected_eq {α : Type} {select : Entry → Option α} {sending : Sending}
    {progress : SendProgress} (hsend : session.SendMove plan sending next progress)
    (hcalled : ∀ message reply, select (.called message reply) = none)
    (hanswered : ∀ message reply, select (.answered message reply) = none)
    (hdelivered : ∀ message, select (.delivered message) = none)
    (habandoned : ∀ message error, select (.abandoned message error) = none) :
    selected select next.journal = selected select session.journal := by
  cases hsend <;> simp [hcalled, hanswered, hdelivered, habandoned]

/-! ## Every step is one of these -/

theorem sendMove_of_send? {sending : Sending} {progress : SendProgress}
    (hsend : session.send? plan sending = some (next, progress)) :
    sending.dueAt ≤ session.clock ∧ session.SendMove plan sending next progress := by
  rw [send?] at hsend
  split at hsend
  · exact absurd hsend (Option.some_ne_none _).symm
  · next hdue =>
      refine ⟨Nat.le_of_not_lt hdue, ?_⟩
      cases hstage : sending.stage with
      | pausing wakeAt =>
          simp only [hstage, Option.some.injEq, Prod.mk.injEq] at hsend
          obtain ⟨rfl, rfl⟩ := hsend
          exact .recalls wakeAt hstage
      | calling answerAt reply =>
          cases hanswer : sending.delivery.answer (plan.draws session.drawn) reply with
          | delivered =>
              simp only [hstage, note_keeps, hanswer, Option.some.injEq, Prod.mk.injEq] at hsend
              obtain ⟨rfl, rfl⟩ := hsend
              exact .delivers answerAt reply hstage hanswer
          | failed error =>
              simp only [hstage, note_keeps, hanswer, Option.some.injEq, Prod.mk.injEq] at hsend
              obtain ⟨rfl, rfl⟩ := hsend
              exact .abandons answerAt reply error hstage hanswer
          | pause duration later =>
              simp only [hstage, note_keeps, hanswer, Option.some.injEq, Prod.mk.injEq] at hsend
              obtain ⟨rfl, rfl⟩ := hsend
              exact .pauses answerAt reply duration later hstage hanswer
          | crashed =>
              simp only [hstage, note_keeps, hanswer, Option.some.injEq, Prod.mk.injEq] at hsend
              obtain ⟨rfl, rfl⟩ := hsend
              exact .crashes answerAt reply hstage hanswer

theorem readMove_of_look {source : Source} {reader : Reader} {asked : Nat} {looking : Bool}
    (hgoes : (session.cancelled && !looking) = false) (hstage : reader.stage = .reading asked looking)
    (hstep : session.stepReader? plan source reader = some next) :
    session.ReadMove plan source reader asked looking next := by
  rw [stepReader?] at hstep
  cases hlook : reader.pipe.look session.clock asked with
  | mk answer pipe =>
      simp only [hstage, hgoes, hlook, Bool.false_eq_true, if_false] at hstep
      cases answer with
      | ready result =>
          cases result with
          | data bytes =>
              simp only [finishRead, Option.some.injEq] at hstep
              subst hstep
              exact .brings bytes pipe hlook
          | failed failure =>
              cases hfailure : failure.isInterruption with
              | true =>
                  simp only [finishRead, hfailure, if_true, Option.some.injEq] at hstep
                  subst hstep
                  exact .startsAgain failure pipe hlook hfailure
              | false =>
                  simp only [finishRead, hfailure, Bool.false_eq_true, if_false,
                    Option.some.injEq] at hstep
                  subst hstep
                  exact .fails failure pipe hlook hfailure
      | crashed =>
          simp only [Option.some.injEq] at hstep
          subst hstep
          exact .crashes pipe hlook
      | cancels =>
          simp only [Option.some.injEq] at hstep
          subst hstep
          exact .cancels pipe hlook
      | pending until? =>
          simp only [Option.ite_none_left_eq_some, Option.some.injEq] at hstep
          obtain ⟨hwaits, rfl⟩ := hstep
          exact .waits until? pipe hlook (Bool.eq_false_iff.mpr hwaits)

theorem readerMove_of_stepReader? {source : Source} {reader : Reader}
    (hstep : session.stepReader? plan source reader = some next) :
    session.ReaderMove plan source reader next := by
  cases hstage : reader.stage with
  | asking =>
      cases hdemand : reader.framer.demand session.cancelled with
      | message message framer =>
          cases hbuffer : session.buffer with
          | some buffer =>
              simp only [stepReader?, hstage, hdemand, passOn, note_keeps, hbuffer,
                Option.some.injEq] at hstep
              subst hstep
              exact .offers message framer buffer hstage hdemand hbuffer
          | none =>
              simp only [stepReader?, hstage, hdemand, passOn, note_keeps, hbuffer,
                Option.some.injEq] at hstep
              subst hstep
              exact .hands message framer hstage hdemand hbuffer
      | finished =>
          simp only [stepReader?, hstage, hdemand, Option.some.injEq] at hstep
          subst hstep
          exact .finishes hstage hdemand
      | read asked =>
          simp only [stepReader?, hstage, hdemand, Option.some.injEq] at hstep
          subst hstep
          exact .begins asked hstage hdemand
  | reading asked looking =>
      cases hgoes : session.cancelled && !looking with
      | true =>
          simp only [stepReader?, hstage, hgoes, if_true, Option.some.injEq] at hstep
          subst hstep
          rw [Bool.and_eq_true, Bool.not_eq_true'] at hgoes
          exact .leaves asked (hgoes.2 ▸ hstage) hgoes.1
      | false =>
          refine .reads asked looking next hstage ?_ (readMove_of_look hgoes hstage hstep)
          intro hcancelled
          simpa [hcancelled] using hgoes
  | sending sending =>
      cases hsend : session.send? plan sending with
      | none => simp [stepReader?, hstage, hsend] at hstep
      | some sent =>
          obtain ⟨later, progress⟩ := sent
          obtain ⟨hdue, hmove⟩ := sendMove_of_send? hsend
          cases progress with
          | goesOn sending' =>
              simp only [stepReader?, hstage, hsend, Option.some.injEq] at hstep
              subst hstep
              exact .sendGoesOn sending sending' later hstage hdue hmove
          | done =>
              simp only [stepReader?, hstage, hsend, Option.some.injEq] at hstep
              subst hstep
              exact .sendOver sending later hstage hdue hmove
          | crashed =>
              simp only [stepReader?, hstage, hsend, Option.some.injEq] at hstep
              subst hstep
              exact .sendCrashes sending later hstage hdue hmove
  | ended result => simp [stepReader?, hstage] at hstep

theorem drainMove_of_stepDrain? {buffer : Buffer} {stage : DrainStage}
    (hstep : session.stepDrain? plan buffer stage = some next) :
    session.DrainMove plan buffer stage next := by
  cases stage with
  | waiting =>
      cases hdequeue : buffer.dequeue? with
      | some taken =>
          obtain ⟨message, rest⟩ := taken
          simp only [stepDrain?, hdequeue, Option.some.injEq] at hstep
          subst hstep
          exact .takes message rest hdequeue
      | none =>
          simp only [stepDrain?, hdequeue, Option.ite_none_right_eq_some, Option.some.injEq] at hstep
          obtain ⟨hclosed, rfl⟩ := hstep
          exact .finishes hdequeue hclosed
  | sending sending =>
      cases hsend : session.send? plan sending with
      | none => simp [stepDrain?, hsend] at hstep
      | some sent =>
          obtain ⟨later, progress⟩ := sent
          obtain ⟨hdue, hmove⟩ := sendMove_of_send? hsend
          cases progress with
          | goesOn sending' =>
              simp only [stepDrain?, hsend, Option.some.injEq] at hstep
              subst hstep
              exact .sendGoesOn sending sending' later hdue hmove
          | done =>
              simp only [stepDrain?, hsend, Option.some.injEq] at hstep
              subst hstep
              exact .sendOver sending later hdue hmove
          | crashed =>
              simp only [stepDrain?, hsend, Option.some.injEq] at hstep
              subst hstep
              exact .sendCrashes sending later hdue hmove
  | ended result => simp [stepDrain?] at hstep

theorem mainMove_of_stepMain? (hstep : session.stepMain? plan = some next) :
    session.MainMove plan session.main next := by
  cases hmain : session.main with
  | starting =>
      cases hpipes : session.stdout.isNone && session.stderr.isNone with
      | true =>
          simp only [stepMain?, hmain, hpipes, if_true, Option.some.injEq] at hstep
          subst hstep
          rw [Bool.and_eq_true, Option.isNone_iff_eq_none, Option.isNone_iff_eq_none] at hpipes
          exact .refuses hpipes.1 hpipes.2
      | false =>
          simp only [stepMain?, hmain, hpipes, Bool.false_eq_true, if_false,
            Option.some.injEq] at hstep
          subst hstep
          exact .launches hpipes
  | launched =>
      simp only [stepMain?, hmain, Option.some.injEq] at hstep
      subst hstep
      exact .ready
  | joining =>
      simp only [stepMain?, hmain, Option.ite_none_right_eq_some, Option.some.injEq] at hstep
      obtain ⟨hunjoined, hflush⟩ := hstep
      subst hflush
      cases hbuffer : session.buffer with
      | some buffer =>
          rw [flush, hbuffer]
          exact .flushes buffer hunjoined hbuffer
      | none =>
          rw [flush, hbuffer]
          exact .skipsFlush hunjoined hbuffer
  | flushing remaining =>
      cases remaining with
      | nil =>
          simp only [stepMain?, hmain, Option.some.injEq] at hstep
          subst hstep
          exact .endsFlush
      | cons message remaining =>
          simp only [stepMain?, hmain, Option.some.injEq] at hstep
          subst hstep
          exact .hands message remaining
  | flushSending sending remaining =>
      cases hsend : session.send? plan sending with
      | none => simp [stepMain?, hmain, hsend] at hstep
      | some sent =>
          obtain ⟨later, progress⟩ := sent
          obtain ⟨hdue, hmove⟩ := sendMove_of_send? hsend
          cases progress with
          | goesOn sending' =>
              simp only [stepMain?, hmain, hsend, Option.some.injEq] at hstep
              subst hstep
              exact .sendGoesOn sending sending' remaining later hdue hmove
          | done =>
              simp only [stepMain?, hmain, hsend, Option.some.injEq] at hstep
              subst hstep
              exact .sendOver sending remaining later hdue hmove
          | crashed =>
              simp only [stepMain?, hmain, hsend, Option.some.injEq] at hstep
              subst hstep
              exact .sendCrashes sending remaining later hdue hmove
  | cleaning wakeAt =>
      simp only [stepMain?, hmain, Option.ite_none_left_eq_some, Nat.not_lt] at hstep
      obtain ⟨hwake, hstop⟩ := hstep
      cases hfirst : session.firstError with
      | some error =>
          simp only [hfirst, Option.some.injEq] at hstop
          subst hstop
          exact .stops wakeAt _ hwake (by rw [hfirst]; rfl)
      | none =>
          simp only [hfirst, Option.some.injEq] at hstop
          subst hstop
          exact .stops wakeAt _ hwake (by rw [hfirst]; rfl)
  | stopping result =>
      simp only [stepMain?, hmain, Option.ite_none_right_eq_some, Option.some.injEq] at hstep
      obtain ⟨htracer, rfl⟩ := hstep
      exact .finishes result htracer
  | done result => simp [stepMain?, hmain] at hstep
  | crashed => simp [stepMain?, hmain] at hstep

theorem joinMove_of_join? {task : Task} (hstep : session.join? task = some next) :
    ∃ result, session.main = .joining ∧ session.taskResult? task = some result ∧
      task ∈ session.toJoin ∧ session.JoinMove task result next := by
  rw [join?] at hstep
  split at hstep
  · next result hmain hresult =>
      rw [Option.ite_none_right_eq_some] at hstep
      obtain ⟨hmem, hstep⟩ := hstep
      refine ⟨result, hmain, hresult, hmem, ?_⟩
      cases herror : result.error? with
      | none =>
          simp only [herror, Option.some.injEq] at hstep
          subst hstep
          exact .ends herror
      | some error =>
          simp only [herror, note_keeps, Option.some.injEq] at hstep
          subst hstep
          exact .fails error herror
  · exact absurd hstep (Option.some_ne_none _).symm

theorem move_of_step? {event : SessionEvent} (hstep : session.step? plan event = some next) :
    session.Move plan event next := by
  cases event with
  | pass time =>
      simp only [step?, Option.ite_none_right_eq_some, Option.some.injEq] at hstep
      obtain ⟨htime, rfl⟩ := hstep
      exact .pass time htime
  | cancel =>
      simp only [step?, Option.some.injEq] at hstep
      subst hstep
      exact .cancel
  | reader source =>
      rw [step?, Option.ite_none_right_eq_some] at hstep
      obtain ⟨hlaunched, hstep⟩ := hstep
      cases hreader : session.reader? source with
      | none => simp [hreader] at hstep
      | some reader =>
          simp only [hreader] at hstep
          exact .reader source reader next hlaunched hreader (readerMove_of_stepReader? hstep)
  | drain =>
      rw [step?, Option.ite_none_right_eq_some] at hstep
      obtain ⟨hlaunched, hstep⟩ := hstep
      cases hdrain : session.drain with
      | none => simp [hdrain] at hstep
      | some stage =>
          cases hbuffer : session.buffer with
          | none => simp [hdrain, hbuffer] at hstep
          | some buffer =>
              simp only [hdrain, hbuffer] at hstep
              exact .drain stage buffer next hlaunched hdrain hbuffer
                (drainMove_of_stepDrain? hstep)
  | join task =>
      obtain ⟨result, hmain, hresult, hmem, hmove⟩ := joinMove_of_join? hstep
      exact .join task result next hmain hresult hmem hmove
  | main => exact .main next (mainMove_of_stepMain? hstep)
  | tracer action =>
      simp only [step?] at hstep
      have hown : action.isOwn = true := by
        cases action with
        | record | stop => exact absurd hstep (Option.some_ne_none _).symm
        | start | tick | conclude | take => rfl
      unfold stepTracer? at hstep
      split at hstep
      · exact absurd hstep (Option.some_ne_none _).symm
      · exact absurd hstep (Option.some_ne_none _).symm
      · rw [Option.ite_none_right_eq_some] at hstep
        obtain ⟨hlaunched, hstep⟩ := hstep
        split at hstep
        · next tracer htracer =>
            cases hstep
            exact .tracer action tracer none hlaunched htracer hown
        · next tracer sample htracer =>
            cases hstep
            exact .tracer action tracer (some sample) hlaunched htracer hown
        · exact absurd hstep (Option.some_ne_none _).symm

/-! ## Runs -/

/-- What every step keeps, with a view to the steps that are still to come, holds when
none is left. -/
theorem run?_induction_on_rest {motive : Session → List SessionEvent → Prop} {last : Session}
    {events : List SessionEvent} (hrun : session.run? plan events = some last)
    (hstart : motive session events)
    (hmove : ∀ session event rest next, motive session (event :: rest) →
      session.step? plan event = some next → motive next rest) : motive last [] := by
  induction events generalizing session with
  | nil =>
      cases hrun
      exact hstart
  | cons event rest ih =>
      simp only [run?, Option.bind_eq_bind, Option.bind_eq_some_iff] at hrun
      obtain ⟨next, hstep, hrest⟩ := hrun
      exact ih hrest (hmove session event rest next hstart hstep)

/-- What is kept by every step is kept by every run. -/
theorem run?_induction {motive : Session → Prop} {last : Session} {events : List SessionEvent}
    (hrun : session.run? plan events = some last) (hstart : motive session)
    (hmove : ∀ session event next, motive session → session.Move plan event next → motive next) :
    motive last :=
  run?_induction_on_rest (motive := fun session _ => motive session) hrun hstart
    fun session event _ next hbefore hstep => hmove session event next hbefore (move_of_step? hstep)

end LogRelay.Session
