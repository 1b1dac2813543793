import LogRelay.Proofs.Delivery.Answers
import LogRelay.Proofs.Session.Kept
import LogRelay.Proofs.Session.Readers

/-!
# Deliveries under way

A delivery is begun when a message is handed over, and it goes on by its own
steps alone, whichever task it belongs to.  So it keeps to the policy, and it
crashes only with the sink or under a policy whose jitter is not a number.
-/

namespace LogRelay

/-- No call of the sink crashes. -/
def SinkScript.neverCrashes (script : SinkScript) : Bool :=
  script.all fun step => step.times = 0 || step.reply ≠ .crashed

def SinkBehaviour.neverCrashes (sink : SinkBehaviour) : Bool :=
  sink.stdout.neverCrashes && sink.stderr.neverCrashes

theorem SinkScript.neverCrashes_next {script : SinkScript} (hscript : script.neverCrashes = true) :
    script.next.2.1 ≠ .crashed ∧ SinkScript.neverCrashes script.next.2.2 = true := by
  induction script with
  | nil => exact ⟨Reply.noConfusion, rfl⟩
  | cons step rest ih =>
      rw [neverCrashes, List.all_cons, Bool.and_eq_true] at hscript
      obtain ⟨hstep, hrest⟩ := hscript
      rw [next]
      split
      · exact ih hrest
      · next htimes =>
          have hreply : step.reply ≠ .crashed := by simpa [htimes] using hstep
          refine ⟨hreply, ?_⟩
          rw [neverCrashes, List.all_cons, Bool.and_eq_true]
          exact ⟨by simp [hreply], hrest⟩

theorem SinkBehaviour.neverCrashes_call {sink : SinkBehaviour} (hsink : sink.neverCrashes = true)
    (source : Source) :
    (sink.call source).2.1 ≠ .crashed ∧ (sink.call source).2.2.neverCrashes = true := by
  rw [neverCrashes, Bool.and_eq_true] at hsink
  cases source with
  | stdout =>
      obtain ⟨hreply, hscript⟩ := SinkScript.neverCrashes_next hsink.1
      exact ⟨hreply, Bool.and_eq_true_iff.mpr ⟨hscript, hsink.2⟩⟩
  | stderr =>
      obtain ⟨hreply, hscript⟩ := SinkScript.neverCrashes_next hsink.2
      exact ⟨hreply, Bool.and_eq_true_iff.mpr ⟨hsink.1, hscript⟩⟩

/-! ## Tasks that send -/

/-- Messages are being flushed. -/
def MainStage.isFlushing : MainStage → Bool
  | .flushing _ | .flushSending _ _ => true
  | _ => false

namespace Session

variable {plan : Plan} {session next : Session} {sending : Sending}

/-- The delivery is under way in one of the tasks. -/
inductive Sends (session : Session) (sending : Sending) : Prop where
  | reader (source : Source) (reader : Reader) (hreader : session.reader? source = some reader)
      (hstage : reader.stage = .sending sending)
  | drain (hdrain : session.drain = some (.sending sending))
  | main (remaining : List Message) (hmain : session.main = .flushSending sending remaining)

/-- A delivery that is under way after a step was so before, or it has just
begun, or it has gone on. -/
inductive SendingOrigin (plan : Plan) (session : Session) (sending : Sending) : Prop where
  | same (hsends : session.Sends sending)
  | handed (message : Message) (answerAt : Nat)
      (hsending : sending = ⟨Delivery.start plan.options.retry message,
        .calling answerAt (session.sink.call message.source).2.1⟩)
  | goesOn (earlier : Sending) (later : Session) (hsends : session.Sends earlier)
      (hsend : session.SendMove plan earlier later (.goesOn sending))

theorem Reader.Step.origin {source : Source} {reader after : Reader}
    (hstep : reader.Step plan source session after) (hreader : session.reader? source = some reader)
    (hstage : after.stage = .sending sending) : session.SendingOrigin plan sending := by
  cases hstep with
  | hands message framer =>
      cases hstage
      exact .handed message _ rfl
  | sendGoesOn earlier later sent hearlier hsend =>
      cases hstage
      exact .goesOn earlier sent (.reader source reader hreader hearlier) hsend
  | aborts =>
      rw [Reader.abort] at hstage
      cases hbefore : reader.stage with
      | sending earlier => simp [hbefore] at hstage
      | asking | reading | ended => simp [hbefore] at hstage
  | _ => exact ReaderStage.noConfusion hstage

theorem DrainMove.origin {buffer : Buffer} {stage : DrainStage}
    (hdrain : session.drain = some stage)
    (hmove : session.DrainMove plan buffer stage next)
    (hsending : next.drain = some (.sending sending)) : session.SendingOrigin plan sending := by
  cases hmove with
  | takes message rest =>
      cases hsending
      exact .handed message _ rfl
  | finishes => simp at hsending
  | sendGoesOn earlier later sent hdue hsend =>
      cases hsending
      exact .goesOn earlier sent (.drain hdrain) hsend
  | sendOver => exact absurd hsending (by simp [setDrain])
  | sendCrashes => simp at hsending

theorem MainMove.origin {remaining : List Message}
    (hmove : session.MainMove plan session.main next)
    (hmain : next.main = .flushSending sending remaining) :
    session.SendingOrigin plan sending := by
  generalize hstage : session.main = stage at hmove
  cases hmove with
  | ready =>
      cases hready : plan.readyError <;> simp [Session.ready, hready, stop] at hmain
  | endsFlush => simp [finishFlush, clean] at hmain
  | hands message =>
      cases hmain
      exact .handed message _ rfl
  | sendGoesOn earlier later remaining sent hdue hsend =>
      cases hmain
      exact .goesOn earlier sent (.main remaining hstage) hsend
  | _ => simp [clean, stop] at hmain

theorem drain_abortDrain (session : Session) :
    session.abortDrain.drain = session.drain ∨ session.abortDrain.drain = some (.ended .aborted) := by
  unfold abortDrain
  split
  · exact Or.inl rfl
  · exact Or.inr (by simp)
  · exact Or.inl rfl

/-- The main task leaves the drain alone, unless the session is not ready. -/
theorem MainMove.drain_cases {stage : MainStage} (hmove : session.MainMove plan stage next) :
    next.drain = session.drain ∨
      plan.readyError.isSome = true ∧ next.drain = some (.ended .aborted) := by
  cases hmove with
  | refuses | launches | flushes | skipsFlush | stops | finishes => exact Or.inl rfl
  | ready =>
      cases hready : plan.readyError with
      | none => exact Or.inl (by simp [Session.ready, hready])
      | some error =>
          have hdrain : (session.ready plan).drain = ((((session.note .readyCalled).cancel.abortReader
              .stdout).abortReader .stderr).abortDrain).drain := by
            simp [Session.ready, hready, stop]
          rw [hdrain]
          refine (drain_abortDrain _).imp (fun heq => ?_) fun heq => ⟨rfl, heq⟩
          simpa [abortReader_leaves_others] using heq
  | endsFlush =>
      unfold finishFlush
      dsimp only
      split <;> exact Or.inl rfl
  | hands => exact Or.inl (by simp)
  | sendGoesOn sending later remaining sent hdue hsend => exact Or.inl hsend.keeps.2.2.2.2.1
  | sendOver sending remaining sent hdue hsend => exact Or.inl hsend.keeps.2.2.2.2.1
  | sendCrashes sending remaining sent hdue hsend => exact Or.inl hsend.keeps.2.2.2.2.1

theorem JoinMove.keeps {task : Task} {result : TaskResult}
    (hmove : session.JoinMove task result next) :
    next.drain = session.drain ∧ next.main = session.main ∧ next.sink = session.sink := by
  cases hmove <;> simp

/-- Only its own steps change where the main task is. -/
theorem Move.main_cases {event : SessionEvent} (hmove : session.Move plan event next) :
    next.main = session.main ∨ session.MainMove plan session.main next := by
  cases hmove with
  | pass => exact Or.inl rfl
  | cancel => exact Or.inl (by simp)
  | reader source reader next hlaunched hreader hmove => exact Or.inl hmove.changes.2.1
  | drain stage buffer next hlaunched hdrain hbuffer hmove => exact Or.inl hmove.counts.2.2.1
  | join task result next hmain hresult hmem hmove => exact Or.inl hmove.keeps.2.1
  | main next hmove => exact Or.inr hmove
  | tracer action tracer sample? => cases sample? <;> exact Or.inl rfl

/-- Only its own steps change where the drain is, but for a session that is not ready. -/
theorem Move.drain_cases {event : SessionEvent} (hmove : session.Move plan event next) :
    next.drain = session.drain ∨
      (∃ stage buffer, session.drain = some stage ∧ session.buffer = some buffer ∧
        session.DrainMove plan buffer stage next) ∨
      plan.readyError.isSome = true ∧ next.drain = some (.ended .aborted) := by
  cases hmove with
  | pass => exact Or.inl rfl
  | cancel => exact Or.inl (by simp)
  | reader source reader next hlaunched hreader hmove => exact Or.inl hmove.changes.2.2.1
  | drain stage buffer next hlaunched hdrain hbuffer hmove =>
      exact Or.inr (Or.inl ⟨stage, buffer, hdrain, hbuffer, hmove⟩)
  | join task result next hmain hresult hmem hmove => exact Or.inl hmove.keeps.1
  | main next hmove => exact hmove.drain_cases.imp_right Or.inr
  | tracer action tracer sample? => cases sample? <;> exact Or.inl rfl

theorem Move.origin {event : SessionEvent} (hmove : session.Move plan event next)
    (hsends : next.Sends sending) : session.SendingOrigin plan sending := by
  cases hsends with
  | reader source reader hreader hstage =>
      obtain ⟨before, hbefore, rfl | hstep⟩ := hmove.reader_step hreader
      · exact .same (.reader source _ hbefore hstage)
      · exact Reader.Step.origin hstep hbefore hstage
  | drain hdrain =>
      rcases hmove.drain_cases with heq | ⟨stage, buffer, hbefore, -, hmove⟩ | ⟨-, heq⟩
      · exact .same (.drain (heq.symm.trans hdrain))
      · exact hmove.origin hbefore hdrain
      · exact absurd (heq.symm.trans hdrain) (by simp)
  | main remaining hmain =>
      rcases hmove.main_cases with heq | hmove
      · exact .same (.main remaining (heq.symm.trans hmain))
      · exact hmove.origin hmain

theorem not_sends_create (plan : Plan) (stdout stderr : Option PipeScript) (sink : SinkBehaviour)
    (sending : Sending) : ¬ (create plan stdout stderr sink).Sends sending := by
  intro hsends
  cases hsends with
  | reader source reader hreader hstage =>
      obtain ⟨pipe, -, rfl⟩ := exists_pipe_of_create hreader
      exact ReaderStage.noConfusion hstage
  | drain hdrain =>
      simp only [create] at hdrain
      split at hdrain
      · exact absurd hdrain (by simp)
      · exact absurd hdrain (by simp)
  | main remaining hmain => exact MainStage.noConfusion hmain

/-! ## The policy -/

/-- Every delivery under way is one of the policy. -/
def KeepsPolicy (plan : Plan) (session : Session) : Prop :=
  ∀ sending, session.Sends sending → sending.delivery.OnPolicy plan.options.retry

theorem keepsPolicy_create (plan : Plan) (stdout stderr : Option PipeScript)
    (sink : SinkBehaviour) : (create plan stdout stderr sink).KeepsPolicy plan :=
  fun sending hsends => absurd hsends (not_sends_create plan stdout stderr sink sending)

theorem SendMove.onPolicy {later : Sending}
    (hsend : session.SendMove plan sending next (.goesOn later))
    (hpolicy : sending.delivery.OnPolicy plan.options.retry) :
    later.delivery.OnPolicy plan.options.retry := by
  cases hsend with
  | recalls => exact hpolicy
  | pauses answerAt reply duration delivery hstage hanswer => exact hpolicy.pause hanswer

theorem KeepsPolicy.move {event : SessionEvent} (hpolicy : session.KeepsPolicy plan)
    (hmove : session.Move plan event next) : next.KeepsPolicy plan := by
  intro sending hsends
  cases hmove.origin hsends with
  | same hbefore => exact hpolicy sending hbefore
  | handed message answerAt hsending =>
      rw [hsending]
      exact Delivery.onPolicy_start _ _
  | goesOn earlier later hbefore hsend => exact hsend.onPolicy (hpolicy earlier hbefore)

/-- A delivery crashes with the sink, or for want of a pause. -/
theorem SendMove.crash_cause (hsend : session.SendMove plan sending next .crashed)
    (hpolicy : sending.delivery.OnPolicy plan.options.retry) :
    ∃ answerAt reply, sending.stage = .calling answerAt reply ∧
      next = session.note (.answered sending.delivery.message reply) ∧
      (reply = .crashed ∨ plan.options.retry.jitter.isNaN = true) := by
  cases hsend with
  | crashes answerAt reply hstage hanswer =>
      refine ⟨answerAt, reply, hstage, rfl, ?_⟩
      rcases Delivery.answer_eq_crashed hanswer with hcrashed | hnone
      · exact Or.inl hcrashed
      · cases hjitter : plan.options.retry.jitter.isNaN with
        | true => exact Or.inr rfl
        | false =>
            obtain ⟨pause, hpause⟩ :=
              (hpolicy.bounded hjitter).exists_next? (plan.draws session.drawn)
            exact absurd (hnone.symm.trans hpause) (Option.some_ne_none _).symm

/-! ## The sink -/

theorem SendMove.sink_cases {progress : SendProgress}
    (hsend : session.SendMove plan sending next progress) :
    next.sink = session.sink ∨ ∃ source, next.sink = (session.sink.call source).2.2 := by
  cases hsend with
  | recalls => exact Or.inr ⟨sending.delivery.message.source, rfl⟩
  | _ => exact Or.inl rfl

theorem ReaderMove.sink_cases {source : Source} {reader : Reader}
    (hmove : session.ReaderMove plan source reader next) :
    next.sink = session.sink ∨ ∃ called, next.sink = (session.sink.call called).2.2 := by
  cases hmove with
  | hands message framer hstage hdemand hbuffer =>
      refine Or.inr ⟨message.source, ?_⟩
      rw [(setReader_keeps _ _ _).2.2.2.2.1]
      rfl
  | reads asked looking next hstage hgoes hread => cases hread <;> exact Or.inl (by simp)
  | sendGoesOn sending later sent hstage hdue hsend => simpa using hsend.sink_cases
  | sendOver sending sent hstage hdue hsend => simpa using hsend.sink_cases
  | sendCrashes sending sent hstage hdue hsend => simpa using hsend.sink_cases
  | _ => exact Or.inl (by simp)

theorem DrainMove.sink_cases {buffer : Buffer} {stage : DrainStage}
    (hmove : session.DrainMove plan buffer stage next) :
    next.sink = session.sink ∨ ∃ called, next.sink = (session.sink.call called).2.2 := by
  cases hmove with
  | takes message rest => exact Or.inr ⟨message.source, rfl⟩
  | finishes => exact Or.inl (by simp)
  | sendGoesOn sending later sent hdue hsend => exact hsend.sink_cases
  | sendOver sending sent hdue hsend => exact hsend.sink_cases
  | sendCrashes sending sent hdue hsend => simpa using hsend.sink_cases

theorem MainMove.sink_cases {stage : MainStage} (hmove : session.MainMove plan stage next) :
    next.sink = session.sink ∨ ∃ called, next.sink = (session.sink.call called).2.2 := by
  cases hmove with
  | ready => exact Or.inl (ready_leaves_others plan session).2.2.2
  | endsFlush => exact Or.inl (finishFlush_leaves_others plan session).2.2.1
  | hands message => exact Or.inr ⟨message.source, rfl⟩
  | sendGoesOn sending later remaining sent hdue hsend => exact hsend.sink_cases
  | sendOver sending remaining sent hdue hsend => exact hsend.sink_cases
  | sendCrashes sending remaining sent hdue hsend => exact hsend.sink_cases
  | _ => exact Or.inl rfl

theorem Move.sink_cases {event : SessionEvent} (hmove : session.Move plan event next) :
    next.sink = session.sink ∨ ∃ called, next.sink = (session.sink.call called).2.2 := by
  cases hmove with
  | pass => exact Or.inl rfl
  | cancel => exact Or.inl (by simp)
  | reader source reader next hlaunched hreader hmove => exact hmove.sink_cases
  | drain stage buffer next hlaunched hdrain hbuffer hmove => exact hmove.sink_cases
  | join task result next hmain hresult hmem hmove => exact Or.inl hmove.keeps.2.2
  | main next hmove => exact hmove.sink_cases
  | tracer action tracer sample? => cases sample? <;> exact Or.inl rfl

/-- The sink does not crash, neither in the calls under way nor in later ones. -/
structure Careful (session : Session) : Prop where
  neverCrashes : session.sink.neverCrashes = true
  replies : ∀ sending answerAt reply, session.Sends sending →
    sending.stage = .calling answerAt reply → reply ≠ .crashed

theorem careful_create (plan : Plan) (stdout stderr : Option PipeScript) {sink : SinkBehaviour}
    (hsink : sink.neverCrashes = true) : (create plan stdout stderr sink).Careful :=
  ⟨hsink, fun sending _ _ hsends => absurd hsends (not_sends_create plan stdout stderr sink sending)⟩

theorem Careful.move {event : SessionEvent} (hcareful : session.Careful)
    (hmove : session.Move plan event next) : next.Careful := by
  constructor
  · rcases hmove.sink_cases with heq | ⟨source, heq⟩
    · rw [heq]
      exact hcareful.neverCrashes
    · rw [heq]
      exact (SinkBehaviour.neverCrashes_call hcareful.neverCrashes source).2
  · intro sending answerAt reply hsends hstage
    cases hmove.origin hsends with
    | same hbefore => exact hcareful.replies sending answerAt reply hbefore hstage
    | handed message answerAt hsending =>
        rw [hsending] at hstage
        cases hstage
        exact (SinkBehaviour.neverCrashes_call hcareful.neverCrashes message.source).1
    | goesOn earlier later hbefore hsend =>
        cases hsend with
        | recalls =>
            cases hstage
            exact (SinkBehaviour.neverCrashes_call hcareful.neverCrashes _).1
        | pauses => exact SendStage.noConfusion hstage

/-- Where neither the sink nor the jitter gives cause, no delivery crashes. -/
theorem Careful.not_crashes (hcareful : session.Careful) (hpolicy : session.KeepsPolicy plan)
    (hjitter : plan.options.retry.jitter.isNaN = false) (hsends : session.Sends sending) :
    ¬ session.SendMove plan sending next .crashed := by
  intro hsend
  obtain ⟨answerAt, reply, hstage, -, hcause⟩ := hsend.crash_cause (hpolicy sending hsends)
  rcases hcause with hcrashed | hnan
  · exact hcareful.replies sending answerAt reply hsends hstage hcrashed
  · exact absurd (hjitter.symm.trans hnan) Bool.false_ne_true

end Session

end LogRelay
