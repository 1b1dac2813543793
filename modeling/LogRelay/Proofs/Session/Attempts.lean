import LogRelay.Proofs.Session.Journal
import LogRelay.Proofs.Session.Producers
import LogRelay.Proofs.Session.Reading
import LogRelay.Proofs.Session.Results

/-!
# The calls of a session without a buffer

In blocking mode a reader hands each message over as soon as its framer has
yielded it, and asks for the next one only when the delivery is over.  So the
calls of the sink for the messages of one source are in groups, one for each
message, in the order in which the messages were yielded: refusals, then either
the acceptance or, when the attempts are used up, nothing.
-/

namespace LogRelay

@[simp, reducible]
def Entry.called? (source : Source) : Entry → Option (Message × Reply)
  | .called message reply => if message.source = source then some (message, reply) else none
  | _ => none

/-- Neither the yield of a message nor a call of the sink. -/
def Entry.isSilent : Entry → Bool
  | .framed _ | .called _ _ => false
  | _ => true

theorem Entry.isSilent_of_isOfRead (entry : Entry) (hentry : entry.isOfRead = true) :
    entry.isSilent = true := by
  cases entry <;> first | rfl | exact absurd hentry Bool.false_ne_true

theorem Entry.isSilent_of_isOfEnd (entry : Entry) (hentry : entry.isOfEnd = true) :
    entry.isSilent = true :=
  isSilent_of_isOfRead entry (Session.isOfRead_of_isOfEnd entry hentry)

/-- Calls with the message that the sink has refused. -/
def refusals (message : Message) (errors : List Error) : List (Message × Reply) :=
  errors.map fun error => (message, .refused error)

/-- All calls of one message, at most so many.  They end with the first that is
accepted, or there are as many as there can be. -/
inductive Attempts (most : Nat) (message : Message) : List (Message × Reply) → Prop where
  | accepted (errors : List Error) (hless : errors.length < most) :
      Attempts most message (refusals message errors ++ [(message, .accepted)])
  | exhausted (errors : List Error) (hall : errors.length = most) :
      Attempts most message (refusals message errors)

/-- The calls are those of the messages, one message after the other. -/
def AllAttempted (most : Nat) (messages : List Message) (calls : List (Message × Reply)) : Prop :=
  ∃ groups, List.Forall₂ (Attempts most) messages groups ∧ calls = groups.flatten

/-- The call that is under way, unless there is a pause. -/
def Sending.underWay (sending : Sending) : List (Message × Reply) :=
  match sending.stage with
  | .calling _ reply => [(sending.delivery.message, reply)]
  | .pausing _ => []

/-- The calls that a delivery has made so far. -/
def Sending.HasCalled (sending : Sending) (calls : List (Message × Reply)) : Prop :=
  ∃ errors, errors.length + 1 = sending.delivery.made ∧
    calls = refusals sending.delivery.message errors ++ sending.underWay

/-- How far the messages that a reader has got have been delivered. -/
def Reader.Delivers (most : Nat) (yielded : List Message) (calls : List (Message × Reply))
    (reader : Reader) : Prop :=
  match reader.stage with
  | .sending sending =>
    ∃ earlier current before, yielded = earlier ++ [sending.delivery.message] ∧
      calls = before ++ current ∧ AllAttempted most earlier before ∧ sending.HasCalled current
  | _ => AllAttempted most yielded calls

/-- The reader delivers nothing. -/
def ReaderStage.isIdle : ReaderStage → Bool
  | .sending _ => false
  | _ => true

theorem Reader.delivers_iff_of_isIdle {most : Nat} {yielded : List Message}
    {calls : List (Message × Reply)} {reader : Reader} (hidle : reader.stage.isIdle = true) :
    reader.Delivers most yielded calls ↔ AllAttempted most yielded calls := by
  rw [Delivers]
  split
  · next sending hstage =>
      rw [hstage] at hidle
      exact absurd hidle Bool.false_ne_true
  · rfl

theorem refusals_concat (message : Message) (errors : List Error) (error : Error) :
    refusals message (errors ++ [error]) =
      refusals message errors ++ [(message, .refused error)] := by
  simp [refusals]

theorem AllAttempted.concat {most : Nat} {messages : List Message} {message : Message}
    {calls group : List (Message × Reply)} (hall : AllAttempted most messages calls)
    (hgroup : Attempts most message group) :
    AllAttempted most (messages ++ [message]) (calls ++ group) := by
  obtain ⟨groups, hgroups, rfl⟩ := hall
  refine ⟨groups ++ [group], List.rel_append hgroups (.cons hgroup .nil), ?_⟩
  simp

namespace Session

variable {plan : Plan} {session next : Session} {sending : Sending}

/-- The calls of the sink for messages of the source, in order. -/
def called (source : Source) (journal : List (Nat × Entry)) : List (Message × Reply) :=
  selected (Entry.called? source) journal

/-! ## One delivery -/

/-- The first call of a delivery. -/
theorem hasCalled_hand (plan : Plan) (session : Session) (message : Message) :
    (session.hand plan message).2.HasCalled
      [(message, (session.sink.call message.source).2.1)] :=
  ⟨[], rfl, rfl⟩

/-- A delivery that goes on makes another call or a pause. -/
theorem SendMove.hasCalled {later : Sending} {calls : List (Message × Reply)}
    (hsend : session.SendMove plan sending next (.goesOn later))
    (hcalls : sending.HasCalled calls) :
    later.delivery.message = sending.delivery.message ∧
      ∃ more, later.HasCalled (calls ++ more) ∧ ∀ source, called source next.journal =
        called source session.journal ++
          if sending.delivery.message.source = source then more else [] := by
  obtain ⟨errors, hlength, hcalls⟩ := hcalls
  cases hsend with
  | recalls wakeAt hstage =>
      refine ⟨rfl, [(sending.delivery.message,
        (session.sink.call sending.delivery.message.source).2.1)], ⟨errors, hlength, ?_⟩, ?_⟩
      · rw [hcalls, Sending.underWay, hstage, List.append_nil]
        rfl
      · intro source
        rw [called, (call_keeps _ _).2.2.2.2.2.2.2.2.2.2.2.2, selected_cons]
        split <;> simp_all [called]
  | pauses answerAt reply duration delivery hstage hanswer =>
      obtain ⟨hmade, ⟨cause, rfl⟩, rfl⟩ := Delivery.answer_eq_pause hanswer
      refine ⟨rfl, [], ⟨errors ++ [cause], ?_, ?_⟩, ?_⟩
      · simp [hlength]
      · simp [hcalls, Sending.underWay, hstage, refusals_concat]
      · intro source
        simp [called]

/-- A delivery that is over has made all its calls. -/
theorem SendMove.attempts {calls : List (Message × Reply)}
    (hsend : session.SendMove plan sending next .done) (hcalls : sending.HasCalled calls)
    (hpolicy : sending.delivery.OnPolicy plan.options.retry) :
    Attempts plan.options.retry.attempts sending.delivery.message calls ∧
      ∀ source, called source next.journal = called source session.journal := by
  obtain ⟨errors, hlength, hcalls⟩ := hcalls
  have hmade := hpolicy.made_le
  cases hsend with
  | delivers answerAt reply hstage hanswer =>
      obtain rfl := Delivery.answer_eq_delivered hanswer
      refine ⟨?_, fun source => by simp [called]⟩
      rw [hcalls, Sending.underWay, hstage]
      exact .accepted errors (by omega)
  | abandons answerAt reply error hstage hanswer =>
      obtain ⟨hall, cause, rfl⟩ := Delivery.answer_eq_failed hanswer
      refine ⟨?_, fun source => by simp [called]⟩
      rw [hcalls, Sending.underWay, hstage, ← refusals_concat]
      refine .exhausted (errors ++ [cause]) ?_
      have heq := hpolicy.attempts_eq
      rw [List.length_append, List.length_singleton]
      omega

/-! ## Sessions without a buffer -/

/-- Every message goes from its reader to the sink. -/
structure Unbuffered (session : Session) : Prop where
  buffer : session.buffer = none
  drain : session.drain = none
  main : session.main.isFlushing = false

theorem unbuffered_create (hmode : plan.options.mode = .blocking)
    (stdout stderr : Option PipeScript) (sink : SinkBehaviour) :
    (create plan stdout stderr sink).Unbuffered := by
  constructor
  · simp [create, hmode]
  · simp [create, hmode]
  · rfl

theorem Unbuffered.of_same (hunbuffered : session.Unbuffered)
    (hbuffer : next.buffer = session.buffer)
    (hdrain : next.drain = session.drain) (hmain : next.main = session.main) : next.Unbuffered := by
  constructor
  · exact hbuffer.trans hunbuffered.buffer
  · exact hdrain.trans hunbuffered.drain
  · rw [hmain]
    exact hunbuffered.main

theorem Unbuffered.main_move (hready : plan.readyError = none) (hunbuffered : session.Unbuffered)
    (hmove : session.MainMove plan session.main next) : next.Unbuffered := by
  have hmain := hunbuffered.main
  generalize session.main = stage at hmain hmove
  cases hmove with
  | refuses | launches | skipsFlush | stops | finishes =>
      exact ⟨hunbuffered.buffer, hunbuffered.drain, rfl⟩
  | ready =>
      rw [Session.ready, hready]
      exact ⟨hunbuffered.buffer, hunbuffered.drain, rfl⟩
  | flushes buffer hunjoined hsome =>
      exact absurd (hunbuffered.buffer.symm.trans hsome) (Option.some_ne_none _).symm
  | endsFlush | hands | sendGoesOn | sendOver | sendCrashes =>
      exact absurd hmain Bool.false_ne_true.symm

theorem Unbuffered.move {event : SessionEvent} (hready : plan.readyError = none)
    (hunbuffered : session.Unbuffered) (hmove : session.Move plan event next) :
    next.Unbuffered := by
  cases hmove with
  | pass => exact hunbuffered.of_same rfl rfl rfl
  | cancel => exact hunbuffered.of_same (by simp) (by simp) (by simp)
  | reader source reader next hlaunched hreader hmove =>
      obtain ⟨-, hmain, hdrain, -⟩ := hmove.changes
      refine ⟨hmove.buffer_eq_none hunbuffered.buffer, hdrain.trans hunbuffered.drain, ?_⟩
      rw [hmain]
      exact hunbuffered.main
  | drain stage buffer next hlaunched hdrain =>
      exact absurd (hunbuffered.drain.symm.trans hdrain) (Option.some_ne_none _).symm
  | join task result next hmain hresult hmem hmove =>
      exact hunbuffered.of_same hmove.ledger_eq.1 hmove.keeps.1 hmove.keeps.2.1
  | main next hmove => exact hunbuffered.main_move hready hmove
  | tracer action tracer sample? => cases sample? <;> exact hunbuffered.of_same rfl rfl rfl

/-- Every message that a framer has yielded has been handed to the dispatcher, and none
has been refused. -/
structure Forwards (session : Session) : Prop where
  handed_eq : session.handed = session.framed
  refused_eq : session.refused = []

theorem Forwards.of_ledger (hforwards : session.Forwards) (hledger : next.ledger = session.ledger) :
    next.Forwards := by
  obtain ⟨hframed, -, hrefused, hhanded⟩ := Ledger.mk.inj hledger
  exact ⟨hhanded.trans (hforwards.handed_eq.trans hframed.symm),
    hrefused.trans hforwards.refused_eq⟩

theorem Forwards.reader {source : Source} {reader : Reader} (hforwards : session.Forwards)
    (hbuffer : session.buffer = none) (hmove : session.ReaderMove plan source reader next) :
    next.Forwards := by
  cases hmove with
  | offers message framer buffer hstage hdemand hsome =>
      exact absurd (hbuffer.symm.trans hsome) (Option.some_ne_none _).symm
  | hands message framer =>
      obtain ⟨hbefore, hnone⟩ := hforwards
      rw [handed, framed] at hbefore
      rw [refused] at hnone
      constructor
      · simp [handed, framed, hbefore]
      · simpa [refused] using hnone
  | reads asked looking next hstage hgoes hread =>
      apply hforwards.of_ledger
      cases hread <;> simp [ledger, framed, stored, refused, handed]
  | sendGoesOn sending later sent hstage hdue hsend | sendOver sending sent hstage hdue hsend
  | sendCrashes sending sent hstage hdue hsend =>
      apply hforwards.of_ledger
      rw [← hsend.ledger_eq]
      simp [ledger, framed, stored, refused, handed]
  | _ =>
      apply hforwards.of_ledger
      simp [ledger, framed, stored, refused, handed]

theorem Forwards.main (hready : plan.readyError = none) (hforwards : session.Forwards)
    (hunbuffered : session.Unbuffered) (hmove : session.MainMove plan session.main next) :
    next.Forwards := by
  have hmain := hunbuffered.main
  apply hforwards.of_ledger
  generalize session.main = stage at hmain hmove
  cases hmove with
  | refuses | launches | skipsFlush | stops | finishes => rfl
  | ready => simp [Session.ready, hready, ledger, framed, stored, refused, handed]
  | flushes buffer hunjoined hsome =>
      exact absurd (hunbuffered.buffer.symm.trans hsome) (Option.some_ne_none _).symm
  | endsFlush | hands | sendGoesOn | sendOver | sendCrashes =>
      exact absurd hmain Bool.false_ne_true.symm

/-- A message is handed over in the step in which it is yielded. -/
theorem Forwards.move {event : SessionEvent} (hready : plan.readyError = none)
    (hforwards : session.Forwards) (hunbuffered : session.Unbuffered)
    (hmove : session.Move plan event next) : next.Forwards := by
  cases hmove with
  | pass => exact hforwards.of_ledger rfl
  | cancel => exact hforwards.of_ledger (ledger_cancel session)
  | reader source reader next hlaunched hreader hmove =>
      exact hforwards.reader hunbuffered.buffer hmove
  | drain stage buffer next hlaunched hdrain =>
      exact absurd (hunbuffered.drain.symm.trans hdrain) (Option.some_ne_none _).symm
  | join task result next hmain hresult hmem hmove => exact hforwards.of_ledger hmove.ledger_eq.2
  | main next hmove => exact hforwards.main hready hunbuffered hmove
  | tracer action tracer sample? =>
      cases sample? with
      | none => exact hforwards.of_ledger rfl
      | some sample =>
          apply hforwards.of_ledger
          simp [ledger, framed, stored, refused, handed]

/-! ## All readers -/

/-- Every reader has delivered what it has got but for a delivery under way. -/
def KeepsUp (plan : Plan) (session : Session) : Prop :=
  ∀ source reader, session.reader? source = some reader →
    reader.Delivers plan.options.retry.attempts (session.progress source).yielded
      (called source session.journal)

theorem keepsUp_create (plan : Plan) (stdout stderr : Option PipeScript) (sink : SinkBehaviour) :
    (create plan stdout stderr sink).KeepsUp plan := by
  intro source reader hreader
  obtain ⟨pipe, -, rfl⟩ := exists_pipe_of_create hreader
  exact ⟨[], .nil, rfl⟩

theorem Adds.keeps_messages (hadds : session.Adds Entry.isSilent next) (source : Source) :
    (next.progress source).yielded = (session.progress source).yielded ∧
      called source next.journal = called source session.journal := by
  have hframed : next.framed = session.framed := by
    apply hadds.selected_eq
    intro entry hentry
    cases entry <;> first | rfl | exact absurd hentry Bool.false_ne_true
  have hcalled : called source next.journal = called source session.journal := by
    apply hadds.selected_eq
    intro entry hentry
    cases entry <;> first | rfl | exact absurd hentry Bool.false_ne_true
  exact ⟨by rw [progress, progress, hframed], hcalled⟩

/-- A step that puts another reader in the place of one. -/
theorem KeepsUp.replace (source : Source) (after : Reader) (hkeeps : session.KeepsUp plan)
    (hreaders : ∀ other, next.reader? other =
      if other = source then some after else session.reader? other)
    (hothers : ∀ other, other ≠ source →
      (next.progress other).yielded = (session.progress other).yielded ∧
        called other next.journal = called other session.journal)
    (hafter : after.Delivers plan.options.retry.attempts (next.progress source).yielded
      (called source next.journal)) : next.KeepsUp plan := by
  apply forall_reader_of_replace (motive := fun other reader =>
    reader.Delivers plan.options.retry.attempts (next.progress other).yielded
      (called other next.journal)) hreaders _ hafter
  intro other reader hother hreader
  rw [(hothers other hother).1, (hothers other hother).2]
  exact hkeeps other reader hreader

/-- A step of a reader that neither gets nor delivers a message. -/
theorem KeepsUp.replace_idle {source : Source} {reader after : Reader}
    (hkeeps : session.KeepsUp plan) (hreader : session.reader? source = some reader)
    (hreaders : ∀ other, next.reader? other =
      if other = source then some after else session.reader? other)
    (hadds : session.Adds Entry.isSilent next) (hbefore : reader.stage.isIdle = true)
    (hafter : after.stage.isIdle = true) : next.KeepsUp plan := by
  refine hkeeps.replace source after hreaders (fun other _ => hadds.keeps_messages other) ?_
  rw [(hadds.keeps_messages source).1, (hadds.keeps_messages source).2,
    Reader.delivers_iff_of_isIdle hafter, ← Reader.delivers_iff_of_isIdle hbefore]
  exact hkeeps source reader hreader

/-- A step of another task. -/
theorem KeepsUp.of_same (hkeeps : session.KeepsUp plan) (hreaders : next.reader? = session.reader?)
    (hadds : session.Adds Entry.isSilent next) : next.KeepsUp plan := by
  intro source reader hreader
  rw [hreaders] at hreader
  rw [(hadds.keeps_messages source).1, (hadds.keeps_messages source).2]
  exact hkeeps source reader hreader

theorem yielded_of_framed {message : Message} (hframed : next.framed = session.framed ++ [message])
    (source : Source) :
    (next.progress source).yielded = (session.progress source).yielded ++
      if message.source = source then [message] else [] := by
  rw [progress, progress, hframed, ofSource, ofSource, List.filter_append]
  by_cases hsource : message.source = source <;> simp [hsource]

theorem ReadMove.isIdle {source : Source} {reader after : Reader} {asked : Nat} {looking : Bool}
    (hread : session.ReadMove plan source reader asked looking next)
    (hafter : next.reader? source = some after) : after.stage.isIdle = true := by
  cases hread with
  | brings | startsAgain | cancels | waits =>
      simp only [reader?_record, reader?_setReader, if_true, Option.some.injEq] at hafter
      rw [← hafter]
      rfl
  | fails | crashes =>
      simp only [reader?_endReader, if_true, Option.some.injEq] at hafter
      rw [← hafter]
      rfl

theorem progress_congr (hjournal : next.journal = session.journal) :
    next.progress = session.progress := by
  funext source
  rw [progress, progress, framed, framed, hjournal]

/-- The message is handed over as soon as it has been yielded. -/
theorem KeepsUp.hands {source : Source} {reader : Reader} {message : Message} (framer : Framer)
    (hkeeps : session.KeepsUp plan) (hreader : session.reader? source = some reader)
    (hstage : reader.stage = .asking) (hsource : message.source = source) :
    (((session.note (.framed message)).hand plan message).1.setReader source
      { reader with
        framer := framer
        stage := .sending ((session.note (.framed message)).hand plan message).2 }).KeepsUp plan := by
  generalize hafter : { reader with
    framer := framer
    stage := ReaderStage.sending ((session.note (.framed message)).hand plan message).2 } = after
  have hbefore := hkeeps source reader hreader
  rw [Reader.delivers_iff_of_isIdle (by rw [hstage]; rfl)] at hbefore
  have hyielded : ∀ other,
      ((((session.note (.framed message)).hand plan message).1.setReader source after).progress
        other).yielded = (session.progress other).yielded ++
          if message.source = other then [message] else [] :=
    yielded_of_framed (by simp [framed])
  have hcalled : ∀ other,
      called other (((session.note (.framed message)).hand plan message).1.setReader source
        after).journal = called other session.journal ++
          if message.source = other then
            [(message, ((session.note (.framed message)).sink.call message.source).2.1)] else [] := by
    intro other
    by_cases hother : message.source = other <;> simp [called, hother]
  refine hkeeps.replace source after (fun other => ?_) (fun other hother => ?_) ?_
  · simp [reader?_setReader]
    rfl
  · have hnot : message.source ≠ other := fun heq => hother (heq.symm.trans hsource)
    rw [hyielded, hcalled, if_neg hnot, if_neg hnot, List.append_nil, List.append_nil]
    exact ⟨rfl, rfl⟩
  · rw [hyielded, hcalled, if_pos hsource, if_pos hsource, ← hafter]
    exact ⟨_, _, _, rfl, rfl, hbefore, hasCalled_hand plan _ message⟩

/-- A delivery that a reader makes is of a message of its source. -/
theorem KeepsUp.source_eq {source : Source} {reader : Reader} (hkeeps : session.KeepsUp plan)
    (hreader : session.reader? source = some reader) (hstage : reader.stage = .sending sending) :
    sending.delivery.message.source = source := by
  have hbefore := hkeeps source reader hreader
  rw [Reader.Delivers, hstage] at hbefore
  obtain ⟨earlier, current, before, hyielded, -⟩ := hbefore
  have hmem : sending.delivery.message ∈ ofSource source session.framed := by
    change sending.delivery.message ∈ (session.progress source).yielded
    rw [hyielded]
    exact List.mem_append_right _ List.mem_cons_self
  exact of_decide_eq_true (List.mem_filter.mp hmem).2

theorem KeepsUp.goesOn {source : Source} {reader : Reader} {later : Sending} {sent : Session}
    (hkeeps : session.KeepsUp plan) (hreader : session.reader? source = some reader)
    (hstage : reader.stage = .sending sending)
    (hsend : session.SendMove plan sending sent (.goesOn later)) :
    (sent.setReader source { reader with stage := .sending later }).KeepsUp plan := by
  have hsource := hkeeps.source_eq hreader hstage
  have hbefore := hkeeps source reader hreader
  rw [Reader.Delivers, hstage] at hbefore
  obtain ⟨earlier, current, before, hyielded, hcalls, hall, hcurrent⟩ := hbefore
  obtain ⟨hmessage, more, hmore, hcalled⟩ := hsend.hasCalled hcurrent
  have hjournal : (sent.setReader source { reader with stage := .sending later }).journal =
      sent.journal := by simp
  have hprogress := (progress_congr hjournal).trans hsend.progress_eq
  refine hkeeps.replace source { reader with stage := .sending later } (fun other => ?_)
    (fun other hother => ⟨?_, ?_⟩) ?_
  · rw [reader?_setReader, hsend.reader?_eq]
  · rw [hprogress]
  · rw [hjournal, hcalled, if_neg fun heq => hother (heq.symm.trans hsource), List.append_nil]
  · rw [hprogress, hjournal, hcalled, if_pos hsource]
    refine ⟨earlier, current ++ more, before, ?_, ?_, hall, hmore⟩
    · rw [hyielded, hmessage]
    · rw [hcalls, List.append_assoc]

theorem KeepsUp.sendOver {source : Source} {reader : Reader} {sent : Session}
    (hkeeps : session.KeepsUp plan) (hpolicy : session.KeepsPolicy plan)
    (hreader : session.reader? source = some reader) (hstage : reader.stage = .sending sending)
    (hsend : session.SendMove plan sending sent .done) :
    (sent.setReader source { reader with stage := .asking }).KeepsUp plan := by
  have hbefore := hkeeps source reader hreader
  rw [Reader.Delivers, hstage] at hbefore
  obtain ⟨earlier, current, before, hyielded, hcalls, hall, hcurrent⟩ := hbefore
  obtain ⟨hgroup, hcalled⟩ :=
    hsend.attempts hcurrent (hpolicy sending (.reader source reader hreader hstage))
  have hjournal : (sent.setReader source { reader with stage := .asking }).journal =
      sent.journal := by simp
  have hprogress := (progress_congr hjournal).trans hsend.progress_eq
  refine hkeeps.replace source { reader with stage := .asking } (fun other => ?_)
    (fun other hother => ⟨?_, ?_⟩) ?_
  · rw [reader?_setReader, hsend.reader?_eq]
  · rw [hprogress]
  · rw [hjournal, hcalled]
  · rw [hprogress, hjournal, hcalled, hyielded, hcalls]
    exact hall.concat hgroup

theorem KeepsUp.reader {source : Source} {reader : Reader} (hkeeps : session.KeepsUp plan)
    (hfollow : session.ReadersFollow plan) (hpolicy : session.KeepsPolicy plan)
    (hcrash : session.DeliversSafely plan)
    (hbuffer : session.buffer = none) (hreader : session.reader? source = some reader)
    (hmove : session.ReaderMove plan source reader next) : next.KeepsUp plan := by
  cases hmove with
  | offers message framer buffer hstage hdemand hsome =>
      exact absurd (hbuffer.symm.trans hsome) (Option.some_ne_none _).symm
  | hands message framer hstage hdemand hnone =>
      obtain ⟨rest, hpending, -⟩ := Framer.pending_of_demand hdemand
      exact hkeeps.hands framer hreader hstage
        ((hfollow source reader hreader).framer_follows.source_eq_of_pending hpending)
  | finishes hstage =>
      exact hkeeps.replace_idle hreader (fun other => reader?_endReader _ _ _ _ _)
        ((adds_endReader _ _ _ _).mono Entry.isSilent_of_isOfEnd) (by rw [hstage]; rfl) rfl
  | begins asked hstage hdemand =>
      have hadds : session.Adds Entry.isSilent
          (session.setReader source { reader with stage := .reading asked false }) :=
        Adds.of_same (by simp)
      have hreaders : ∀ other, ((session.setReader source
          { reader with stage := .reading asked false }).note (.readBegun source asked)).reader?
            other = if other = source then some { reader with stage := .reading asked false }
              else session.reader? other :=
        fun other => (reader?_note _ _ _).trans (reader?_setReader _ _ _ _)
      exact hkeeps.replace_idle hreader hreaders (hadds.trans (adds_note _ _ rfl))
        (by rw [hstage]; rfl) rfl
  | leaves asked hstage =>
      exact hkeeps.replace_idle hreader (fun other => reader?_endReader _ _ _ _ _)
        ((adds_endReader _ _ _ _).mono Entry.isSilent_of_isOfEnd) (by rw [hstage]; rfl) rfl
  | reads asked looking next hstage hgoes hread =>
      obtain ⟨after, -, hreaders⟩ :=
        (ReaderMove.reads asked looking next hstage hgoes hread).reader_step
      exact hkeeps.replace_idle hreader hreaders (hread.adds.mono Entry.isSilent_of_isOfRead)
        (by rw [hstage]; rfl) (hread.isIdle ((hreaders source).trans (if_pos rfl)))
  | sendGoesOn sending later sent hstage hdue hsend => exact hkeeps.goesOn hreader hstage hsend
  | sendOver sending sent hstage hdue hsend => exact hkeeps.sendOver hpolicy hreader hstage hsend
  | sendCrashes sending sent hstage hdue hsend =>
      exact absurd hsend (hcrash sending sent (.reader source reader hreader hstage))

theorem KeepsUp.main (hready : plan.readyError = none) (hkeeps : session.KeepsUp plan)
    (hunbuffered : session.Unbuffered) (hmove : session.MainMove plan session.main next) :
    next.KeepsUp plan := by
  have hreaders := hmove.reader?_eq hready
  have hmain := hunbuffered.main
  apply hkeeps.of_same hreaders
  generalize session.main = stage at hmain hmove
  cases hmove with
  | refuses | launches | skipsFlush | stops | finishes => exact Adds.of_same rfl
  | ready =>
      rw [Session.ready, hready]
      exact (adds_note session _ rfl).trans (Adds.of_same rfl)
  | flushes buffer hunjoined hsome =>
      exact absurd (hunbuffered.buffer.symm.trans hsome) (Option.some_ne_none _).symm
  | endsFlush | hands | sendGoesOn | sendOver | sendCrashes =>
      exact absurd hmain Bool.false_ne_true.symm

/-- As long as no delivery crashes, every reader keeps up with its framer. -/
theorem KeepsUp.move {event : SessionEvent} (hready : plan.readyError = none)
    (hkeeps : session.KeepsUp plan) (hfollow : session.ReadersFollow plan)
    (hpolicy : session.KeepsPolicy plan) (hunbuffered : session.Unbuffered)
    (hcrash : session.DeliversSafely plan)
    (hmove : session.Move plan event next) : next.KeepsUp plan := by
  cases hmove with
  | pass => exact hkeeps.of_same (reader?_of_same rfl rfl) (Adds.of_same rfl)
  | cancel => exact hkeeps.of_same (funext (reader?_cancel session)) (adds_cancel session rfl)
  | reader source reader next hlaunched hreader hmove =>
      exact hkeeps.reader hfollow hpolicy hcrash hunbuffered.buffer hreader hmove
  | drain stage buffer next hlaunched hdrain =>
      exact absurd (hunbuffered.drain.symm.trans hdrain) (Option.some_ne_none _).symm
  | join task result next hmain hresult hmem hmove =>
      refine hkeeps.of_same hmove.reader?_eq (hmove.adds.mono fun entry hentry => ?_)
      cases entry <;> first | rfl | exact absurd hentry Bool.false_ne_true
  | main next hmove => exact hkeeps.main hready hunbuffered hmove
  | tracer action tracer sample? =>
      cases sample? with
      | none => exact hkeeps.of_same (reader?_of_same rfl rfl) (Adds.of_same rfl)
      | some sample =>
          exact hkeeps.of_same (reader?_of_same rfl rfl) ((Adds.of_same rfl).cons rfl rfl)

end Session

end LogRelay
