import LogRelay.Proofs.Session.Ledger
import LogRelay.Proofs.Session.Tasks

/-!
# The buffer and those who use it

A buffer is shared by the readers, which add to it and finish with it when they
end, the drain, which takes from it, and the main task, which empties it when
all of them have ended.  Every step of a session is one of these to the buffer.
-/

namespace LogRelay.Session

variable {plan : Plan} {session next : Session} {buffer : Buffer}

theorem fields_enqueue (buffer : Buffer) (message : Message) :
    (buffer.enqueue message).producers = buffer.producers ∧
      (buffer.enqueue message).closedProducers = buffer.closedProducers := by
  rw [Buffer.enqueue]
  split <;> exact ⟨rfl, rfl⟩

theorem fields_of_dequeue? {rest : Buffer} {message : Message}
    (hdequeue : buffer.dequeue? = some (message, rest)) :
    rest.producers = buffer.producers ∧ rest.closedProducers = buffer.closedProducers := by
  rw [Buffer.eq_of_dequeue? hdequeue]
  exact ⟨rfl, rfl⟩

/-! ## What a step makes of the buffer -/

/-- Nothing has been offered to the buffer. -/
def OffersNothing (session next : Session) : Prop :=
  next.stored = session.stored ∧ next.refused = session.refused

theorem offersNothing_of_ledger (hledger : next.ledger = session.ledger) :
    session.OffersNothing next := by
  obtain ⟨-, hstored, hrefused, -⟩ := Ledger.mk.inj hledger
  exact ⟨hstored, hrefused⟩

/-- What a step makes of the buffer, and how many readers are at work with it. -/
inductive BufferStep (session next : Session) (buffer : Buffer) : Buffer → Prop where
  | stays (hreaders : next.readersAtWork = session.readersAtWork)
      (hoffers : session.OffersNothing next) : BufferStep session next buffer buffer
  /-- A reader at work offers a message. -/
  | takes (message : Message) (hwork : 0 < session.readersAtWork)
      (hreaders : next.readersAtWork = session.readersAtWork) :
      BufferStep session next buffer (buffer.enqueue message)
  /-- The drain takes a message. -/
  | gives (message : Message) (rest : Buffer)
      (hdequeue : buffer.dequeue? = some (message, rest))
      (hreaders : next.readersAtWork = session.readersAtWork)
      (hoffers : session.OffersNothing next) : BufferStep session next buffer rest
  /-- The main task takes what is left. -/
  | empties (hreaders : next.readersAtWork = session.readersAtWork)
      (hoffers : session.OffersNothing next) : BufferStep session next buffer buffer.flush
  /-- A reader ends. -/
  | closes (hreaders : session.readersAtWork = next.readersAtWork + 1)
      (hoffers : session.OffersNothing next) : BufferStep session next buffer buffer.closeProducer

theorem ReaderMove.bufferStep {source : Source} {reader : Reader}
    (hbuffer : session.buffer = some buffer) (hreader : session.reader? source = some reader)
    (hmove : session.ReaderMove plan source reader next) :
    ∃ after, next.buffer = some after ∧ session.BufferStep next buffer after := by
  obtain ⟨hwork, hcounts⟩ := hmove.counts hreader
  cases hmove with
  | offers message framer buffer' hstage hdemand hbuffer' =>
      obtain rfl : buffer' = buffer := Option.some.inj (hbuffer'.symm.trans hbuffer)
      exact ⟨_, by simp, .takes message hwork (by simpa using hcounts)⟩
  | hands message framer hstage hdemand hnone =>
      exact absurd (hnone.symm.trans hbuffer) (Option.some_ne_none _).symm
  | finishes | leaves =>
      refine ⟨buffer.closeProducer, by simp [hbuffer], .closes ?_ ?_⟩
      · simp only [endReader_keeps, List.length_append, List.length_singleton] at hcounts
        omega
      · exact ⟨by simp [stored], by simp [refused]⟩
  | begins =>
      refine ⟨buffer, by simp [hbuffer], .stays (by simpa using hcounts) ?_⟩
      exact ⟨by simp [stored], by simp [refused]⟩
  | reads asked looking next hstage hgoes hread =>
      cases hread with
      | brings | startsAgain | cancels | waits =>
          refine ⟨buffer, by simp [hbuffer], .stays (by simpa using hcounts) ?_⟩
          exact ⟨by simp [stored], by simp [refused]⟩
      | fails | crashes =>
          refine ⟨buffer.closeProducer, by simp [hbuffer], .closes ?_ ?_⟩
          · simp only [endReader_keeps, note_keeps, List.length_append,
              List.length_singleton] at hcounts
            omega
          · exact ⟨by simp [stored], by simp [refused]⟩
  | sendGoesOn sending later sent hstage hdue hsend | sendOver sending sent hstage hdue hsend =>
      have hoffers := offersNothing_of_ledger hsend.ledger_eq
      refine ⟨buffer, by simp [hsend.keeps, hbuffer], .stays ?_ ?_⟩
      · simpa [hsend.keeps] using hcounts
      · simpa [OffersNothing, stored, refused] using hoffers
  | sendCrashes sending sent hstage hdue hsend =>
      have hoffers := offersNothing_of_ledger hsend.ledger_eq
      refine ⟨buffer.closeProducer, by simp [hsend.keeps, hbuffer], .closes ?_ ?_⟩
      · simp only [endReader_keeps, hsend.keeps, List.length_append,
          List.length_singleton] at hcounts
        omega
      · simpa [OffersNothing, stored, refused] using hoffers

theorem DrainMove.bufferStep {stage : DrainStage} (hbuffer : session.buffer = some buffer)
    (hmove : session.DrainMove plan buffer stage next) :
    ∃ after, next.buffer = some after ∧ session.BufferStep next buffer after := by
  have hreaders := hmove.counts.2.1
  rcases hmove.ledger_cases hbuffer with ⟨message, rest, hdequeue, hafter, hledger⟩ |
    ⟨hafter, hledger⟩
  · obtain ⟨-, hstored, hrefused, -⟩ := Ledger.mk.inj hledger
    exact ⟨rest, hafter, .gives message rest hdequeue hreaders ⟨hstored, hrefused⟩⟩
  · exact ⟨buffer, hafter, .stays hreaders (offersNothing_of_ledger hledger)⟩

theorem MainMove.bufferStep {stage : MainStage} (hready : plan.readyError = none)
    (hbuffer : session.buffer = some buffer) (hmove : session.MainMove plan stage next) :
    ∃ after, next.buffer = some after ∧ session.BufferStep next buffer after := by
  obtain ⟨hreaders, -⟩ := hmove.counts hready
  cases hmove with
  | refuses | launches | skipsFlush | stops | finishes =>
      exact ⟨buffer, hbuffer, .stays hreaders ⟨rfl, rfl⟩⟩
  | ready =>
      refine ⟨buffer, by simp [Session.ready, hready, hbuffer], .stays hreaders ?_⟩
      simp [OffersNothing, Session.ready, hready, stored, refused]
  | flushes buffer' hunjoined hbuffer' =>
      obtain rfl : buffer' = buffer := Option.some.inj (hbuffer'.symm.trans hbuffer)
      refine ⟨buffer'.flush, by simp, .empties hreaders ?_⟩
      simp [OffersNothing, stored, refused]
  | endsFlush =>
      refine ⟨buffer, ?_, .stays hreaders ?_⟩
      · unfold finishFlush
        dsimp only
        split <;> exact hbuffer
      · unfold finishFlush
        dsimp only
        split <;> simp [OffersNothing, clean, stored, refused]
  | hands =>
      refine ⟨buffer, by simp [hbuffer], .stays hreaders ?_⟩
      simp [OffersNothing, stored, refused]
  | sendGoesOn sending later remaining sent hdue hsend
  | sendOver sending remaining sent hdue hsend | sendCrashes sending remaining sent hdue hsend =>
      exact ⟨buffer, hsend.keeps.2.2.2.2.2.1.trans hbuffer,
        .stays hreaders (offersNothing_of_ledger hsend.ledger_eq)⟩

/-- Whatever the step is, it is one of these to the buffer. -/
theorem Move.bufferStep {event : SessionEvent} (hready : plan.readyError = none)
    (hbuffer : session.buffer = some buffer) (hmove : session.Move plan event next) :
    ∃ after, next.buffer = some after ∧ session.BufferStep next buffer after := by
  cases hmove with
  | pass => exact ⟨buffer, hbuffer, .stays rfl ⟨rfl, rfl⟩⟩
  | cancel =>
      refine ⟨buffer, by simpa using hbuffer, .stays (by simp [readersAtWork]) ?_⟩
      exact offersNothing_of_ledger (ledger_cancel session)
  | reader source reader next hlaunched hreader hmove => exact hmove.bufferStep hbuffer hreader
  | drain stage buffer' next hlaunched hdrain hbuffer' hmove =>
      obtain rfl : buffer' = buffer := Option.some.inj (hbuffer'.symm.trans hbuffer)
      exact hmove.bufferStep hbuffer
  | join task result next hmain hresult hmem hmove =>
      obtain ⟨hafter, hledger⟩ := hmove.ledger_eq
      exact ⟨buffer, hafter.trans hbuffer,
        .stays hmove.counts.1 (offersNothing_of_ledger hledger)⟩
  | main next hmove => exact hmove.bufferStep hready hbuffer
  | tracer action tracer sample? =>
      cases sample? with
      | none => exact ⟨buffer, hbuffer, .stays rfl ⟨rfl, rfl⟩⟩
      | some sample =>
          refine ⟨buffer, hbuffer, .stays rfl ?_⟩
          simp [OffersNothing, stored, refused]

theorem ReaderMove.buffer_eq_none {source : Source} {reader : Reader}
    (hbuffer : session.buffer = none) (hmove : session.ReaderMove plan source reader next) :
    next.buffer = none := by
  cases hmove with
  | offers message framer buffer hstage hdemand hsome =>
      exact absurd (hbuffer.symm.trans hsome) (Option.some_ne_none _).symm
  | reads asked looking next hstage hgoes hread => cases hread <;> simp [hbuffer]
  | sendGoesOn sending later sent hstage hdue hsend | sendOver sending sent hstage hdue hsend
  | sendCrashes sending sent hstage hdue hsend => simp [hsend.keeps, hbuffer]
  | _ => simp [hbuffer]

theorem MainMove.buffer_eq_none {stage : MainStage} (hready : plan.readyError = none)
    (hbuffer : session.buffer = none) (hmove : session.MainMove plan stage next) :
    next.buffer = none := by
  cases hmove with
  | ready => simp [Session.ready, hready, hbuffer]
  | flushes buffer hunjoined hsome =>
      exact absurd (hbuffer.symm.trans hsome) (Option.some_ne_none _).symm
  | endsFlush =>
      unfold finishFlush
      dsimp only
      split <;> exact hbuffer
  | hands => simp [hbuffer]
  | sendGoesOn sending later remaining sent hdue hsend
  | sendOver sending remaining sent hdue hsend | sendCrashes sending remaining sent hdue hsend =>
      exact hsend.keeps.2.2.2.2.2.1.trans hbuffer
  | _ => exact hbuffer

/-- A session without a buffer gets none. -/
theorem Move.buffer_eq_none {event : SessionEvent} (hready : plan.readyError = none)
    (hbuffer : session.buffer = none) (hmove : session.Move plan event next) :
    next.buffer = none := by
  cases hmove with
  | pass => exact hbuffer
  | cancel => simpa using hbuffer
  | reader source reader next hlaunched hreader hmove => exact hmove.buffer_eq_none hbuffer
  | drain stage buffer next hlaunched hdrain hsome hmove =>
      exact absurd (hbuffer.symm.trans hsome) (Option.some_ne_none _).symm
  | join task result next hmain hresult hmem hmove => exact hmove.ledger_eq.1.trans hbuffer
  | main next hmove => exact hmove.buffer_eq_none hready hbuffer
  | tracer action tracer sample? => cases sample? <;> exact hbuffer

theorem Move.isSome_buffer {event : SessionEvent} (hready : plan.readyError = none)
    (hmove : session.Move plan event next) : next.buffer.isSome = session.buffer.isSome := by
  cases hbuffer : session.buffer with
  | none => rw [hmove.buffer_eq_none hready hbuffer]
  | some buffer =>
      obtain ⟨after, hafter, -⟩ := hmove.bufferStep hready hbuffer
      rw [hafter]
      rfl

end LogRelay.Session
