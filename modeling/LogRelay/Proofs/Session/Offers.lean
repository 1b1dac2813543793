import LogRelay.Proofs.Session.Journal
import LogRelay.Proofs.Session.Ledger
import LogRelay.Proofs.Session.Results

/-!
# What a framer yields is offered to the buffer

In non-blocking mode a reader offers each message to the buffer in the step in
which its framer yields it.  So the offers, whether they are accepted or refused,
are the yielded messages in the same order.
-/

namespace LogRelay

/-- The message that has been offered to the buffer. -/
@[simp, reducible]
def Entry.offered? : Entry → Option Message
  | .stored message => some message
  | .refused message => some message
  | _ => none

namespace Session

variable {plan : Plan} {session next : Session}

/-- The messages that have been offered to the buffer, in order. -/
def offered (session : Session) : List Message :=
  selected Entry.offered? session.journal

/-- There is a buffer, and it has been offered all that the framers have yielded. -/
structure Buffered (session : Session) : Prop where
  present : session.buffer.isSome = true
  offers : session.offered = session.framed

theorem buffered_create (hmode : plan.options.mode = .nonBlocking)
    (stdout stderr : Option PipeScript) (sink : SinkBehaviour) :
    (create plan stdout stderr sink).Buffered := by
  constructor
  · simp [create, hmode]
  · rfl

/-- A step that neither yields a message nor offers one. -/
theorem Buffered.of_same (hbuffered : session.Buffered)
    (hbuffer : next.buffer.isSome = session.buffer.isSome)
    (hoffered : next.offered = session.offered) (hframed : next.framed = session.framed) :
    next.Buffered := by
  constructor
  · rw [hbuffer]
    exact hbuffered.present
  · rw [hoffered, hframed]
    exact hbuffered.offers

theorem SendMove.offered_eq {sending : Sending} {progress : SendProgress}
    (hsend : session.SendMove plan sending next progress) :
    next.offered = session.offered ∧ next.framed = session.framed := by
  constructor
  · exact hsend.selected_eq (fun _ _ => rfl) (fun _ _ => rfl) (fun _ => rfl) fun _ _ => rfl
  · exact congrArg Ledger.framed hsend.ledger_eq

theorem Buffered.reader {source : Source} {reader : Reader} (hbuffered : session.Buffered)
    (hmove : session.ReaderMove plan source reader next) : next.Buffered := by
  cases hmove with
  | offers message framer buffer hstage hdemand hbuffer =>
      constructor
      · simp
      · have hoffers := hbuffered.offers
        rw [offered, framed] at hoffers
        cases buffer.accepts message <;> simp [offered, framed, hoffers]
  | hands message framer hstage hdemand hnone =>
      have hpresent := hbuffered.present
      rw [hnone] at hpresent
      exact absurd hpresent Bool.false_ne_true
  | finishes | leaves | begins =>
      apply hbuffered.of_same <;> simp [offered, framed]
  | reads asked looking next hstage hgoes hread =>
      cases hread <;> apply hbuffered.of_same <;> simp [offered, framed]
  | sendGoesOn sending later sent hstage hdue hsend =>
      apply hbuffered.of_same
      · simp [hsend.keeps]
      · rw [← hsend.offered_eq.1]
        simp [offered]
      · rw [← hsend.offered_eq.2]
        simp [framed]
  | sendOver sending sent hstage hdue hsend =>
      apply hbuffered.of_same
      · simp [hsend.keeps]
      · rw [← hsend.offered_eq.1]
        simp [offered]
      · rw [← hsend.offered_eq.2]
        simp [framed]
  | sendCrashes sending sent hstage hdue hsend =>
      apply hbuffered.of_same
      · simp [hsend.keeps]
      · rw [← hsend.offered_eq.1]
        simp [offered]
      · rw [← hsend.offered_eq.2]
        simp [framed]

theorem Buffered.drain {buffer : Buffer} {stage : DrainStage} (hbuffered : session.Buffered)
    (hmove : session.DrainMove plan buffer stage next) : next.Buffered := by
  cases hmove with
  | takes =>
      constructor
      · simp [setDrain]
      · simpa [setDrain, offered, framed] using hbuffered.offers
  | finishes => apply hbuffered.of_same <;> simp [offered, framed]
  | sendGoesOn sending later sent hdue hsend =>
      obtain ⟨hoffered, hframed⟩ := hsend.offered_eq
      exact hbuffered.of_same (by simp [setDrain, hsend.keeps]) hoffered hframed
  | sendOver sending sent hdue hsend =>
      obtain ⟨hoffered, hframed⟩ := hsend.offered_eq
      exact hbuffered.of_same (by simp [setDrain, hsend.keeps]) hoffered hframed
  | sendCrashes sending sent hdue hsend =>
      apply hbuffered.of_same
      · simp [hsend.keeps]
      · rw [← hsend.offered_eq.1]
        simp [offered]
      · rw [← hsend.offered_eq.2]
        simp [framed]

theorem Buffered.main (hready : plan.readyError = none) {stage : MainStage}
    (hbuffered : session.Buffered) (hmove : session.MainMove plan stage next) : next.Buffered := by
  cases hmove with
  | refuses | launches | skipsFlush | stops | finishes => exact hbuffered.of_same rfl rfl rfl
  | ready =>
      rw [Session.ready, hready]
      apply hbuffered.of_same <;> simp [offered, framed]
  | flushes =>
      constructor
      · simp
      · simpa [offered, framed] using hbuffered.offers
  | endsFlush =>
      unfold finishFlush
      dsimp only
      split <;> apply hbuffered.of_same <;> simp [clean, offered, framed]
  | hands => apply hbuffered.of_same <;> simp [offered, framed]
  | sendGoesOn sending later remaining sent hdue hsend =>
      obtain ⟨hoffered, hframed⟩ := hsend.offered_eq
      exact hbuffered.of_same (by simp [hsend.keeps]) hoffered hframed
  | sendOver sending remaining sent hdue hsend =>
      obtain ⟨hoffered, hframed⟩ := hsend.offered_eq
      exact hbuffered.of_same (by simp [hsend.keeps]) hoffered hframed
  | sendCrashes sending remaining sent hdue hsend =>
      obtain ⟨hoffered, hframed⟩ := hsend.offered_eq
      exact hbuffered.of_same (by simp [hsend.keeps]) hoffered hframed

/-- Every message that has been yielded has been offered, at every moment. -/
theorem Buffered.move {event : SessionEvent} (hready : plan.readyError = none)
    (hbuffered : session.Buffered) (hmove : session.Move plan event next) : next.Buffered := by
  cases hmove with
  | pass => exact hbuffered.of_same rfl rfl rfl
  | cancel => apply hbuffered.of_same <;> simp [offered, framed]
  | reader source reader next hlaunched hreader hmove => exact hbuffered.reader hmove
  | drain stage buffer next hlaunched hdrain hbuffer hmove => exact hbuffered.drain hmove
  | join task result next hmain hresult hmem hmove =>
      cases hmove <;> apply hbuffered.of_same <;> simp [offered, framed]
  | main next hmove => exact hbuffered.main hready hmove
  | tracer action tracer sample? =>
      cases sample? with
      | none => exact hbuffered.of_same rfl rfl rfl
      | some sample => apply hbuffered.of_same <;> simp [offered, framed]

end Session

end LogRelay
