import LogRelay.Proofs.Buffer.Messages
import LogRelay.Proofs.Session.Moves

/-!
# The messages in the journal

Which messages the framers have yielded, which of them the buffer has stored or
refused, and which have been handed to the dispatcher, each in order.  A step
of a session adds to these lists at most one message.
-/

namespace LogRelay

namespace Entry

@[simp, reducible]
def framed? : Entry → Option Message
  | .framed message => some message
  | _ => none

@[simp, reducible]
def stored? : Entry → Option Message
  | .stored message => some message
  | _ => none

@[simp, reducible]
def refused? : Entry → Option Message
  | .refused message => some message
  | _ => none

@[simp, reducible]
def handed? : Entry → Option Message
  | .handed message => some message
  | _ => none

end Entry

/-- The messages that have been yielded, stored, refused and handed over. -/
structure Ledger where
  framed : List Message
  stored : List Message
  refused : List Message
  handed : List Message

namespace Ledger

/-- A message is yielded and offered to the buffer. -/
def offer (ledger : Ledger) (message : Message) (accepted : Bool) : Ledger where
  framed := ledger.framed ++ [message]
  stored := ledger.stored ++ if accepted then [message] else []
  refused := ledger.refused ++ if accepted then [] else [message]
  handed := ledger.handed

def hand (ledger : Ledger) (message : Message) : Ledger :=
  { ledger with handed := ledger.handed ++ [message] }

end Ledger

namespace Session

/-- The messages that the framers have yielded, in order. -/
def framed (session : Session) : List Message :=
  selected Entry.framed? session.journal

/-- The messages that the buffer has accepted, in order. -/
def stored (session : Session) : List Message :=
  selected Entry.stored? session.journal

/-- The messages that the buffer has refused, in order. -/
def refused (session : Session) : List Message :=
  selected Entry.refused? session.journal

/-- The messages that have been handed to the dispatcher, in order. -/
def handed (session : Session) : List Message :=
  selected Entry.handed? session.journal

def ledger (session : Session) : Ledger :=
  ⟨session.framed, session.stored, session.refused, session.handed⟩

/-- The messages of one source. -/
def ofSource (source : Source) (messages : List Message) : List Message :=
  messages.filter (·.source = source)

theorem length_ofSource_add (messages : List Message) :
    (ofSource .stdout messages).length + (ofSource .stderr messages).length =
      messages.length := by
  induction messages with
  | nil => rfl
  | cons message rest ih =>
      cases hsource : message.source <;>
        simp [ofSource, hsource] at ih ⊢ <;> omega

variable {plan : Plan} {session next : Session} {buffer : Buffer}

@[simp]
theorem ledger_cancel (session : Session) : session.cancel.ledger = session.ledger := by
  simp [ledger, framed, stored, refused, handed]

/-- The answer of a sink is no matter of the ledger. -/
theorem SendMove.ledger_eq {sending : Sending} {progress : SendProgress}
    (hsend : session.SendMove plan sending next progress) : next.ledger = session.ledger := by
  have hselected : ∀ select : Entry → Option Message,
      (∀ message reply, select (.called message reply) = none) →
      (∀ message reply, select (.answered message reply) = none) →
      (∀ message, select (.delivered message) = none) →
      (∀ message error, select (.abandoned message error) = none) →
      selected select next.journal = selected select session.journal :=
    fun select => hsend.selected_eq
  rw [ledger, ledger, framed, framed, stored, stored, refused, refused, handed, handed]
  congr 1 <;> apply hselected <;> simp

/-- A step of a reader offers one message to the buffer, or it may close it. -/
theorem ReaderMove.ledger_cases {source : Source} {reader : Reader}
    (hbuffer : session.buffer = some buffer)
    (hmove : session.ReaderMove plan source reader next) :
    (∃ message, next.buffer = some (buffer.enqueue message) ∧
      next.ledger = session.ledger.offer message (buffer.accepts message)) ∨
    ((next.buffer = some buffer ∨ next.buffer = some buffer.closeProducer) ∧
      next.ledger = session.ledger) := by
  cases hmove with
  | offers message framer buffer' hstage hdemand hbuffer' =>
      obtain rfl : buffer' = buffer := Option.some.inj (hbuffer'.symm.trans hbuffer)
      refine Or.inl ⟨message, ?_, ?_⟩
      · simp
      · cases haccepts : buffer'.accepts message <;>
          simp [ledger, framed, stored, refused, handed, Ledger.offer]
  | hands message framer hstage hdemand hnone =>
      exact absurd (hnone.symm.trans hbuffer) (Option.some_ne_none _).symm
  | finishes | leaves =>
      refine Or.inr ⟨Or.inr ?_, ?_⟩
      · simp [hbuffer]
      · simp [ledger, framed, stored, refused, handed]
  | begins =>
      refine Or.inr ⟨Or.inl ?_, ?_⟩
      · simp [hbuffer]
      · simp [ledger, framed, stored, refused, handed]
  | reads asked looking next hstage hgoes hread =>
      refine Or.inr ⟨?_, ?_⟩
      · cases hread <;> simp [hbuffer]
      · cases hread <;> simp [ledger, framed, stored, refused, handed]
  | sendGoesOn sending later sent hstage hdue hsend =>
      refine Or.inr ⟨Or.inl ?_, ?_⟩
      · simp [hsend.keeps, hbuffer]
      · rw [← hsend.ledger_eq]
        simp [ledger, framed, stored, refused, handed]
  | sendOver sending sent hstage hdue hsend =>
      refine Or.inr ⟨Or.inl ?_, ?_⟩
      · simp [hsend.keeps, hbuffer]
      · rw [← hsend.ledger_eq]
        simp [ledger, framed, stored, refused, handed]
  | sendCrashes sending sent hstage hdue hsend =>
      refine Or.inr ⟨Or.inr ?_, ?_⟩
      · simp [hsend.keeps, hbuffer]
      · rw [← hsend.ledger_eq]
        simp [ledger, framed, stored, refused, handed]

/-- A step of the drain hands over the message that it takes from the buffer. -/
theorem DrainMove.ledger_cases {stage : DrainStage} (hbuffer : session.buffer = some buffer)
    (hmove : session.DrainMove plan buffer stage next) :
    (∃ message rest, buffer.dequeue? = some (message, rest) ∧ next.buffer = some rest ∧
      next.ledger = session.ledger.hand message) ∨
    (next.buffer = some buffer ∧ next.ledger = session.ledger) := by
  cases hmove with
  | takes message rest hdequeue =>
      refine Or.inl ⟨message, rest, hdequeue, ?_, ?_⟩
      · simp [setDrain]
      · simp [setDrain, ledger, framed, stored, refused, handed, Ledger.hand]
  | finishes =>
      refine Or.inr ⟨?_, ?_⟩
      · simp [hbuffer]
      · simp [ledger, framed, stored, refused, handed]
  | sendGoesOn sending later sent hdue hsend =>
      refine Or.inr ⟨?_, hsend.ledger_eq⟩
      simp [setDrain, hsend.keeps, hbuffer]
  | sendOver sending sent hdue hsend =>
      refine Or.inr ⟨?_, hsend.ledger_eq⟩
      simp [setDrain, hsend.keeps, hbuffer]
  | sendCrashes sending sent hdue hsend =>
      refine Or.inr ⟨?_, ?_⟩
      · simp [hsend.keeps, hbuffer]
      · rw [← hsend.ledger_eq]
        simp [ledger, framed, stored, refused, handed]

theorem JoinMove.ledger_eq {task : Task} {result : TaskResult}
    (hmove : session.JoinMove task result next) :
    next.buffer = session.buffer ∧ next.ledger = session.ledger := by
  cases hmove <;> simp [ledger, framed, stored, refused, handed]

end Session

end LogRelay
