import LogRelay.Proofs.Framing.Bytes
import LogRelay.Proofs.Session.Leaving
import LogRelay.Session.Report
import Mathlib.Algebra.Order.Group.Multiset

/-!
# The books of a session

What the reads have brought, what has become of the messages that were handed to the
dispatcher, and what the reporting task has reported.  A step makes one entry at most,
and counts what it enters.  A message that was handed over stays under way in one of
the tasks until it is delivered or abandoned, unless that task crashes.
-/

namespace LogRelay

namespace Entry

/-- What a read has brought. -/
@[simp, reducible]
def bytes? : Entry → Option Bytes
  | .readDone _ _ (.data bytes) => some bytes
  | _ => none

@[simp, reducible]
def delivered? : Entry → Option Message
  | .delivered message => some message
  | _ => none

@[simp, reducible]
def abandoned? : Entry → Option Message
  | .abandoned message _ => some message
  | _ => none

@[simp, reducible]
def reported? : Entry → Option Counters
  | .reported sample => some sample
  | _ => none

end Entry

/-- What has been entered so far. -/
@[ext]
structure Books where
  brought : Bytes
  handed : List Message
  delivered : List Message
  abandoned : List Message
  reported : List Counters

namespace Books

def ofJournal (journal : List (Nat × Entry)) : Books :=
  ⟨(Session.selected Entry.bytes? journal).flatten, Session.selected Entry.handed? journal,
    Session.selected Entry.delivered? journal, Session.selected Entry.abandoned? journal,
    Session.selected Entry.reported? journal⟩

/-- The books after one more entry of the journal. -/
@[simp]
def enter (books : Books) : Entry → Books
  | .readDone _ _ (.data bytes) => { books with brought := books.brought ++ bytes }
  | .handed message => { books with handed := books.handed ++ [message] }
  | .delivered message => { books with delivered := books.delivered ++ [message] }
  | .abandoned message _ => { books with abandoned := books.abandoned ++ [message] }
  | .reported sample => { books with reported := books.reported ++ [sample] }
  | _ => books

@[simp]
theorem ofJournal_nil : ofJournal [] = ⟨[], [], [], [], []⟩ :=
  rfl

@[simp]
theorem ofJournal_cons (time : Nat) (entry : Entry) (journal : List (Nat × Entry)) :
    ofJournal ((time, entry) :: journal) = (ofJournal journal).enter entry := by
  cases entry with
  | readDone source asked result => cases result <;> simp [ofJournal]
  | _ => simp [ofJournal]

end Books

/-- The message of a delivery that is under way, if there is one. -/
def ReaderStage.inHand : ReaderStage → Multiset Message
  | .sending current => {current.delivery.message}
  | _ => 0

def DrainStage.inHand : DrainStage → Multiset Message
  | .sending current => {current.delivery.message}
  | _ => 0

def MainStage.inHand : MainStage → Multiset Message
  | .flushSending sending _ => {sending.delivery.message}
  | _ => 0

namespace Session

variable {plan : Plan} {session next : Session} {source : Source}

/-- What the reads of all pipes have brought, in order. -/
def brought (session : Session) : Bytes :=
  (selected Entry.bytes? session.journal).flatten

/-- The messages that have been given up, in order. -/
def abandoned (session : Session) : List Message :=
  selected Entry.abandoned? session.journal

def reported (session : Session) : List Counters :=
  selected Entry.reported? session.journal

theorem sampleTotal_eq (session : Session) :
    session.sampleTotal = session.reported.foldl Counters.add Counters.zero := by
  have hreported : session.reported = session.samples.map Prod.snd := by
    rw [reported, selected, samples, List.map_filterMap, history]
    congr 1
    funext stamped
    obtain ⟨_, entry⟩ := stamped
    cases entry <;> rfl
  rw [hreported, List.foldl_map]
  rfl

def books (session : Session) : Books :=
  .ofJournal session.journal

/-- The messages whose deliveries are under way. -/
def inHand (session : Session) : Multiset Message :=
  ((session.reader? .stdout).map (·.stage.inHand)).getD 0 +
    ((session.reader? .stderr).map (·.stage.inHand)).getD 0 +
    ((session.drain.map DrainStage.inHand).getD 0 + session.main.inHand)

/-- What a step that is not of the reporting task enters and counts. -/
inductive Enters (session next : Session) : Prop where
  | nothing (hbooks : next.books = session.books)
      (hcounters : next.tracer.counters = session.tracer.counters)
      (hinHand : next.inHand = session.inHand)
  | brings (bytes : Bytes)
      (hbooks : next.books = { session.books with brought := session.brought ++ bytes })
      (hcounters : next.tracer.counters =
        (session.tracer.counters.record .read bytes.length).record .newlines (bytes.count newline))
      (hinHand : next.inHand = session.inHand)
  | hands (message : Message)
      (hbooks : next.books = { session.books with handed := session.handed ++ [message] })
      (hcounters : next.tracer.counters = session.tracer.counters)
      (hinHand : next.inHand = session.inHand + {message})
  | delivers (message : Message)
      (hbooks : next.books = { session.books with delivered := session.delivered ++ [message] })
      (hcounters : next.tracer.counters = session.tracer.counters.record .sent message.size)
      (hinHand : next.inHand + {message} = session.inHand)
  | abandons (message : Message)
      (hbooks : next.books = { session.books with abandoned := session.abandoned ++ [message] })
      (hcounters : next.tracer.counters = session.tracer.counters)
      (hinHand : next.inHand + {message} = session.inHand)
  | crashes (hbooks : next.books = session.books)
      (hcounters : next.tracer.counters = session.tracer.counters) (hcrashed : ¬ next.Calm)

/-! ## Operations -/

@[simp]
theorem ofJournal_journal (session : Session) :
    (Books.ofJournal session.journal).brought = session.brought ∧
    (Books.ofJournal session.journal).handed = session.handed ∧
    (Books.ofJournal session.journal).delivered = session.delivered ∧
    (Books.ofJournal session.journal).abandoned = session.abandoned ∧
    (Books.ofJournal session.journal).reported = session.reported :=
  ⟨rfl, rfl, rfl, rfl, rfl⟩

@[simp]
theorem ofJournal_endReader (session : Session) (source : Source) (reader : Reader)
    (result : TaskResult) : Books.ofJournal (session.endReader source reader result).journal =
      Books.ofJournal session.journal := by
  simp [Books.ofJournal]

@[simp]
theorem ofJournal_cancel (session : Session) :
    Books.ofJournal session.cancel.journal = Books.ofJournal session.journal := by
  simp [Books.ofJournal]

@[simp]
theorem books_setReader (session : Session) (source : Source) (reader : Reader) :
    (session.setReader source reader).books = session.books := by
  simp [books]

@[simp]
theorem books_endReader (session : Session) (source : Source) (reader : Reader)
    (result : TaskResult) : (session.endReader source reader result).books = session.books := by
  simp [books]

@[simp]
theorem books_endDrain (session : Session) (result : TaskResult) :
    (session.endDrain result).books = session.books := by
  simp [books]

@[simp]
theorem books_cancel (session : Session) : session.cancel.books = session.books := by
  simp [books]

@[simp]
theorem books_hand (plan : Plan) (session : Session) (message : Message) :
    (session.hand plan message).1.books =
      { session.books with handed := session.handed ++ [message] } := by
  simp [books]

/-! ## Deliveries -/

section Deliveries

variable {sending later : Sending}

theorem SendMove.books_of_goesOn (hsend : session.SendMove plan sending next (.goesOn later)) :
    next.books = session.books ∧ next.tracer.counters = session.tracer.counters ∧
      later.delivery.message = sending.delivery.message := by
  cases hsend with
  | recalls => simp [books, call]
  | pauses answerAt reply duration delivery hstage hanswer =>
      obtain ⟨-, -, rfl⟩ := Delivery.answer_eq_pause hanswer
      simp [books]

/-- A delivery that is over has delivered its message or given it up. -/
theorem SendMove.books_of_done (hsend : session.SendMove plan sending next .done) :
    (next.books =
        { session.books with delivered := session.delivered ++ [sending.delivery.message] } ∧
      next.tracer.counters =
        session.tracer.counters.record .sent sending.delivery.message.size) ∨
    (next.books =
        { session.books with abandoned := session.abandoned ++ [sending.delivery.message] } ∧
      next.tracer.counters = session.tracer.counters) := by
  cases hsend with
  | delivers =>
      refine Or.inl ⟨?_, rfl⟩
      simp [books]
  | abandons =>
      refine Or.inr ⟨?_, rfl⟩
      simp [books]

theorem SendMove.books_of_crashed (hsend : session.SendMove plan sending next .crashed) :
    next.books = session.books ∧ next.tracer.counters = session.tracer.counters := by
  cases hsend with
  | crashes => simp [books]

end Deliveries

/-! ## Tasks -/

/-- A step that puts another reader in the place of one. -/
theorem inHand_of_replaced {reader after : Reader} (hreader : session.reader? source = some reader)
    (hreaders : ∀ other, next.reader? other =
      if other = source then some after else session.reader? other)
    (hdrain : next.drain = session.drain) (hmain : next.main = session.main) :
    next.inHand + reader.stage.inHand = session.inHand + after.stage.inHand := by
  rw [inHand, inHand, hdrain, hmain]
  cases source with
  | stdout =>
      simp only [hreaders, hreader, if_true, reduceCtorEq, if_false, Option.map_some,
        Option.getD_some]
      abel
  | stderr =>
      simp only [hreaders, hreader, if_true, reduceCtorEq, if_false, Option.map_some,
        Option.getD_some]
      abel

theorem inHand_of_same_readers (hreaders : next.reader? = session.reader?) :
    next.inHand + ((session.drain.map DrainStage.inHand).getD 0 + session.main.inHand) =
      session.inHand + ((next.drain.map DrainStage.inHand).getD 0 + next.main.inHand) := by
  rw [inHand, inHand, hreaders]
  abel

/-- Where a reader has crashed, the session is not calm. -/
theorem not_calm_of_reader {reader : Reader} (hreader : session.reader? source = some reader)
    (hstage : reader.stage = .ended .crashed) : ¬ session.Calm := by
  intro hcalm
  apply hcalm.tasks (.reader source)
  simp only [taskResult?, hreader, hstage]

theorem ReadMove.enters {reader : Reader} {asked : Nat} {looking : Bool}
    (hreader : session.reader? source = some reader)
    (hstage : reader.stage = .reading asked looking) (hawaits : reader.framer.Awaits asked)
    (hread : session.ReadMove plan source reader asked looking next) : session.Enters next := by
  have hkept : ∀ after : Reader, after.stage.inHand = 0 →
      (∀ other, next.reader? other =
        if other = source then some after else session.reader? other) →
      next.drain = session.drain → next.main = session.main → next.inHand = session.inHand := by
    intro after hnone hreaders hdrain hmain
    have hreplaced := inHand_of_replaced hreader hreaders hdrain hmain
    rw [hnone, hstage] at hreplaced
    simpa [ReaderStage.inHand] using hreplaced
  cases hread with
  | brings bytes pipe hlook =>
      have hcount := hawaits.newlines_receive (PipeScript.length_le_of_look hlook)
        (plan.runIds source) (plan.timeOfDay session.clock)
      refine .brings bytes ?_ ?_ (hkept ⟨(reader.framer.receive (plan.runIds source)
        (plan.timeOfDay session.clock) bytes).1, pipe, .asking⟩ rfl (fun other => ?_) ?_ ?_)
      · simp [books]
      · simp [record, Tracer.record, hcount]
      · simp [reader?_setReader]
      · simp
      · simp
  | startsAgain failure pipe =>
      refine .nothing ?_ (by simp) (hkept { reader with pipe := pipe, stage := .asking } rfl
        (fun other => ?_) (by simp) (by simp))
      · simp [books]
      · simp [reader?_setReader]
  | fails failure pipe =>
      refine .nothing ?_ (by simp) (hkept
        { reader with pipe := pipe, stage := .ended (.failed (.read source failure)) } rfl
        (fun other => ?_) (by simp) (by simp))
      · simp [books]
      · simp [reader?_endReader]
  | crashes pipe =>
      exact .crashes (by simp) (by simp)
        (not_calm_of_reader ((reader?_endReader _ _ _ _ _).trans (if_pos rfl)) rfl)
  | cancels pipe =>
      refine .nothing (by simp) (by simp) (hkept
        { reader with pipe := pipe, stage := .reading asked true } rfl (fun other => ?_) (by simp)
        (by simp))
      simp [reader?_setReader]
  | waits until? pipe =>
      exact .nothing (by simp) (by simp) (hkept
        { reader with pipe := pipe, stage := .reading asked false } rfl
        (fun other => reader?_setReader _ _ _ _) (by simp) (by simp))

theorem ReaderMove.enters {reader : Reader} (hreader : session.reader? source = some reader)
    (hawaits : ∀ asked looking, reader.stage = .reading asked looking →
      reader.framer.Awaits asked)
    (hmove : session.ReaderMove plan source reader next) : session.Enters next := by
  obtain ⟨-, hmain, hdrain, -⟩ := hmove.changes
  -- Only this reader changes, so what is under way changes with what it has in hand.
  have hreplaced : ∀ after : Reader, (∀ other, next.reader? other =
      if other = source then some after else session.reader? other) →
      next.inHand + reader.stage.inHand = session.inHand + after.stage.inHand :=
    fun after hreaders => inHand_of_replaced hreader hreaders hdrain hmain
  have hidle : ∀ after : Reader, reader.stage.inHand = 0 → after.stage.inHand = 0 →
      (∀ other, next.reader? other =
        if other = source then some after else session.reader? other) →
      next.inHand = session.inHand := by
    intro after hbefore hafter hreaders
    simpa [hbefore, hafter] using hreplaced after hreaders
  cases hmove with
  | offers message framer buffer hstage =>
      refine .nothing ?_ (by simp) (hidle { reader with framer := framer, stage := .asking }
        (by rw [hstage]; rfl) rfl (fun other => ?_))
      · cases buffer.accepts message <;>
          simp [books]
      · simp [reader?_setReader]
        rfl
  | hands message framer hstage =>
      refine .hands message ?_ (by simp) ?_
      · simp [books]
      · have hafter := hreplaced
          { reader with
            framer := framer
            stage := .sending ((session.note (.framed message)).hand plan message).2 }
          (fun other => by simp [reader?_setReader]; rfl)
        rw [hstage] at hafter
        simpa [ReaderStage.inHand, hand, call, Delivery.start] using hafter
  | finishes hstage | leaves asked hstage =>
      exact .nothing (by simp) (by simp) (hidle { reader with stage := .ended .finished }
        (by rw [hstage]; rfl) rfl (fun other => reader?_endReader _ _ _ _ _))
  | begins asked hstage =>
      refine .nothing ?_ (by simp) (hidle { reader with stage := .reading asked false }
        (by rw [hstage]; rfl) rfl (fun other => ?_))
      · simp [books]
      · simp [reader?_setReader]
  | reads asked looking next hstage hgoes hread =>
      exact hread.enters hreader hstage (hawaits asked looking hstage)
  | sendGoesOn sending later sent hstage hdue hsend =>
      obtain ⟨hbooks, hcounters, hmessage⟩ := hsend.books_of_goesOn
      refine .nothing ((books_setReader _ _ _).trans hbooks) (by simpa using hcounters) ?_
      have hafter := hreplaced { reader with stage := .sending later }
        (fun other => by rw [reader?_setReader, hsend.reader?_eq])
      rw [hstage, ReaderStage.inHand, ReaderStage.inHand, hmessage] at hafter
      exact add_right_cancel hafter
  | sendOver sending sent hstage hdue hsend =>
      have hafter := hreplaced { reader with stage := .asking }
        (fun other => by rw [reader?_setReader, hsend.reader?_eq])
      simp only [hstage, ReaderStage.inHand, add_zero] at hafter
      rcases hsend.books_of_done with ⟨hbooks, hcounters⟩ | ⟨hbooks, hcounters⟩
      · exact .delivers _ ((books_setReader _ _ _).trans hbooks) (by simpa using hcounters) hafter
      · exact .abandons _ ((books_setReader _ _ _).trans hbooks) (by simpa using hcounters) hafter
  | sendCrashes sending sent hstage hdue hsend =>
      obtain ⟨hbooks, hcounters⟩ := hsend.books_of_crashed
      exact .crashes ((books_endReader _ _ _ _).trans hbooks) (by simpa using hcounters)
        (not_calm_of_reader ((reader?_endReader _ _ _ _ _).trans (if_pos rfl)) rfl)

theorem DrainMove.enters {buffer : Buffer} {stage : DrainStage}
    (hdrain : session.drain = some stage) (hmove : session.DrainMove plan buffer stage next) :
    session.Enters next := by
  have hkept := inHand_of_same_readers hmove.reader?_eq
  rw [hmove.counts.2.2.1, hdrain, ← add_assoc, ← add_assoc] at hkept
  have hreplaced := add_right_cancel hkept
  clear hkept
  rw [Option.map_some, Option.getD_some] at hreplaced
  cases hmove with
  | takes message rest =>
      refine .hands message ?_ (by simp [setDrain]) ?_
      · exact books_hand plan { session with buffer := some rest } message
      · simpa [setDrain, DrainStage.inHand, hand, call, Delivery.start] using hreplaced
  | finishes => exact .nothing (by simp) (by simp) (by simpa [DrainStage.inHand] using hreplaced)
  | sendGoesOn sending later sent hdue hsend =>
      obtain ⟨hbooks, hcounters, hmessage⟩ := hsend.books_of_goesOn
      refine .nothing hbooks hcounters ?_
      simpa [setDrain, DrainStage.inHand, hmessage] using hreplaced
  | sendOver sending sent hdue hsend =>
      have hinHand : (sent.setDrain .waiting).inHand + {sending.delivery.message} =
          session.inHand := by
        simpa [setDrain, DrainStage.inHand] using hreplaced
      rcases hsend.books_of_done with ⟨hbooks, hcounters⟩ | ⟨hbooks, hcounters⟩
      · exact .delivers _ hbooks hcounters hinHand
      · exact .abandons _ hbooks hcounters hinHand
  | sendCrashes sending sent hdue hsend =>
      obtain ⟨hbooks, hcounters⟩ := hsend.books_of_crashed
      refine .crashes ((books_endDrain _ _).trans hbooks) (by simpa using hcounters) fun hcalm => ?_
      exact hcalm.tasks .drain (by simp [taskResult?])

theorem books_ready (hready : plan.readyError = none) (session : Session) :
    (session.ready plan).books = session.books := by
  simp [ready, hready, books]

theorem books_finishFlush (plan : Plan) (session : Session) :
    (session.finishFlush plan).books = session.books := by
  unfold finishFlush
  dsimp only
  split <;> simp [clean, books]

theorem MainMove.enters (hready : plan.readyError = none)
    (hmove : session.MainMove plan session.main next) : session.Enters next := by
  have hkept := inHand_of_same_readers (hmove.reader?_eq hready)
  rw [(hmove.counts hready).2.1, ← add_assoc, ← add_assoc,
    add_right_comm, add_right_comm session.inHand] at hkept
  have hreplaced := add_right_cancel hkept
  clear hkept
  generalize session.main = stage at hmove hreplaced
  have hidle : stage.inHand = 0 → next.main.inHand = 0 → next.inHand = session.inHand := by
    intro hbefore hafter
    simpa [hbefore, hafter] using hreplaced
  cases hmove with
  | refuses | launches | skipsFlush | stops | finishes => exact .nothing rfl rfl (hidle rfl rfl)
  | ready =>
      refine .nothing (books_ready hready session) (by simp [Session.ready, hready]) (hidle rfl ?_)
      simp [Session.ready, hready, MainStage.inHand]
  | flushes buffer =>
      refine .nothing ?_ rfl (hidle rfl rfl)
      simp [books]
  | endsFlush =>
      exact .nothing (books_finishFlush plan session) (by simp [finishFlush_leaves_others])
        (hidle rfl rfl)
  | hands message remaining =>
      refine .hands message (books_hand plan session message) (by simp) ?_
      simpa [MainStage.inHand, hand, call, Delivery.start] using hreplaced
  | sendGoesOn sending later remaining sent hdue hsend =>
      obtain ⟨hbooks, hcounters, hmessage⟩ := hsend.books_of_goesOn
      refine .nothing hbooks hcounters ?_
      simpa [MainStage.inHand, hmessage] using hreplaced
  | sendOver sending remaining sent hdue hsend =>
      have hinHand : ({ sent with main := .flushing remaining } : Session).inHand +
          {sending.delivery.message} = session.inHand := by
        simpa [MainStage.inHand] using hreplaced
      rcases hsend.books_of_done with ⟨hbooks, hcounters⟩ | ⟨hbooks, hcounters⟩
      · exact .delivers _ hbooks hcounters hinHand
      · exact .abandons _ hbooks hcounters hinHand
  | sendCrashes sending remaining sent hdue hsend =>
      obtain ⟨hbooks, hcounters⟩ := hsend.books_of_crashed
      exact .crashes hbooks hcounters fun hcalm => hcalm.stands rfl

theorem JoinMove.enters {task : Task} {result : TaskResult}
    (hmove : session.JoinMove task result next) : session.Enters next := by
  have hkept := inHand_of_same_readers hmove.reader?_eq
  rw [hmove.keeps.1, hmove.keeps.2.1] at hkept
  refine .nothing ?_ (by rw [hmove.leaves_others.2.2.2]) (add_right_cancel hkept)
  cases hmove <;> simp [books]

end Session

end LogRelay
