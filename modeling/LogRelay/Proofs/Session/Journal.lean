import LogRelay.Proofs.Session.Kept

/-!
# What a step adds to the journal

The journal only grows.  Each task adds entries of its own kinds: the beginning
of a read is noted by the reader alone, a join by the main task alone.
-/

namespace LogRelay

namespace Entry

/-- What is noted when a task ends or cancels the session. -/
def isOfEnd : Entry → Bool
  | .cancelled | .producerClosed _ | .ended _ _ => true
  | _ => false

/-- What is noted while a read is under way. -/
def isOfRead : Entry → Bool
  | .readDone _ _ _ => true
  | entry => entry.isOfEnd

/-- What the drain notes, or a reader while it reads nothing. -/
def isOfTask : Entry → Bool
  | .framed _ | .stored _ | .refused _ | .handed _ | .called _ _ | .answered _ _ | .delivered _
  | .abandoned _ _ => true
  | entry => entry.isOfEnd

/-- What a reader notes but for the beginnings of reads. -/
def isOfReader : Entry → Bool
  | .readDone _ _ _ => true
  | entry => entry.isOfTask

/-- What the main task notes besides joins. -/
def isOfMain : Entry → Bool
  | .readyCalled | .flushed _ | .overflowed _ => true
  | entry => entry.isOfTask

/-- What a join notes. -/
def isOfJoin : Entry → Bool
  | .joined _ _ | .cancelled => true
  | _ => false

def isBeginning : Entry → Bool
  | .readBegun _ _ => true
  | _ => false

end Entry

namespace Session

variable {plan : Plan} {session next later : Session} {allowed : Entry → Bool}

/-- The journal grows by entries of that kind. -/
def Adds (allowed : Entry → Bool) (session next : Session) : Prop :=
  ∃ added, next.journal = added ++ session.journal ∧
    ∀ noted ∈ added, allowed noted.2 = true

theorem Adds.of_same (hjournal : next.journal = session.journal) : session.Adds allowed next :=
  ⟨[], hjournal, fun _ hmem => absurd hmem List.not_mem_nil⟩

theorem Adds.cons {time : Nat} {entry : Entry} (hentry : allowed entry = true)
    (hadds : session.Adds allowed next) (hjournal : later.journal = (time, entry) :: next.journal) :
    session.Adds allowed later := by
  obtain ⟨added, hadded, hall⟩ := hadds
  refine ⟨(time, entry) :: added, by rw [hjournal, hadded]; rfl, fun noted hmem => ?_⟩
  rcases List.mem_cons.mp hmem with rfl | hrest
  · exact hentry
  · exact hall noted hrest

theorem Adds.trans (hfirst : session.Adds allowed next) (hsecond : next.Adds allowed later) :
    session.Adds allowed later := by
  obtain ⟨added, hadded, hall⟩ := hfirst
  obtain ⟨more, hmore, hothers⟩ := hsecond
  refine ⟨more ++ added, by rw [hmore, hadded, List.append_assoc], fun noted hmem => ?_⟩
  rcases List.mem_append.mp hmem with hnew | hold
  · exact hothers noted hnew
  · exact hall noted hold

theorem Adds.mono {wider : Entry → Bool} (hadds : session.Adds allowed next)
    (hwider : ∀ entry, allowed entry = true → wider entry = true) : session.Adds wider next := by
  obtain ⟨added, hadded, hall⟩ := hadds
  exact ⟨added, hadded, fun noted hmem => hwider _ (hall noted hmem)⟩

/-- What is not selected of the added entries is not selected of the journal. -/
theorem Adds.selected_eq {α : Type} {select : Entry → Option α} (hadds : session.Adds allowed next)
    (hselect : ∀ entry, allowed entry = true → select entry = none) :
    selected select next.journal = selected select session.journal := by
  obtain ⟨added, hadded, hall⟩ := hadds
  rw [hadded]
  clear hadded
  induction added with
  | nil => rfl
  | cons noted added ih =>
      obtain ⟨time, entry⟩ := noted
      have hnone : select entry = none := hselect entry (hall _ List.mem_cons_self)
      rw [List.cons_append, selected_cons, hnone,
        ih fun noted hmem => hall noted (List.mem_cons_of_mem _ hmem)]
      exact List.append_nil _

/-! ## Operations -/

theorem adds_note (session : Session) (entry : Entry) (hentry : allowed entry = true) :
    session.Adds allowed (session.note entry) :=
  (Adds.of_same rfl).cons hentry rfl

theorem adds_cancel (session : Session) (hentry : allowed .cancelled = true) :
    session.Adds allowed session.cancel := by
  rw [cancel]
  split
  · exact Adds.of_same rfl
  · exact (Adds.of_same rfl).cons hentry rfl

theorem adds_call (session : Session) (delivery : Delivery) :
    session.Adds Entry.isOfTask (session.call delivery).1 :=
  (Adds.of_same rfl).cons rfl (call_keeps session delivery).2.2.2.2.2.2.2.2.2.2.2.2

theorem adds_hand (plan : Plan) (session : Session) (message : Message) :
    session.Adds Entry.isOfTask (session.hand plan message).1 :=
  (adds_note session _ rfl).trans (adds_call _ _)

theorem adds_endReader (session : Session) (source : Source) (reader : Reader)
    (result : TaskResult) :
    session.Adds Entry.isOfEnd (session.endReader source reader result) := by
  cases hbuffer : session.buffer with
  | none =>
      have hjournal : (session.endReader source reader result).journal =
          (session.clock, .ended (.reader source) result) :: session.journal := by
        simp [endReader, hbuffer]
      exact (Adds.of_same rfl).cons rfl hjournal
  | some buffer =>
      have hjournal : (session.endReader source reader result).journal =
          (session.clock, .ended (.reader source) result) ::
            (session.note (.producerClosed source)).journal := by
        simp [endReader, hbuffer]
      exact (adds_note session _ rfl).cons rfl hjournal

theorem adds_endDrain (session : Session) (result : TaskResult) :
    session.Adds Entry.isOfEnd (session.endDrain result) :=
  (Adds.of_same rfl).cons rfl (endDrain_keeps session result).2.2.2.2.2.2.2.2.2.2.2.2.2

theorem adds_abortReader (session : Session) (source : Source) :
    session.Adds Entry.isOfEnd (session.abortReader source) := by
  unfold abortReader
  split
  · split
    · exact Adds.of_same rfl
    · exact adds_endReader _ _ _ _
  · exact Adds.of_same rfl

theorem adds_abortDrain (session : Session) : session.Adds Entry.isOfEnd session.abortDrain := by
  unfold abortDrain
  split
  · exact Adds.of_same rfl
  · exact adds_endDrain _ _
  · exact Adds.of_same rfl

theorem isOfTask_of_isOfEnd (entry : Entry) (hentry : entry.isOfEnd = true) :
    entry.isOfTask = true := by
  cases entry <;> first | rfl | exact hentry

theorem isOfRead_of_isOfEnd (entry : Entry) (hentry : entry.isOfEnd = true) :
    entry.isOfRead = true := by
  cases entry <;> first | rfl | exact hentry

theorem isOfReader_of_isOfRead (entry : Entry) (hentry : entry.isOfRead = true) :
    entry.isOfReader = true := by
  cases entry <;> first | rfl | exact hentry

theorem isOfReader_of_isOfTask (entry : Entry) (hentry : entry.isOfTask = true) :
    entry.isOfReader = true := by
  cases entry <;> first | rfl | exact hentry

/-! ## Steps -/

theorem SendMove.adds {sending : Sending} {progress : SendProgress}
    (hsend : session.SendMove plan sending next progress) : session.Adds Entry.isOfTask next := by
  cases hsend with
  | recalls => exact adds_call session _
  | delivers => exact ((Adds.of_same rfl).cons rfl rfl).cons rfl rfl
  | abandons => exact ((Adds.of_same rfl).cons rfl rfl).cons rfl rfl
  | pauses => exact (Adds.of_same rfl).cons rfl rfl
  | crashes => exact (Adds.of_same rfl).cons rfl rfl

theorem ReadMove.adds {source : Source} {reader : Reader} {asked : Nat} {looking : Bool}
    (hread : session.ReadMove plan source reader asked looking next) :
    session.Adds Entry.isOfRead next := by
  cases hread with
  | brings bytes pipe =>
      exact (adds_note session (.readDone source asked (.data bytes)) rfl).trans
        (Adds.of_same (by simp))
  | startsAgain failure =>
      exact (adds_note session (.readDone source asked (.failed failure)) rfl).trans
        (Adds.of_same (by simp))
  | fails failure =>
      exact (adds_note session _ rfl).trans ((adds_endReader _ _ _ _).mono isOfRead_of_isOfEnd)
  | crashes => exact (adds_endReader _ _ _ _).mono isOfRead_of_isOfEnd
  | cancels => exact (adds_cancel session rfl).trans (Adds.of_same (by simp))
  | waits => exact Adds.of_same (by simp)

/-- A reader that begins a read has been asked for a message by a session that
is not cancelled; every other step of a reader begins none. -/
theorem ReaderMove.adds_cases {source : Source} {reader : Reader}
    (hmove : session.ReaderMove plan source reader next) :
    session.Adds Entry.isOfReader next ∨
      ∃ asked, reader.stage = .asking ∧
        reader.framer.demand session.cancelled = .read asked ∧
        next.journal = (session.clock, .readBegun source asked) :: session.journal := by
  have hended : ∀ entry : Entry, entry.isOfEnd = true → entry.isOfReader = true :=
    fun entry hentry => isOfReader_of_isOfRead entry (isOfRead_of_isOfEnd entry hentry)
  cases hmove with
  | begins asked hstage hdemand => exact Or.inr ⟨asked, hstage, hdemand, by simp⟩
  | offers message framer buffer =>
      have hyielded : session.Adds Entry.isOfReader (session.note (.framed message)) :=
        adds_note session _ rfl
      have hentry : Entry.isOfReader
          (if buffer.accepts message then .stored message else .refused message) = true := by
        split <;> rfl
      exact Or.inl ((hyielded.trans (Adds.of_same (by simp))).trans (adds_note _ _ hentry))
  | hands message framer =>
      have hyielded : session.Adds Entry.isOfReader (session.note (.framed message)) :=
        adds_note session _ rfl
      exact Or.inl ((hyielded.trans
        ((adds_hand plan _ message).mono isOfReader_of_isOfTask)).trans (Adds.of_same (by simp)))
  | finishes | leaves => exact Or.inl ((adds_endReader _ _ _ _).mono hended)
  | reads asked looking next hstage hgoes hread =>
      exact Or.inl (hread.adds.mono isOfReader_of_isOfRead)
  | sendGoesOn sending later sent hstage hdue hsend =>
      exact Or.inl ((hsend.adds.mono isOfReader_of_isOfTask).trans (Adds.of_same (by simp)))
  | sendOver sending sent hstage hdue hsend =>
      exact Or.inl ((hsend.adds.mono isOfReader_of_isOfTask).trans (Adds.of_same (by simp)))
  | sendCrashes sending sent hstage hdue hsend =>
      exact Or.inl ((hsend.adds.mono isOfReader_of_isOfTask).trans
        ((adds_endReader _ _ _ _).mono hended))

theorem DrainMove.adds {buffer : Buffer} {stage : DrainStage}
    (hmove : session.DrainMove plan buffer stage next) : session.Adds Entry.isOfTask next := by
  cases hmove with
  | takes message rest => exact adds_hand plan { session with buffer := some rest } message
  | finishes => exact (adds_endDrain _ _).mono isOfTask_of_isOfEnd
  | sendGoesOn sending later sent hdue hsend => exact hsend.adds
  | sendOver sending sent hdue hsend => exact hsend.adds
  | sendCrashes sending sent hdue hsend =>
      exact hsend.adds.trans ((adds_endDrain _ _).mono isOfTask_of_isOfEnd)

theorem isOfMain_of_isOfTask (entry : Entry) (hentry : entry.isOfTask = true) :
    entry.isOfMain = true := by
  cases entry <;> first | rfl | exact hentry

theorem adds_ready (plan : Plan) (session : Session) :
    session.Adds Entry.isOfMain (session.ready plan) := by
  have hcalled : session.Adds Entry.isOfMain (session.note .readyCalled) := adds_note session _ rfl
  cases hready : plan.readyError with
  | none =>
      rw [ready, hready]
      exact hcalled.trans (Adds.of_same rfl)
  | some error =>
      rw [ready, hready]
      have hended := (((adds_cancel (session.note .readyCalled) rfl).trans
        (adds_abortReader _ .stdout)).trans (adds_abortReader _ .stderr)).trans (adds_abortDrain _)
      have hmain := hended.mono fun entry hentry =>
        isOfMain_of_isOfTask entry (isOfTask_of_isOfEnd entry hentry)
      exact (hcalled.trans hmain).trans (Adds.of_same rfl)

theorem adds_finishFlush (plan : Plan) (session : Session)
    (hentry : ∀ dropped, allowed (.overflowed dropped) = true) :
    session.Adds allowed (session.finishFlush plan) := by
  unfold finishFlush
  dsimp only
  split
  · exact (adds_note session _ (hentry _)).trans (Adds.of_same rfl)
  · exact Adds.of_same rfl

theorem MainMove.adds {stage : MainStage} (hmove : session.MainMove plan stage next) :
    session.Adds Entry.isOfMain next := by
  cases hmove with
  | refuses | launches | skipsFlush | stops | finishes => exact Adds.of_same rfl
  | ready => exact adds_ready plan session
  | flushes buffer => exact (Adds.of_same rfl).cons rfl rfl
  | endsFlush => exact adds_finishFlush plan session fun _ => rfl
  | hands message => exact (adds_hand plan session message).mono isOfMain_of_isOfTask
  | sendGoesOn sending later remaining sent hdue hsend =>
      exact (hsend.adds.mono isOfMain_of_isOfTask)
  | sendOver sending remaining sent hdue hsend => exact hsend.adds.mono isOfMain_of_isOfTask
  | sendCrashes sending remaining sent hdue hsend => exact hsend.adds.mono isOfMain_of_isOfTask

theorem JoinMove.adds {task : Task} {result : TaskResult}
    (hmove : session.JoinMove task result next) : session.Adds Entry.isOfJoin next := by
  cases hmove with
  | ends => exact (Adds.of_same rfl).cons rfl rfl
  | fails error =>
      have hjoined : session.Adds Entry.isOfJoin
          (({ session with
              toJoin := session.toJoin.erase task
              unjoined := session.unjoined - 1 } : Session).note (.joined task result)) :=
        (Adds.of_same rfl).cons rfl rfl
      exact (hjoined.trans (adds_cancel _ rfl)).trans (Adds.of_same rfl)

theorem not_isBeginning_of_isOfMain (entry : Entry) (hentry : entry.isOfMain = true) :
    (!entry.isBeginning) = true := by
  cases entry <;> first | rfl | exact hentry

theorem not_isBeginning_of_isOfJoin (entry : Entry) (hentry : entry.isOfJoin = true) :
    (!entry.isBeginning) = true := by
  cases entry <;> first | rfl | exact hentry

theorem not_isBeginning_of_isOfReader (entry : Entry) (hentry : entry.isOfReader = true) :
    (!entry.isBeginning) = true := by
  cases entry <;> first | rfl | exact hentry

theorem Move.adds_cases {event : SessionEvent} (hmove : session.Move plan event next) :
    session.Adds (fun entry => !entry.isBeginning) next ∨
      ∃ source reader asked, session.reader? source = some reader ∧ reader.stage = .asking ∧
        reader.framer.demand session.cancelled = .read asked ∧
        next.journal = (session.clock, .readBegun source asked) :: session.journal := by
  have htask : ∀ entry : Entry, entry.isOfTask = true → (!entry.isBeginning) = true :=
    fun entry hentry => not_isBeginning_of_isOfMain entry (isOfMain_of_isOfTask entry hentry)
  cases hmove with
  | pass => exact Or.inl (Adds.of_same rfl)
  | cancel => exact Or.inl (adds_cancel session rfl)
  | reader source reader next hlaunched hreader hmove =>
      rcases hmove.adds_cases with hadds | ⟨asked, hstage, hdemand, hjournal⟩
      · exact Or.inl (hadds.mono not_isBeginning_of_isOfReader)
      · exact Or.inr ⟨source, reader, asked, hreader, hstage, hdemand, hjournal⟩
  | drain stage buffer next hlaunched hdrain hbuffer hmove => exact Or.inl (hmove.adds.mono htask)
  | join task result next hmain hresult hmem hmove =>
      exact Or.inl (hmove.adds.mono not_isBeginning_of_isOfJoin)
  | main next hmove => exact Or.inl (hmove.adds.mono not_isBeginning_of_isOfMain)
  | tracer action tracer sample? =>
      cases sample? with
      | none => exact Or.inl (Adds.of_same rfl)
      | some sample => exact Or.inl ((Adds.of_same rfl).cons rfl rfl)

/-! ## What holds when a read begins -/

/-- Whenever a read of a source has begun, the journal before it has satisfied this. -/
def AtBeginnings (holds : Source → List (Nat × Entry) → Prop) (journal : List (Nat × Entry)) :
    Prop :=
  ∀ time source asked before,
    (time, Entry.readBegun source asked) :: before <:+ journal → holds source before

theorem atBeginnings_nil (holds : Source → List (Nat × Entry) → Prop) : AtBeginnings holds [] :=
  fun _ _ _ _ hsuffix => absurd (List.suffix_nil.mp hsuffix) (List.cons_ne_nil _ _)

theorem AtBeginnings.append {holds : Source → List (Nat × Entry) → Prop}
    {journal : List (Nat × Entry)} (hbefore : AtBeginnings holds journal)
    (added : List (Nat × Entry)) (hadded : ∀ noted ∈ added, (!noted.2.isBeginning) = true) :
    AtBeginnings holds (added ++ journal) := by
  induction added with
  | nil => exact hbefore
  | cons noted added ih =>
      intro time source asked before hsuffix
      rw [List.cons_append, List.suffix_cons_iff, List.cons.injEq] at hsuffix
      rcases hsuffix with ⟨rfl, -⟩ | hlater
      · exact absurd (hadded _ List.mem_cons_self) Bool.false_ne_true
      · exact ih (fun noted hmem => hadded noted (List.mem_cons_of_mem _ hmem))
          time source asked before hlater

/-- What holds when a reader asks its framer and is told to read holds at the
beginning of every read. -/
theorem AtBeginnings.move {holds : Source → List (Nat × Entry) → Prop} {event : SessionEvent}
    (hbefore : AtBeginnings holds session.journal) (hmove : session.Move plan event next)
    (hholds : ∀ source reader asked, session.reader? source = some reader →
      reader.stage = .asking → reader.framer.demand session.cancelled = .read asked →
      holds source session.journal) : AtBeginnings holds next.journal := by
  rcases hmove.adds_cases with ⟨added, hadded, hall⟩ |
    ⟨source, reader, asked, hreader, hstage, hdemand, hjournal⟩
  · rw [hadded]
    exact hbefore.append added hall
  · rw [hjournal]
    intro time origin amount before hsuffix
    rw [List.suffix_cons_iff, List.cons.injEq, Prod.mk.injEq] at hsuffix
    rcases hsuffix with ⟨⟨-, hentry⟩, rfl⟩ | hlater
    · obtain ⟨rfl, -⟩ := Entry.readBegun.inj hentry
      exact hholds origin reader asked hreader hstage hdemand
    · exact hbefore time origin amount before hlater

end Session

end LogRelay
