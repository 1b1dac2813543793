import LogRelay.Proofs.Session.Kept
import LogRelay.Proofs.Session.LoneReaders
import LogRelay.Proofs.Session.Reading
import LogRelay.Proofs.Session.Results

/-!
# What is noted of a reader

The log of a reader holds its reads with what they bring, its messages and its end,
each with its time.  A step of the session adds to it what the reader on its own would
add, if it is a step of that reader, and else nothing.
-/

namespace LogRelay

/-- What the entry says of the reader of the source, but for identifiers and times. -/
def Entry.ofReader? (source : Source) : Entry → Option Entry
  | .readBegun origin asked => if origin = source then some (.readBegun origin asked) else none
  | .readDone origin asked result =>
    if origin = source then some (.readDone origin asked result) else none
  | .framed message => if message.source = source then some (.framed message.bare) else none
  | .ended (.reader origin) result =>
    if origin = source then some (.ended (.reader origin) result) else none
  | _ => none

/-- Neither a delivery nor a cancellation by the pipe is under way. -/
def ReaderStage.isFree : ReaderStage → Bool
  | .sending _ | .reading _ true => false
  | _ => true

namespace Session

variable {plan : Plan} {session next : Session} {source : Source} {reader : Reader}

/-- What is noted of the reader of the source, the earliest first. -/
def readerLog (source : Source) (journal : List (Nat × Entry)) : List (Nat × Entry) :=
  journal.reverse.filterMap fun noted => (noted.2.ofReader? source).map (noted.1, ·)

theorem readerLog_cons (source : Source) (time : Nat) (entry : Entry)
    (journal : List (Nat × Entry)) : readerLog source ((time, entry) :: journal) =
      readerLog source journal ++ ((entry.ofReader? source).map (time, ·)).toList := by
  rw [readerLog, List.reverse_cons, List.filterMap_append]
  cases hentry : entry.ofReader? source <;> simp [readerLog, hentry]

/-- What is noted besides leaves the log as it is. -/
theorem readerLog_cons_of_none {entry : Entry} (hentry : entry.ofReader? source = none)
    (time : Nat) (journal : List (Nat × Entry)) :
    readerLog source ((time, entry) :: journal) = readerLog source journal := by
  rw [readerLog_cons, hentry]
  exact List.append_nil _

theorem ofReader?_of_offer (buffer : Buffer) (message : Message) :
    (if buffer.accepts message then Entry.stored message else .refused message).ofReader? source =
      none := by
  split <;> rfl

theorem readerLog_cancel (session : Session) (source : Source) :
    readerLog source session.cancel.journal = readerLog source session.journal := by
  rw [cancel]
  split
  · rfl
  · exact readerLog_cons_of_none rfl _ _

theorem readerLog_endReader (session : Session) (source other : Source) (reader : Reader)
    (result : TaskResult) :
    readerLog other (session.endReader source reader result).journal =
      readerLog other session.journal ++
        if source = other then [(session.clock, .ended (.reader source) result)] else [] := by
  have hended : ((Entry.ended (.reader source) result).ofReader? other).map (session.clock, ·) =
      if source = other then some (session.clock, .ended (.reader source) result) else none := by
    rw [Entry.ofReader?]
    split <;> rfl
  have hclosed (journal : List (Nat × Entry)) : readerLog other
      ((session.clock, .producerClosed source) :: journal) = readerLog other journal :=
    readerLog_cons_of_none rfl _ _
  cases hbuffer : session.buffer <;>
    simp [endReader, hbuffer, readerLog_cons, hclosed, hended] <;> split <;> rfl

/-! ## Steps of the other tasks -/

theorem SendMove.readerLog_eq {sending : Sending} {progress : SendProgress}
    (hsend : session.SendMove plan sending next progress) (source : Source) :
    readerLog source next.journal = readerLog source session.journal := by
  cases hsend <;> simp [readerLog_cons, Entry.ofReader?]

theorem DrainMove.readerLog_eq {buffer : Buffer} {stage : DrainStage}
    (hmove : session.DrainMove plan buffer stage next) (source : Source) :
    readerLog source next.journal = readerLog source session.journal := by
  cases hmove with
  | takes | finishes => simp [setDrain, readerLog_cons, Entry.ofReader?]
  | sendGoesOn sending later sent hdue hsend | sendOver sending sent hdue hsend =>
      exact hsend.readerLog_eq source
  | sendCrashes sending sent hdue hsend =>
      rw [← hsend.readerLog_eq source]
      simp [readerLog_cons, Entry.ofReader?]

theorem JoinMove.readerLog_eq {task : Task} {result : TaskResult}
    (hmove : session.JoinMove task result next) (source : Source) :
    readerLog source next.journal = readerLog source session.journal := by
  cases hmove with
  | ends => exact readerLog_cons_of_none rfl _ _
  | fails error =>
      exact (readerLog_cancel _ source).trans (readerLog_cons_of_none rfl _ _)

theorem MainMove.readerLog_eq {stage : MainStage} (hready : plan.readyError = none)
    (hmove : session.MainMove plan stage next) (source : Source) :
    readerLog source next.journal = readerLog source session.journal := by
  cases hmove with
  | refuses | launches | skipsFlush | stops | finishes => rfl
  | ready =>
      rw [Session.ready, hready]
      exact readerLog_cons_of_none rfl _ _
  | flushes => exact readerLog_cons_of_none rfl _ _
  | endsFlush =>
      unfold finishFlush
      dsimp only
      split
      · exact readerLog_cons_of_none rfl _ _
      · rfl
  | hands => simp [readerLog_cons, Entry.ofReader?]
  | sendGoesOn sending later remaining sent hdue hsend
  | sendOver sending remaining sent hdue hsend | sendCrashes sending remaining sent hdue hsend =>
      exact hsend.readerLog_eq source

/-- The reader of the other source. -/
theorem ReaderMove.readerLog_eq {other : Source} (hother : other ≠ source)
    (hsource : ∀ message framer, reader.framer.demand session.cancelled = .message message framer →
      message.source = other)
    (hmove : session.ReaderMove plan other reader next) :
    readerLog source next.journal = readerLog source session.journal := by
  cases hmove with
  | offers message framer buffer hstage hdemand hbuffer =>
      have hframed : (Entry.framed message).ofReader? source = none := by
        rw [Entry.ofReader?, hsource message framer hdemand, if_neg hother]
      simp [readerLog_cons_of_none, ofReader?_of_offer, hframed]
  | hands message framer hstage hdemand hbuffer =>
      simp [readerLog_cons, Entry.ofReader?, hsource message framer hdemand, hother]
  | finishes | leaves => simp [readerLog_endReader, hother]
  | begins => simp [readerLog_cons, Entry.ofReader?, hother]
  | reads asked looking next hstage hgoes hread =>
      cases hread with
      | brings | startsAgain => simp [readerLog_cons, Entry.ofReader?, hother]
      | fails => simp [readerLog_endReader, readerLog_cons, Entry.ofReader?, hother]
      | crashes => simp [readerLog_endReader, hother]
      | cancels => simp [readerLog_cancel]
      | waits => simp
  | sendGoesOn sending later sent hstage hdue hsend | sendOver sending sent hstage hdue hsend =>
      simp [hsend.readerLog_eq]
  | sendCrashes sending sent hstage hdue hsend =>
      simp [readerLog_endReader, hother, hsend.readerLog_eq]

/-- Every step is one of time or of the reader, or it leaves the reader, its log and the
time as they are. -/
theorem Move.reader_cases {event : SessionEvent} (hready : plan.readyError = none)
    (hfollow : session.ReadersFollow plan) (hmove : session.Move plan event next)
    (source : Source) :
    (∃ time, event = .pass time ∧ session.clock < time ∧ next = { session with clock := time }) ∨
      (event = .reader source ∧ ∃ reader, session.reader? source = some reader ∧
        session.ReaderMove plan source reader next) ∨
      (next.clock = session.clock ∧ next.reader? source = session.reader? source ∧
        readerLog source next.journal = readerLog source session.journal) := by
  cases hmove with
  | pass time htime => exact Or.inl ⟨time, rfl, htime, rfl⟩
  | cancel =>
      exact Or.inr (Or.inr ⟨by simp, reader?_cancel session source,
        readerLog_cancel session source⟩)
  | reader other reader next hlaunched hreader hmove =>
      right
      by_cases hother : other = source
      · subst hother
        exact Or.inl ⟨rfl, reader, hreader, hmove⟩
      · obtain ⟨after, -, hreaders⟩ := hmove.reader_step
        refine Or.inr ⟨hmove.leaves_others.1, ?_, hmove.readerLog_eq hother ?_⟩
        · rw [hreaders, if_neg (Ne.symm hother)]
        · intro message framer hdemand
          obtain ⟨rest, hpending, -⟩ := Framer.pending_of_demand hdemand
          exact (hfollow other reader hreader).framer_follows.source_eq_of_pending hpending
  | drain stage buffer next hlaunched hdrain hbuffer hmove =>
      exact Or.inr (Or.inr ⟨hmove.leaves_others.1, congrFun hmove.reader?_eq source,
        hmove.readerLog_eq source⟩)
  | join task result next hmain hresult hmem hmove =>
      exact Or.inr (Or.inr ⟨hmove.leaves_others.1, congrFun hmove.reader?_eq source,
        hmove.readerLog_eq source⟩)
  | main next hmove =>
      exact Or.inr (Or.inr ⟨hmove.leaves_others.1, congrFun (hmove.reader?_eq hready) source,
        hmove.readerLog_eq hready source⟩)
  | tracer action tracer sample? =>
      right
      right
      cases sample? with
      | none => exact ⟨rfl, congrFun (reader?_of_same rfl rfl) source, rfl⟩
      | some sample =>
          exact ⟨rfl, congrFun (reader?_of_same rfl rfl) source, readerLog_cons_of_none rfl _ _⟩

/-! ## Steps of the reader -/

/-- The session does with the reader what the reader does next on its own. -/
def Goes (source : Source) (reader : Reader) (session next : Session) : Prop :=
  ∃ after entries, next.reader? source = some after ∧
    reader.bare.go? source session.clock = some (after.bare, entries) ∧
    readerLog source next.journal =
      readerLog source session.journal ++ entries.map (session.clock, ·)

theorem go?_bare_of_asking {clock : Nat} {demand : Framer.Demand} (hstage : reader.stage = .asking)
    (hdemand : reader.framer.demand false = demand) :
    reader.bare.go? source clock = some (reader.bare.obey source demand.bare) := by
  subst hdemand
  rw [← Framer.demand_bare]
  simp only [Reader.go?, Reader.bare, hstage]

theorem go?_bare_of_look {asked clock : Nat} {looking : Bool} {answer : PipeAnswer}
    {pipe : PipeScript} (hstage : reader.stage = .reading asked looking)
    (hgoes : reader.pipe.isWaiting clock = false)
    (hlook : reader.pipe.look clock asked = (answer, pipe)) :
    reader.bare.go? source clock =
      some (({ reader with pipe := pipe } : Reader).bare.meet source asked answer) := by
  have hgo : reader.bare.go? source clock =
      if reader.pipe.isWaiting clock then none
      else some (({ reader with pipe := (reader.pipe.look clock asked).2 } : Reader).bare.meet
        source asked (reader.pipe.look clock asked).1) := by
    rw [Reader.go?, Reader.bare, hstage]
    rfl
  rw [hgo, hgoes, hlook]
  rfl

theorem ReadMove.goes {asked : Nat} (hstage : reader.stage = .reading asked false)
    (hpipe : .cancel ∉ reader.pipe)
    (hread : session.ReadMove plan source reader asked false next) :
    session.Goes source reader next := by
  have hlooked : ∀ answer pipe, reader.pipe.look session.clock asked = (answer, pipe) →
      (∀ until?, answer ≠ .pending until?) → reader.bare.go? source session.clock =
        some (({ reader with pipe := pipe } : Reader).bare.meet source asked answer) := by
    intro answer pipe hlook hanswer
    apply go?_bare_of_look hstage _ hlook
    apply Bool.eq_false_iff.mpr
    intro hwaiting
    obtain ⟨until?, hwaits⟩ := PipeScript.look_of_isWaiting asked hwaiting
    exact hanswer until? (Prod.mk.inj (hlook.symm.trans hwaits)).1
  cases hread with
  | brings bytes pipe hlook =>
      have hgo := hlooked _ pipe hlook fun _ => PipeAnswer.noConfusion
      have hreceive := Framer.receive_bare reader.framer (plan.runIds source)
        (plan.timeOfDay session.clock) bytes
      refine ⟨{ framer := (reader.framer.receive (plan.runIds source)
                  (plan.timeOfDay session.clock) bytes).1
                pipe := pipe
                stage := .asking }, [.readDone source asked (.data bytes)], ?_, ?_, ?_⟩
      · simp [reader?_setReader]
      · rw [hgo, Reader.meet, Reader.bare, Reader.bare, hreceive]
      · simp [readerLog_cons, Entry.ofReader?]
  | startsAgain failure pipe hlook hfailure =>
      have hgo := hlooked _ pipe hlook fun _ => PipeAnswer.noConfusion
      refine ⟨{ reader with pipe := pipe, stage := .asking },
        [.readDone source asked (.failed failure)], ?_, ?_, ?_⟩
      · simp [reader?_setReader]
      · rw [hgo, Reader.meet, if_pos hfailure]
        rfl
      · simp [readerLog_cons, Entry.ofReader?]
  | fails failure pipe hlook hfailure =>
      have hgo := hlooked _ pipe hlook fun _ => PipeAnswer.noConfusion
      refine ⟨{ reader with pipe := pipe, stage := .ended (.failed (.read source failure)) },
        [.readDone source asked (.failed failure),
          .ended (.reader source) (.failed (.read source failure))], ?_, ?_, ?_⟩
      · simp [reader?_endReader]
      · rw [hgo, Reader.meet, hfailure]
        rfl
      · simp [readerLog_endReader, readerLog_cons, Entry.ofReader?]
  | crashes pipe hlook =>
      have hgo := hlooked _ pipe hlook fun _ => PipeAnswer.noConfusion
      refine ⟨{ reader with pipe := pipe, stage := .ended .crashed },
        [.ended (.reader source) .crashed], ?_, hgo, ?_⟩
      · simp [reader?_endReader]
      · simp [readerLog_endReader]
  | cancels pipe hlook =>
      cases PipeScript.reports_of_look hlook with
      | cancels hmem => exact absurd hmem hpipe
  | waits until? pipe hlook hwaits =>
      rw [Bool.not_false, Bool.and_true] at hwaits
      refine ⟨{ reader with pipe := pipe, stage := .reading asked false }, [], ?_, ?_, ?_⟩
      · simp [reader?_setReader]
      · rw [go?_bare_of_look hstage hwaits hlook, Reader.meet, hstage]
      · simp

/-- A reader that is free and not cancelled does what it does on its own. -/
theorem ReaderMove.goes (hbuffer : session.buffer.isSome = true)
    (hcancelled : session.cancelled = false) (hfree : reader.stage.isFree = true)
    (hpipe : .cancel ∉ reader.pipe)
    (hsource : ∀ message framer, reader.framer.demand session.cancelled = .message message framer →
      message.source = source)
    (hmove : session.ReaderMove plan source reader next) : session.Goes source reader next := by
  have hasks : ∀ demand, reader.stage = .asking →
      reader.framer.demand session.cancelled = demand → reader.bare.go? source session.clock =
        some (reader.bare.obey source demand.bare) := by
    intro demand hstage hdemand
    rw [hcancelled] at hdemand
    exact go?_bare_of_asking hstage hdemand
  cases hmove with
  | offers message framer buffer hstage hdemand hsome =>
      refine ⟨{ reader with framer := framer, stage := .asking }, [.framed message.bare], ?_, ?_, ?_⟩
      · simp [reader?_setReader]
      · rw [hasks _ hstage hdemand, ← hstage]
        rfl
      · have hframed : (Entry.framed message).ofReader? source = some (.framed message.bare) :=
          if_pos (hsource message framer hdemand)
        simp [readerLog_cons, ofReader?_of_offer, hframed]
  | hands message framer hstage hdemand hnone => simp [hnone] at hbuffer
  | finishes hstage hdemand =>
      refine ⟨{ reader with stage := .ended .finished }, [.ended (.reader source) .finished], ?_,
        hasks _ hstage hdemand, ?_⟩
      · simp [reader?_endReader]
      · simp [readerLog_endReader]
  | begins asked hstage hdemand =>
      refine ⟨{ reader with stage := .reading asked false }, [.readBegun source asked], ?_,
        hasks _ hstage hdemand, ?_⟩
      · simp [reader?_setReader]
      · simp [readerLog_cons, Entry.ofReader?]
  | leaves asked hstage htrue => exact absurd (hcancelled.symm.trans htrue) Bool.false_ne_true
  | reads asked looking next hstage _ hread =>
      cases looking with
      | true => simp [hstage, ReaderStage.isFree] at hfree
      | false => exact hread.goes hstage hpipe
  | sendGoesOn sending later sent hstage | sendOver sending sent hstage
  | sendCrashes sending sent hstage => simp [hstage, ReaderStage.isFree] at hfree

end Session

end LogRelay
