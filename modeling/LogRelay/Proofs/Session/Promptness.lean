import LogRelay.Proofs.Session.Timeline

/-!
# Runs that keep no reader waiting

A run is prompt for a reader if time passes only while that reader has nothing to do.
The timeline makes only such runs, for every reader: time passes when no task can go on,
and no further than to the next time that something waits for.
-/

namespace LogRelay

/-- The reader can do nothing at that time. -/
def Reader.waitsAt (clock : Nat) (cancelled : Bool) (reader : Reader) : Bool :=
  match reader.stage with
  | .asking => false
  | .reading _ looking => !cancelled && !looking && reader.pipe.isWaiting clock
  | .sending sending => clock < sending.dueAt
  | .ended _ => true

namespace Session

variable {plan : Plan} {session next : Session} {source : Source} {reader : Reader}

/-- The session can go on with a reader unless the reader waits. -/
theorem isSome_stepReader? : (session.stepReader? plan source reader).isSome =
    !reader.waitsAt session.clock session.cancelled := by
  cases hstage : reader.stage with
  | asking =>
      rw [isSome_stepReader?_of_asking hstage, Reader.waitsAt, hstage]
      rfl
  | reading asked looking =>
      have hwaits : reader.waitsAt session.clock session.cancelled =
          (!session.cancelled && !looking && reader.pipe.isWaiting session.clock) := by
        rw [Reader.waitsAt, hstage]
      rw [hwaits]
      cases hwaiting : reader.pipe.isWaiting session.clock with
      | false =>
          rw [isSome_stepReader?_of_reading hstage (Or.inl hwaiting), Bool.and_false]
          rfl
      | true =>
          obtain ⟨until?, hlook⟩ := PipeScript.look_of_isWaiting asked hwaiting
          simp only [stepReader?, hstage, hlook, hwaiting]
          cases session.cancelled <;> cases looking <;> rfl
  | sending sending =>
      have hwaits : reader.waitsAt session.clock session.cancelled =
          decide (session.clock < sending.dueAt) := by
        rw [Reader.waitsAt, hstage]
      rw [hwaits]
      by_cases hdue : sending.dueAt ≤ session.clock
      · rw [isSome_stepReader?_of_sending hstage hdue, decide_eq_false (Nat.not_lt.mpr hdue)]
        rfl
      · have hearly := Nat.lt_of_not_le hdue
        simp only [stepReader?, hstage, send?, if_pos hearly, decide_eq_true hearly]
        rfl
  | ended result =>
      rw [stepReader?, Reader.waitsAt, hstage]
      rfl

theorem isNone_step?_reader_iff (hlaunched : session.isLaunched = true) :
    (session.step? plan (.reader source)).isNone = true ↔
      ∀ reader, session.reader? source = some reader →
        reader.waitsAt session.clock session.cancelled = true := by
  cases hreader : session.reader? source with
  | none => simp [step?, hlaunched, hreader]
  | some reader =>
      have hstep : (session.stepReader? plan source reader).isSome =
          !reader.waitsAt session.clock session.cancelled := isSome_stepReader?
      rw [step?_reader hlaunched hreader, ← Option.not_isSome, hstep]
      simp

/-! ## Prompt runs -/

/-- If the step is one of time, the reader of the source has nothing to do until then. -/
def waitsFor (plan : Plan) (source : Source) (session : Session) : SessionEvent → Bool
  | .pass time =>
    session.isLaunched && (List.range time).all fun moment =>
      moment < session.clock ||
        (({ session with clock := moment } : Session).step? plan (.reader source)).isNone
  | _ => true

/-- Time passes only while the reader of the source waits. -/
def isPrompt (plan : Plan) (source : Source) : Session → List SessionEvent → Bool
  | _, [] => true
  | session, event :: rest =>
    session.waitsFor plan source event &&
      (session.step? plan event).all fun next => isPrompt plan source next rest

theorem isPrompt_cons {event : SessionEvent} {rest : List SessionEvent}
    (hprompt : isPrompt plan source session (event :: rest) = true) :
    session.waitsFor plan source event = true ∧
      ∀ next, session.step? plan event = some next → isPrompt plan source next rest = true := by
  rw [isPrompt, Bool.and_eq_true] at hprompt
  refine hprompt.imp_right fun hrest next hnext => ?_
  rw [hnext] at hrest
  exact hrest

theorem waitsFor_pass_iff {time : Nat} : session.waitsFor plan source (.pass time) = true ↔
    session.isLaunched = true ∧ ∀ reader, session.reader? source = some reader →
      ∀ moment, session.clock ≤ moment → moment < time →
        reader.waitsAt moment session.cancelled = true := by
  rw [waitsFor, Bool.and_eq_true, List.all_eq_true]
  apply and_congr_right
  intro hlaunched
  have hmoment : ∀ moment, (({ session with clock := moment } : Session).step? plan
      (.reader source)).isNone = true ↔ ∀ reader, session.reader? source = some reader →
        reader.waitsAt moment session.cancelled = true := by
    intro moment
    have hsame : ({ session with clock := moment } : Session).reader? = session.reader? :=
      reader?_of_same rfl rfl
    rw [← hsame]
    exact isNone_step?_reader_iff hlaunched
  constructor
  · intro hall reader hreader moment hclock htime
    have hone := hall moment (List.mem_range.mpr htime)
    rw [Bool.or_eq_true, decide_eq_true_iff] at hone
    rcases hone with hbefore | hnone
    · exact absurd hbefore (Nat.not_lt_of_le hclock)
    · exact (hmoment moment).mp hnone reader hreader
  · intro hall moment hmem
    rw [Bool.or_eq_true, decide_eq_true_iff, hmoment]
    refine (Nat.lt_or_ge moment session.clock).imp_right fun hclock reader hreader => ?_
    exact hall reader hreader moment hclock (List.mem_range.mp hmem)

end Session

/-! ## The timeline -/

namespace SessionTimeline

variable {plan : Plan} {limit : Nat} {timeline next : SessionTimeline} {source : Source}

theorem isLaunched_of_going (hgoing : timeline.isOver = false)
    (hstarted : timeline.isStarting = false) : timeline.session.isLaunched = true := by
  rw [isOver] at hgoing
  rw [isStarting] at hstarted
  rw [Session.isLaunched]
  cases hmain : timeline.session.main <;> simp_all

/-- When no task can go on, every reader waits. -/
theorem waitsAt_of_stepTasks? {reader : Reader} (hidle : timeline.stepTasks? plan = none)
    (hlaunched : timeline.session.isLaunched = true)
    (hreader : timeline.session.reader? source = some reader) :
    reader.waitsAt timeline.session.clock timeline.session.cancelled = true := by
  have hnone : timeline.stepTask? plan (.reader source) = none := by
    rw [stepTasks?, List.findSome?_eq_none_iff] at hidle
    apply hidle
    cases source <;> simp [order]
  rw [stepTask?, step?, Option.map_eq_none_iff, Option.map_eq_none_iff] at hnone
  exact (Session.isNone_step?_reader_iff hlaunched).mp (Option.isNone_iff_eq_none.mpr hnone) reader
    hreader

/-- A reader that waits does so until the time that it is waiting for. -/
theorem waitsAt_of_readerDue {reader : Reader} {clock time moment : Nat} {cancelled : Bool}
    (hnow : reader.waitsAt clock cancelled = true)
    (hdue : ∀ due ∈ readerDue (some reader), clock < due → time ≤ due) (htime : moment < time) :
    reader.waitsAt moment cancelled = true := by
  obtain ⟨framer, pipe, stage⟩ := reader
  cases stage with
  | asking => exact absurd hnow Bool.false_ne_true
  | reading asked looking =>
      rw [Reader.waitsAt, Bool.and_eq_true] at hnow ⊢
      refine hnow.imp_right fun hwaiting => ?_
      cases pipe with
      | nil => exact hwaiting
      | cons step rest =>
          cases step with
          | waitUntil later =>
              rw [PipeScript.isWaiting, decide_eq_true_iff] at hwaiting ⊢
              exact Nat.lt_of_lt_of_le htime (hdue later List.mem_cons_self hwaiting)
          | _ => exact hwaiting
  | sending sending =>
      rw [Reader.waitsAt, decide_eq_true_iff] at hnow ⊢
      exact Nat.lt_of_lt_of_le htime (hdue sending.dueAt List.mem_cons_self hnow)
  | ended result => rfl

theorem readerDue_subset_dueTimes (plan : Plan) (timeline : SessionTimeline) (source : Source) :
    readerDue (timeline.session.reader? source) ⊆ timeline.dueTimes plan := by
  intro due hmem
  cases source <;> simp_all [dueTimes, Session.reader?]

theorem waitsFor_of_chooses {event : SessionEvent} (hchooses : Chooses plan timeline event)
    (source : Source) : timeline.session.waitsFor plan source event = true := by
  cases hchooses with
  | cancels => rfl
  | works event hcancel hpass =>
      cases event with
      | pass time => exact absurd rfl (hpass time)
      | _ => rfl
  | passes time hgoing hstarted hidle hdue =>
      have hlaunched := isLaunched_of_going hgoing hstarted
      rw [Session.waitsFor_pass_iff]
      refine ⟨hlaunched, fun reader hreader moment hclock htime => ?_⟩
      apply waitsAt_of_readerDue (waitsAt_of_stepTasks? hidle hlaunched hreader) _ htime
      intro due hmem hlater
      rw [← hreader] at hmem
      have hlisted : due ∈ (timeline.dueTimes plan).filter (timeline.session.clock < ·) :=
        List.mem_filter.mpr ⟨readerDue_subset_dueTimes plan timeline source hmem,
          decide_eq_true hlater⟩
      exact (List.min?_eq_some_iff.mp hdue).2 due hlisted

/-- The session that is run without a cancellation has made a run that is prompt for every
reader. -/
theorem exists_prompt_run (plan : Plan) (limit : Nat) (start : Session) :
    ∃ events, start.run? plan events = some (run plan limit none start) ∧ .cancel ∉ events ∧
      ∀ source, Session.isPrompt plan source start events = true := by
  have hchosen : ∀ (timeline next : SessionTimeline) (event : SessionEvent)
      (rest : List SessionEvent), Chooses plan timeline event →
      timeline.session.step? plan event = some next.session →
      (timeline.cancelAt = none → next.cancelAt = none) →
      (next.cancelAt = none → .cancel ∉ rest) ∧
        (∀ source, Session.isPrompt plan source next.session rest = true) →
      (timeline.cancelAt = none → .cancel ∉ event :: rest) ∧
        ∀ source, Session.isPrompt plan source timeline.session (event :: rest) = true := by
    rintro timeline next event rest hchooses hstep hkeeps ⟨hcancel, hprompt⟩
    refine ⟨fun hnone hmem => ?_, fun source => ?_⟩
    · rcases List.mem_cons.mp hmem with rfl | hrest
      · cases hchooses with
        | cancels hsome => simp [hnone] at hsome
        | works _ hevent => exact hevent rfl
      · exact hcancel (hkeeps hnone) hrest
    · rw [Session.isPrompt, waitsFor_of_chooses hchooses source, hstep]
      exact hprompt source
  obtain ⟨events, hrun, hcancel, hprompt⟩ := @exists_run_advanceFor plan limit
    (fun timeline events => (timeline.cancelAt = none → .cancel ∉ events) ∧
      ∀ source, Session.isPrompt plan source timeline.session events = true)
    (fun _ => ⟨fun _ => List.not_mem_nil, fun _ => rfl⟩) hchosen stepBound ⟨start, none, 0, none⟩
  exact ⟨events, hrun, hcancel rfl, hprompt⟩

end SessionTimeline

end LogRelay
