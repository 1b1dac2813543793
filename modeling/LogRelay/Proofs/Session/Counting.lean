import LogRelay.Proofs.Session.Books

/-!
# Everything that is counted is reported

What the samples of a session come to, with what has not been reported yet, is at
every moment what the books come to.  The reporting task makes its last sample when
it is told to stop, and by then nothing is counted any more; so when the session has
returned, the samples come to what is in the books.
-/

namespace LogRelay

/-- What is to be counted for the entries. -/
def Books.counted (books : Books) : Counter → Nat
  | .read => books.brought.length
  | .sent => totalSize books.delivered
  | .newlines => books.brought.count newline

/-- The main task has told the reporting task to stop. -/
def MainStage.isStopping : MainStage → Bool
  | .stopping _ | .done _ => true
  | _ => false

namespace Session

variable {plan : Plan} {session next : Session}

/-! ## Samples and counters -/

theorem sampleTotal_of_reported {sample? : Option Counters}
    (hreported : next.reported = session.reported ++ sample?.toList) (counter : Counter) :
    next.sampleTotal.get counter =
      session.sampleTotal.get counter + (sample?.map (·.get counter)).getD 0 := by
  rw [sampleTotal_eq, sampleTotal_eq, hreported, List.foldl_append]
  cases sample? with
  | none => exact (UInt64.add_zero _).symm
  | some sample => exact Counters.get_add _ _ _

/-- The samples and what has not been reported come to what is in the books. -/
structure Tallies (session : Session) : Prop where
  fresh : session.tracer.stage.IsFresh
  total : ∀ counter, session.sampleTotal.get counter + session.tracer.unreported counter =
    UInt64.ofNat (session.books.counted counter)

theorem tallies_create (plan : Plan) (stdout stderr : Option PipeScript) (sink : SinkBehaviour) :
    (create plan stdout stderr sink).Tallies where
  fresh := trivial
  total counter := by cases counter <;> rfl

/-- Whatever is entered is counted. -/
theorem Enters.counts (henters : session.Enters next) :
    next.reported = session.reported ∧ ∃ amounts : Counter → Nat, ∀ counter,
      next.tracer.counters.get counter =
        session.tracer.counters.get counter + UInt64.ofNat (amounts counter) ∧
      next.books.counted counter = session.books.counted counter + amounts counter := by
  cases henters with
  | nothing hbooks hcounters | crashes hbooks hcounters =>
      refine ⟨congrArg Books.reported hbooks, fun _ => 0, fun counter => ⟨?_, ?_⟩⟩
      · rw [hcounters]
        exact (UInt64.add_zero _).symm
      · rw [hbooks, Nat.add_zero]
  | hands message hbooks hcounters | abandons message hbooks hcounters =>
      refine ⟨congrArg Books.reported hbooks, fun _ => 0, fun counter => ⟨?_, ?_⟩⟩
      · rw [hcounters]
        exact (UInt64.add_zero _).symm
      · rw [hbooks]
        rfl
  | brings bytes hbooks hcounters =>
      refine ⟨congrArg Books.reported hbooks, fun
        | .read => bytes.length
        | .sent => 0
        | .newlines => bytes.count newline, fun counter => ⟨?_, ?_⟩⟩
      · rw [hcounters, Counters.get_record, Counters.get_record]
        cases counter <;> simp
      · rw [hbooks]
        cases counter with
        | read => exact List.length_append
        | sent => rfl
        | newlines => exact List.count_append
  | delivers message hbooks hcounters =>
      refine ⟨congrArg Books.reported hbooks, fun
        | .sent => message.size
        | _ => 0, fun counter => ⟨?_, ?_⟩⟩
      · rw [hcounters, Counters.get_record]
        cases counter <;> simp
      · rw [hbooks]
        cases counter with
        | sent =>
            have hsize := totalSize_append session.delivered [message]
            rw [totalSize_cons, totalSize_nil, Nat.add_zero] at hsize
            exact hsize
        | read | newlines => rfl

theorem Tallies.enter (htallies : session.Tallies) (henters : session.Enters next)
    (hstage : next.tracer.stage = session.tracer.stage) : next.Tallies where
  fresh := hstage ▸ htallies.fresh
  total counter := by
    obtain ⟨hreported, amounts, hamounts⟩ := henters.counts
    obtain ⟨hcounters, hcounted⟩ := hamounts counter
    have hsamples : next.sampleTotal.get counter = session.sampleTotal.get counter := by
      rw [sampleTotal_eq, sampleTotal_eq, hreported]
    have hbefore := htallies.total counter
    rw [Tracer.unreported] at hbefore
    rw [hcounted, UInt64.ofNat_add, ← hbefore, Tracer.unreported, hcounters, hstage, hsamples]
    ac_rfl

/-- A step of the reporting task moves what it reports from the counters into a sample. -/
theorem Tallies.report {action : Tracer.Action} {sample? : Option Counters}
    (htallies : session.Tallies) (hstep : session.tracer.Step action next.tracer sample?)
    (hown : action.isOwn = true)
    (hbooks : next.books =
      { session.books with reported := session.reported ++ sample?.toList }) :
    next.Tallies where
  fresh := hstep.isFresh htallies.fresh
  total counter := by
    have hmoved := hstep.unreported_add htallies.fresh counter
    rw [Tracer.Action.counted_of_isOwn hown, UInt64.add_zero] at hmoved
    have hcounted : next.books.counted counter = session.books.counted counter := by
      rw [hbooks]
      cases counter <;> rfl
    rw [hcounted, ← htallies.total counter, ← hmoved,
      sampleTotal_of_reported (congrArg Books.reported hbooks)]
    ac_rfl

/-! ## The last sample -/

/-- The reporting task makes its last sample only when nothing more is counted. -/
structure Watched (session : Session) : Prop where
  spent : session.tracer.IsSpent
  told : session.tracer.stage.isClosing = true → session.tracer.stopping = true
  stopping : session.tracer.stopping = true → session.main.isStopping = true
  unstarted : session.isLaunched = false → ∀ counter, session.tracer.unreported counter = 0
  finished : ∀ result, session.main = .done result → session.isLaunched = true →
    session.tracer.stage = .finished

theorem watched_create (plan : Plan) (stdout stderr : Option PipeScript) (sink : SinkBehaviour) :
    (create plan stdout stderr sink).Watched where
  spent _ hpast := absurd hpast Bool.false_ne_true
  told hclosing := absurd hclosing Bool.false_ne_true
  stopping hstopping := absurd hstopping Bool.false_ne_true
  unstarted _ counter := by cases counter <;> rfl
  finished _ hdone := MainStage.noConfusion hdone

/-- What the main task and the reporting task stand at is the same. -/
theorem Watched.of_same (hwatched : session.Watched) (htracer : next.tracer = session.tracer)
    (hmain : next.main = session.main) : next.Watched := by
  have hlaunched : next.isLaunched = session.isLaunched := by rw [isLaunched, isLaunched, hmain]
  constructor
  · rw [htracer]
    exact hwatched.spent
  · rw [htracer]
    exact hwatched.told
  · rw [htracer, hmain]
    exact hwatched.stopping
  · rw [htracer, hlaunched]
    exact hwatched.unstarted
  · rw [htracer, hmain, hlaunched]
    exact hwatched.finished

/-- As long as the main task has not told the reporting task to stop, tasks may count. -/
theorem Watched.count (hwatched : session.Watched) (hgoing : session.main.isStopping = false)
    (hstage : next.tracer.stage = session.tracer.stage)
    (hstopping : next.tracer.stopping = true → next.main.isStopping = true)
    (hlaunched : next.isLaunched = true) (hmain : ∀ result, next.main ≠ .done result) :
    next.Watched := by
  -- So the last sample has not been begun, and nothing that is counted comes too late for it.
  have hopen : next.tracer.stage.isClosing = false := by
    apply Bool.eq_false_iff.mpr
    intro hclosing
    rw [hstage] at hclosing
    exact Bool.false_ne_true (hgoing.symm.trans (hwatched.stopping (hwatched.told hclosing)))
  constructor
  · intro counter hpast
    exact absurd (hopen.symm.trans (ReportStage.isClosing_of_isPast hpast)) Bool.false_ne_true
  · exact fun hclosing => absurd (hopen.symm.trans hclosing) Bool.false_ne_true
  · exact hstopping
  · exact fun hnot => absurd (hnot.symm.trans hlaunched) Bool.false_ne_true
  · exact fun result hdone => absurd hdone (hmain result)

theorem Watched.report {action : Tracer.Action} {sample? : Option Counters}
    (hwatched : session.Watched) (hlaunched : session.isLaunched = true)
    (hstep : session.tracer.Step action next.tracer sample?) (hown : action.isOwn = true)
    (hmain : next.main = session.main) : next.Watched := by
  obtain ⟨htold, hstopping, hgoing⟩ := hstep.closing hown hwatched.told
  have hsame : next.isLaunched = session.isLaunched := by rw [isLaunched, isLaunched, hmain]
  constructor
  · apply hstep.isSpent hwatched.spent
    rintro counter amount rfl
    exact absurd hown Bool.false_ne_true
  · exact htold
  · rw [hstopping, hmain]
    exact hwatched.stopping
  · intro hnot
    exact absurd (hnot.symm.trans (hsame.trans hlaunched)) Bool.false_ne_true
  · intro result hdone _
    exact absurd (hwatched.finished result (hmain.symm.trans hdone) hlaunched) hgoing

/-- A task that is at work has not been joined, so the main task goes on. -/
theorem Live.isStopping_of_atWork (hready : plan.readyError = none) (hlive : session.Live plan)
    (hlaunched : session.isLaunched = true) (hwork : 0 < session.atWork) :
    session.main.isStopping = false ∧ ∀ result, session.main ≠ .done result := by
  rcases isRelaying_of_atWork hready hlive.reached (hlive.orderly hready).counted hlaunched
    hwork with hmain | hmain
  · rw [hmain]
    exact ⟨rfl, fun _ => MainStage.noConfusion⟩
  · rw [hmain]
    exact ⟨rfl, fun _ => MainStage.noConfusion⟩

theorem Watched.main (hready : plan.readyError = none) (hwatched : session.Watched)
    (hmove : session.MainMove plan session.main next) : next.Watched := by
  have hspent := hwatched.spent
  have hstopped := hwatched.stopping
  generalize hmain : session.main = stage at hmove hstopped
  have hcount : stage.isStopping = false → next.tracer.stage = session.tracer.stage →
      (next.tracer.stopping = true → next.main.isStopping = true) → next.isLaunched = true →
      (∀ result, next.main ≠ .done result) → next.Watched :=
    fun hgoing => hwatched.count (hmain ▸ hgoing)
  cases hmove with
  | refuses =>
      refine ⟨hspent, hwatched.told, fun _ => rfl, fun _ => ?_, fun _ _ hnot => ?_⟩
      · exact hwatched.unstarted (by rw [isLaunched, hmain])
      · exact absurd hnot Bool.false_ne_true
  | launches => exact hcount rfl rfl hstopped rfl fun _ => MainStage.noConfusion
  | ready =>
      have hafter : (session.ready plan).main = .joining := by simp [Session.ready, hready]
      have htracer : (session.ready plan).tracer = session.tracer := by simp [Session.ready, hready]
      refine hcount rfl (by rw [htracer]) ?_ (by rw [isLaunched, hafter]) ?_
      · rw [htracer, hafter]
        exact hstopped
      · rw [hafter]
        exact fun _ => MainStage.noConfusion
  | flushes buffer => exact hcount rfl rfl hstopped rfl fun _ => MainStage.noConfusion
  | skipsFlush => exact hcount rfl rfl hstopped rfl fun _ => MainStage.noConfusion
  | endsFlush =>
      have htracer := (finishFlush_leaves_others plan session).2.2.2.1
      refine hcount rfl (by rw [htracer]) ?_ rfl fun _ => MainStage.noConfusion
      rw [htracer]
      exact hstopped
  | hands message remaining =>
      exact hcount rfl (by simp) (fun htrue => hstopped (by simpa using htrue)) rfl
        fun _ => MainStage.noConfusion
  | sendGoesOn sending later remaining sent hdue hsend
  | sendOver sending remaining sent hdue hsend
  | sendCrashes sending remaining sent hdue hsend =>
      obtain ⟨hstage, hstopping⟩ := hsend.sameReporting
      exact hcount rfl hstage (fun htrue => hstopped (hstopping.symm.trans htrue)) rfl
        fun _ => MainStage.noConfusion
  | stops wakeAt result => exact hcount rfl rfl (fun _ => rfl) rfl fun _ => MainStage.noConfusion
  | finishes result htracer =>
      refine ⟨hspent, hwatched.told, fun _ => rfl, fun _ counter => ?_, fun _ _ _ => htracer⟩
      have hcounter := hspent counter (by rw [htracer]; rfl)
      rw [Tracer.unreported, hcounter, htracer]
      rfl

theorem Watched.move {event : SessionEvent} (hready : plan.readyError = none)
    (hlive : session.Live plan) (hwatched : session.Watched)
    (hmove : session.Move plan event next) : next.Watched := by
  have hwork : session.isLaunched = true → 0 < session.atWork → next.main = session.main →
      session.SameReporting next → next.Watched := by
    intro hlaunched hwork hmain ⟨hstage, hstopping⟩
    obtain ⟨hgoing, hreturned⟩ := hlive.isStopping_of_atWork hready hlaunched hwork
    refine hwatched.count hgoing hstage ?_ (by rw [isLaunched, hmain]; exact hlaunched)
      (by rw [hmain]; exact hreturned)
    rw [hstopping, hmain]
    exact hwatched.stopping
  cases hmove with
  | pass => exact hwatched.of_same rfl rfl
  | cancel => exact hwatched.of_same (by simp) (by simp)
  | reader source reader next hlaunched hreader hmove =>
      exact hwork hlaunched (Nat.add_pos_left (hmove.counts hreader).1 _) hmove.changes.2.1
        hmove.leaves_others.2.2.2
  | drain stage buffer next hlaunched hdrain hbuffer hmove =>
      refine hwork hlaunched (Nat.add_pos_right _ ?_) hmove.counts.2.2.1 hmove.leaves_others.2.2.2
      rw [hdrain, Option.map_some, Option.getD_some, hmove.counts.1]
      exact Nat.one_pos
  | join task result next hmain hresult hmem hmove =>
      exact hwatched.of_same hmove.leaves_others.2.2.2 hmove.keeps.2.1
  | main next hmove => exact hwatched.main hready hmove
  | tracer action tracer sample? hlaunched hstep hown =>
      cases sample? with
      | none => exact hwatched.report hlaunched (Tracer.step_of_step? hstep) hown rfl
      | some sample => exact hwatched.report hlaunched (Tracer.step_of_step? hstep) hown rfl

theorem MainMove.stage_eq (hready : plan.readyError = none) {stage : MainStage}
    (hmove : session.MainMove plan stage next) :
    next.tracer.stage = session.tracer.stage := by
  cases hmove with
  | refuses | launches | flushes | skipsFlush | stops | finishes => rfl
  | ready => simp [Session.ready, hready]
  | endsFlush => rw [(finishFlush_leaves_others plan session).2.2.2.1]
  | hands => simp
  | sendGoesOn sending later remaining sent hdue hsend
  | sendOver sending remaining sent hdue hsend
  | sendCrashes sending remaining sent hdue hsend => exact hsend.sameReporting.1

/-- Every step makes an entry and counts it, or it is a step of the reporting task. -/
theorem Move.enters {event : SessionEvent} (hready : plan.readyError = none)
    (hfollow : session.ReadersFollow plan) (hmove : session.Move plan event next) :
    (session.Enters next ∧ next.tracer.stage = session.tracer.stage) ∨
      ∃ action sample?, session.tracer.Step action next.tracer sample? ∧ action.isOwn = true ∧
        next.books = { session.books with reported := session.reported ++ sample?.toList } ∧
        next.inHand = session.inHand := by
  cases hmove with
  | pass => exact Or.inl ⟨.nothing rfl rfl rfl, rfl⟩
  | cancel => exact Or.inl ⟨.nothing (by simp) (by simp) (by simp [inHand]), by simp⟩
  | reader source reader next hlaunched hreader hmove =>
      exact Or.inl ⟨hmove.enters hreader (hfollow source reader hreader).awaits,
        hmove.leaves_others.2.2.2.1⟩
  | drain stage buffer next hlaunched hdrain hbuffer hmove =>
      exact Or.inl ⟨hmove.enters hdrain, hmove.leaves_others.2.2.2.1⟩
  | join task result next hmain hresult hmem hmove =>
      exact Or.inl ⟨hmove.enters, by rw [hmove.leaves_others.2.2.2]⟩
  | main next hmove => exact Or.inl ⟨hmove.enters hready, hmove.stage_eq hready⟩
  | tracer action tracer sample? hlaunched hstep hown =>
      refine Or.inr ⟨action, sample?, ?_, hown, ?_, ?_⟩
      · cases sample? <;> exact Tracer.step_of_step? hstep
      · cases sample? with
        | none => simp [Books.ext_iff, books]
        | some sample => simp [books]
      · cases sample? <;> rfl

theorem Tallies.move {event : SessionEvent} (hready : plan.readyError = none)
    (hfollow : session.ReadersFollow plan) (htallies : session.Tallies)
    (hmove : session.Move plan event next) : next.Tallies := by
  rcases hmove.enters hready hfollow with
    ⟨henters, hstage⟩ | ⟨action, sample?, hstep, hown, hbooks, -⟩
  · exact htallies.enter henters hstage
  · exact htallies.report hstep hown hbooks

/-- When the session has returned, nothing that was counted is left. -/
theorem Watched.unreported_eq_zero {result : Except Error Unit} (hwatched : session.Watched)
    (hdone : session.main = .done result) (counter : Counter) :
    session.tracer.unreported counter = 0 := by
  cases hlaunched : session.isLaunched with
  | false => exact hwatched.unstarted hlaunched counter
  | true =>
      have hstage := hwatched.finished result hdone hlaunched
      have hcounter := hwatched.spent counter (by rw [hstage]; rfl)
      rw [Tracer.unreported, hcounter, hstage]
      rfl

/-- When the session has returned, the samples come to what is in the books. -/
theorem Tallies.sampleTotal_eq {result : Except Error Unit} (htallies : session.Tallies)
    (hwatched : session.Watched) (hdone : session.main = .done result) :
    session.sampleTotal = ⟨UInt64.ofNat session.brought.length,
      UInt64.ofNat (totalSize session.delivered),
      UInt64.ofNat (session.brought.count newline)⟩ := by
  apply Counters.ext_get
  intro counter
  have htotal := htallies.total counter
  rw [hwatched.unreported_eq_zero hdone, UInt64.add_zero] at htotal
  rw [htotal]
  cases counter <;> rfl

end Session

end LogRelay
