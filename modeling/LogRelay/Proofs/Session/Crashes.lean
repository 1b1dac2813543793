import LogRelay.Proofs.Session.HandOver
import LogRelay.Proofs.Session.Journal
import LogRelay.Proofs.Session.Returning

/-!
# Where a crash of the sink leads

A crash under a reader or under the drain ends that task, and the main task
finds it as an error when it joins the task.  The flush is made by the main task
itself, and a crash there is caught by nobody.  So every session returns, unless
the sink crashes in the flush.
-/

namespace LogRelay

namespace Entry

/-- The error with which a task has been joined. -/
@[simp, reducible]
def joinError? : Entry → Option Error
  | .joined _ result => result.error?
  | _ => none

def isFlush : Entry → Bool
  | .flushed _ => true
  | _ => false

/-- The sink has crashed instead of answering. -/
def isCrash : Entry → Bool
  | .answered _ reply => reply = .crashed
  | _ => false

/-- Neither of the two. -/
def isQuiet (entry : Entry) : Bool :=
  !entry.isFlush && !entry.isCrash

end Entry

namespace Session

variable {plan : Plan} {session next : Session}

/-! ## The first error -/

/-- The errors with which tasks have been joined, in order. -/
def joinErrors (session : Session) : List Error :=
  selected Entry.joinError? session.journal

/-- The main task keeps the first error that it joins. -/
def KeepsFirst (session : Session) : Prop :=
  session.firstError = session.joinErrors.head?

theorem KeepsFirst.of_adds {allowed : Entry → Bool} (hkeeps : session.KeepsFirst)
    (hadds : session.Adds allowed next) (herror : next.firstError = session.firstError)
    (hallowed : ∀ entry, allowed entry = true → entry.joinError? = none) : next.KeepsFirst := by
  rw [KeepsFirst, joinErrors, hadds.selected_eq hallowed, herror]
  exact hkeeps

theorem joinError?_of_isOfMain (entry : Entry) (hentry : entry.isOfMain = true) :
    entry.joinError? = none := by
  cases entry <;> first | rfl | exact absurd hentry Bool.false_ne_true

theorem joinError?_of_isOfReader (entry : Entry) (hentry : entry.isOfReader = true) :
    entry.joinError? = none := by
  cases entry <;> first | rfl | exact absurd hentry Bool.false_ne_true

theorem JoinMove.joinErrors_eq {task : Task} {result : TaskResult}
    (hmove : session.JoinMove task result next) :
    next.joinErrors = session.joinErrors ++ result.error?.toList := by
  cases hmove <;> simp [joinErrors]

theorem KeepsFirst.join {task : Task} {result : TaskResult} (hkeeps : session.KeepsFirst)
    (hmove : session.JoinMove task result next) : next.KeepsFirst := by
  rw [KeepsFirst, hmove.joinErrors_eq, hmove.leaves_others.2.1, List.head?_append, hkeeps]
  cases result.error? <;> rfl

theorem KeepsFirst.move {event : SessionEvent} (hkeeps : session.KeepsFirst)
    (hmove : session.Move plan event next) : next.KeepsFirst := by
  cases hmove with
  | pass => exact hkeeps
  | cancel =>
      exact hkeeps.of_adds (adds_cancel session rfl) (by simp) joinError?_of_isOfReader
  | reader source reader next hlaunched hreader hmove =>
      have herror := hmove.leaves_others.2.1
      rcases hmove.adds_cases with hadds | ⟨asked, -, -, hjournal⟩
      · exact hkeeps.of_adds hadds herror joinError?_of_isOfReader
      · have hadds : session.Adds (fun entry => entry.joinError?.isNone) next :=
          (Adds.of_same rfl).cons rfl hjournal
        exact hkeeps.of_adds hadds herror fun entry => Option.isNone_iff_eq_none.mp
  | drain stage buffer next hlaunched hdrain hbuffer hmove =>
      exact hkeeps.of_adds (hmove.adds.mono isOfMain_of_isOfTask) hmove.leaves_others.2.1
        joinError?_of_isOfMain
  | join task result next hmain hresult hmem hmove => exact hkeeps.join hmove
  | main next hmove =>
      exact hkeeps.of_adds hmove.adds hmove.leaves_others.2.1 joinError?_of_isOfMain
  | tracer action tracer sample? =>
      cases sample? with
      | none => exact hkeeps
      | some sample =>
          have hadds : session.Adds (fun entry => entry.joinError?.isNone)
              (({ session with tracer := tracer } : Session).note (.reported sample)) :=
            (Adds.of_same rfl).cons rfl rfl
          exact hkeeps.of_adds hadds rfl fun entry => Option.isNone_iff_eq_none.mp

/-! ## The flush -/

def HasFlushed (journal : List (Nat × Entry)) : Prop :=
  ∃ noted ∈ journal, noted.2.isFlush = true

/-- The sink has crashed in a call of the flush. -/
def CrashesInFlush (journal : List (Nat × Entry)) : Prop :=
  ∃ noted before, noted :: before <:+ journal ∧ noted.2.isCrash = true ∧ HasFlushed before

theorem CrashesInFlush.hasFlushed {journal : List (Nat × Entry)}
    (hcrashes : CrashesInFlush journal) : HasFlushed journal := by
  obtain ⟨noted, before, hsuffix, -, flush, hmem, hflush⟩ := hcrashes
  exact ⟨flush, hsuffix.subset (List.mem_cons_of_mem _ hmem), hflush⟩

theorem crashesInFlush_cons {noted : Nat × Entry} {journal : List (Nat × Entry)} :
    CrashesInFlush (noted :: journal) ↔
      noted.2.isCrash = true ∧ HasFlushed journal ∨ CrashesInFlush journal := by
  constructor
  · rintro ⟨crash, before, hsuffix, hcrash, hflushed⟩
    rw [List.suffix_cons_iff, List.cons.injEq] at hsuffix
    rcases hsuffix with ⟨rfl, rfl⟩ | hlater
    · exact Or.inl ⟨hcrash, hflushed⟩
    · exact Or.inr ⟨crash, before, hlater, hcrash, hflushed⟩
  · rintro (⟨hcrash, hflushed⟩ | ⟨crash, before, hsuffix, hcrash, hflushed⟩)
    · exact ⟨noted, journal, List.suffix_refl _, hcrash, hflushed⟩
    · exact ⟨crash, before, hsuffix.trans (List.suffix_cons _ _), hcrash, hflushed⟩

theorem Adds.hasFlushed_iff {allowed : Entry → Bool} (hadds : session.Adds allowed next)
    (hallowed : ∀ entry, allowed entry = true → entry.isFlush = false) :
    HasFlushed next.journal ↔ HasFlushed session.journal := by
  obtain ⟨added, hadded, hall⟩ := hadds
  rw [hadded]
  constructor
  · rintro ⟨flush, hmem, hflush⟩
    rcases List.mem_append.mp hmem with hnew | hold
    · exact absurd ((hallowed _ (hall flush hnew)).symm.trans hflush) Bool.false_ne_true
    · exact ⟨flush, hold, hflush⟩
  · rintro ⟨flush, hmem, hflush⟩
    exact ⟨flush, List.mem_append_right _ hmem, hflush⟩

theorem not_isFlush_of_isQuiet (entry : Entry) (hentry : entry.isQuiet = true) :
    entry.isFlush = false := by
  rw [Entry.isQuiet, Bool.and_eq_true, Bool.not_eq_true'] at hentry
  exact hentry.1

theorem Adds.crashesInFlush_iff (hadds : session.Adds Entry.isQuiet next) :
    CrashesInFlush next.journal ↔ CrashesInFlush session.journal := by
  obtain ⟨added, hadded, hall⟩ := hadds
  rw [hadded]
  clear hadded
  induction added with
  | nil => rfl
  | cons noted added ih =>
      have hquiet : noted.2.isQuiet = true := hall noted List.mem_cons_self
      rw [Entry.isQuiet, Bool.and_eq_true, Bool.not_eq_true', Bool.not_eq_true'] at hquiet
      rw [List.cons_append, crashesInFlush_cons, hquiet.2,
        ih fun noted hmem => hall noted (List.mem_cons_of_mem _ hmem)]
      simp

/-- The flush comes when all tasks have been joined.  The main task crashes with
the sink in the flush, or where a pause cannot be computed, and not otherwise. -/
structure FlushesLast (plan : Plan) (session : Session) : Prop where
  begun : session.main.isFlushing = true → HasFlushed session.journal
  joined : HasFlushed session.journal → session.main.isJoined = true
  crashed : CrashesInFlush session.journal → session.main = .crashed
  cause : session.main = .crashed →
    CrashesInFlush session.journal ∨ plan.options.retry.jitter.isNaN = true

theorem flushesLast_create (plan : Plan) (stdout stderr : Option PipeScript)
    (sink : SinkBehaviour) : (create plan stdout stderr sink).FlushesLast plan := by
  have hnot : ¬ HasFlushed (create plan stdout stderr sink).journal :=
    fun ⟨flush, hmem, _⟩ => absurd hmem List.not_mem_nil
  refine ⟨fun hflushing => ?_, fun hflushed => absurd hflushed hnot,
    fun hcrashes => absurd hcrashes.hasFlushed hnot, MainStage.noConfusion⟩
  exact absurd hflushing Bool.false_ne_true

/-- A step that neither begins the flush nor notes a crash. -/
theorem FlushesLast.of_quiet (hlast : session.FlushesLast plan)
    (hadds : session.Adds Entry.isQuiet next)
    (hflushing : next.main.isFlushing = true → session.main.isFlushing = true)
    (hjoined : session.main.isJoined = true → next.main.isJoined = true)
    (hcrashed : session.main = .crashed ↔ next.main = .crashed) : next.FlushesLast plan := by
  have hflushed := hadds.hasFlushed_iff not_isFlush_of_isQuiet
  have hcrashes := hadds.crashesInFlush_iff
  constructor
  · exact fun hnext => hflushed.mpr (hlast.begun (hflushing hnext))
  · exact fun hnext => hjoined (hlast.joined (hflushed.mp hnext))
  · exact fun hnext => hcrashed.mp (hlast.crashed (hcrashes.mp hnext))
  · exact fun hnext => (hlast.cause (hcrashed.mpr hnext)).imp_left hcrashes.mpr

theorem FlushesLast.of_main_eq (hlast : session.FlushesLast plan)
    (hadds : session.Adds Entry.isQuiet next) (hmain : next.main = session.main) :
    next.FlushesLast plan :=
  hlast.of_quiet hadds (hmain ▸ id) (hmain ▸ id) (by rw [hmain])

theorem isJoined_of_relaying {stage : MainStage}
    (hrelaying : stage = .launched ∨ stage = .joining) :
    stage.isJoined = false ∧ stage.isFlushing = false ∧ stage ≠ .crashed := by
  rcases hrelaying with rfl | rfl <;> exact ⟨rfl, rfl, MainStage.noConfusion⟩

/-- A step of a task that is still at work. -/
theorem FlushesLast.of_task {allowed : Entry → Bool} (hlast : session.FlushesLast plan)
    (hadds : session.Adds allowed next)
    (hallowed : ∀ entry, allowed entry = true → entry.isFlush = false)
    (hmain : next.main = session.main)
    (hrelaying : session.main = .launched ∨ session.main = .joining) : next.FlushesLast plan := by
  obtain ⟨hjoined, hflushing, hcrashed⟩ := isJoined_of_relaying hrelaying
  have hnot : ¬ HasFlushed next.journal := by
    rw [hadds.hasFlushed_iff hallowed]
    exact fun hflushed => absurd (hjoined.symm.trans (hlast.joined hflushed)) Bool.false_ne_true
  constructor
  · rw [hmain]
    exact fun hnext => absurd (hflushing.symm.trans hnext) Bool.false_ne_true
  · exact fun hflushed => absurd hflushed hnot
  · exact fun hcrashes => absurd hcrashes.hasFlushed hnot
  · rw [hmain]
    exact fun hnext => absurd hnext hcrashed

/-- Unless the delivery crashes with it, the sink has not crashed. -/
theorem SendMove.adds_quiet {sending : Sending} {progress : SendProgress}
    (hsend : session.SendMove plan sending next progress) (hprogress : progress ≠ .crashed) :
    session.Adds Entry.isQuiet next := by
  have hanswered : ∀ reply, sending.delivery.answer (plan.draws session.drawn) reply ≠ .crashed →
      (Entry.answered sending.delivery.message reply).isQuiet = true := by
    intro reply hnot
    have hreply : reply ≠ .crashed := by
      rintro rfl
      exact hnot rfl
    simp [Entry.isQuiet, Entry.isFlush, Entry.isCrash, hreply]
  cases hsend with
  | recalls =>
      exact (Adds.of_same rfl).cons rfl (call_keeps session _).2.2.2.2.2.2.2.2.2.2.2.2
  | delivers answerAt reply hstage hanswer =>
      exact ((Adds.of_same rfl).cons (hanswered reply (hanswer ▸ Delivery.Outcome.noConfusion))
        rfl).cons rfl rfl
  | abandons answerAt reply error hstage hanswer =>
      exact ((Adds.of_same rfl).cons (hanswered reply (hanswer ▸ Delivery.Outcome.noConfusion))
        rfl).cons rfl rfl
  | pauses answerAt reply duration later hstage hanswer =>
      exact (Adds.of_same rfl).cons (hanswered reply (hanswer ▸ Delivery.Outcome.noConfusion)) rfl
  | crashes => exact absurd rfl hprogress

theorem adds_quiet_hand (plan : Plan) (session : Session) (message : Message) :
    session.Adds Entry.isQuiet (session.hand plan message).1 :=
  (adds_note session _ rfl).trans
    ((Adds.of_same rfl).cons rfl (call_keeps _ _).2.2.2.2.2.2.2.2.2.2.2.2)

theorem FlushesLast.main (hready : plan.readyError = none) (hlast : session.FlushesLast plan)
    (hpolicy : session.KeepsPolicy plan) (hmove : session.MainMove plan session.main next) :
    next.FlushesLast plan := by
  have hcrashed := hmove.ne_crashed
  have hquiet : ∀ {later : Session}, session.Adds Entry.isQuiet later →
      (later.main.isFlushing = true → session.main.isFlushing = true) →
      (session.main.isJoined = true → later.main.isJoined = true) → later.main ≠ .crashed →
      later.FlushesLast plan :=
    fun hadds hflushing hjoined hnot =>
      hlast.of_quiet hadds hflushing hjoined (iff_of_false hcrashed hnot)
  generalize hmain : session.main = stage at hmove hquiet
  cases hmove with
  | refuses | skipsFlush | stops | finishes =>
      exact hquiet (Adds.of_same rfl) Bool.false_ne_true.elim (fun _ => rfl) MainStage.noConfusion
  | launches => exact hquiet (Adds.of_same rfl) Bool.false_ne_true.elim id MainStage.noConfusion
  | ready =>
      rw [Session.ready, hready]
      exact hquiet (adds_note session _ rfl) Bool.false_ne_true.elim id MainStage.noConfusion
  | flushes buffer hunjoined hbuffer =>
      refine ⟨fun _ => ?_, fun _ => rfl, fun hcrashes => ?_, MainStage.noConfusion⟩
      · exact ⟨_, List.mem_cons_self, rfl⟩
      · rcases crashesInFlush_cons.mp hcrashes with ⟨hcrash, -⟩ | hbefore
        · exact absurd hcrash Bool.false_ne_true
        · exact absurd (hlast.crashed hbefore) hcrashed
  | endsFlush =>
      exact hquiet (adds_finishFlush plan session fun _ => rfl) Bool.false_ne_true.elim
        (fun _ => rfl) MainStage.noConfusion
  | hands message remaining =>
      exact hquiet (adds_quiet_hand plan session message) (fun _ => rfl) (fun _ => rfl)
        MainStage.noConfusion
  | sendGoesOn sending later remaining sent hdue hsend =>
      exact hquiet (hsend.adds_quiet SendProgress.noConfusion) (fun _ => rfl) (fun _ => rfl)
        MainStage.noConfusion
  | sendOver sending remaining sent hdue hsend =>
      exact hquiet (hsend.adds_quiet SendProgress.noConfusion) (fun _ => rfl) (fun _ => rfl)
        MainStage.noConfusion
  | sendCrashes sending remaining sent hdue hsend =>
      have hflushed : HasFlushed session.journal := hlast.begun (by rw [hmain]; rfl)
      obtain ⟨answerAt, reply, -, rfl, hcause⟩ :=
        hsend.crash_cause (hpolicy sending (.main remaining hmain))
      refine ⟨Bool.false_ne_true.elim, fun _ => rfl, fun _ => rfl, fun _ => ?_⟩
      refine hcause.imp_left fun hreply => crashesInFlush_cons.mpr (Or.inl ⟨?_, hflushed⟩)
      exact decide_eq_true hreply

theorem not_isFlush_of_isOfReader (entry : Entry) (hentry : entry.isOfReader = true) :
    entry.isFlush = false := by
  cases entry <;> first | rfl | exact absurd hentry Bool.false_ne_true

theorem isQuiet_of_isOfJoin (entry : Entry) (hentry : entry.isOfJoin = true) :
    entry.isQuiet = true := by
  cases entry <;> first | rfl | exact absurd hentry Bool.false_ne_true

theorem FlushesLast.move {event : SessionEvent} (hready : plan.readyError = none)
    (hlive : session.Live plan) (hpolicy : session.KeepsPolicy plan)
    (hlast : session.FlushesLast plan) (hmove : session.Move plan event next) :
    next.FlushesLast plan := by
  have hcounted := (hlive.orderly hready).counted
  cases hmove with
  | pass => exact hlast.of_main_eq (Adds.of_same rfl) rfl
  | cancel => exact hlast.of_main_eq (adds_cancel session rfl) (by simp)
  | reader source reader next hlaunched hreader hmove =>
      have hwork : 0 < session.atWork := Nat.lt_add_right _ (hmove.counts hreader).1
      have hrelaying := isRelaying_of_atWork hready hlive.reached hcounted hlaunched hwork
      rcases hmove.adds_cases with hadds | ⟨asked, -, -, hjournal⟩
      · exact hlast.of_task hadds not_isFlush_of_isOfReader hmove.changes.2.1 hrelaying
      · have hadds : session.Adds (fun entry => !entry.isFlush) next :=
          (Adds.of_same rfl).cons rfl hjournal
        exact hlast.of_task hadds (fun _ => Bool.not_eq_true' _ |>.mp) hmove.changes.2.1 hrelaying
  | drain stage buffer next hlaunched hdrain hbuffer hmove =>
      have hwork : 0 < session.atWork := by
        rw [atWork, hdrain, Option.map_some, Option.getD_some, hmove.counts.1]
        exact Nat.succ_pos _
      have hrelaying := isRelaying_of_atWork hready hlive.reached hcounted hlaunched hwork
      exact hlast.of_task (hmove.adds.mono isOfReader_of_isOfTask)
        not_isFlush_of_isOfReader hmove.counts.2.2.1 hrelaying
  | join task result next hmain hresult hmem hmove =>
      exact hlast.of_main_eq (hmove.adds.mono isQuiet_of_isOfJoin) hmove.keeps.2.1
  | main next hmove => exact hlast.main hready hpolicy hmove
  | tracer action tracer sample? =>
      cases sample? with
      | none => exact hlast.of_main_eq (Adds.of_same rfl) rfl
      | some sample => exact hlast.of_main_eq ((Adds.of_same rfl).cons rfl rfl) rfl

/-! ## Whole sessions -/

/-- What holds at every moment of a session that is ready. -/
structure Accountable (plan : Plan) (session : Session) : Prop where
  live : session.Live plan
  policy : session.KeepsPolicy plan
  first : session.KeepsFirst
  last : session.FlushesLast plan

theorem accountable_create (plan : Plan) (stdout stderr : Option PipeScript)
    (sink : SinkBehaviour) : (create plan stdout stderr sink).Accountable plan where
  live := live_create plan stdout stderr sink
  policy := keepsPolicy_create plan stdout stderr sink
  first := rfl
  last := flushesLast_create plan stdout stderr sink

theorem Accountable.move {event : SessionEvent} (hready : plan.readyError = none)
    (hbefore : session.Accountable plan) (hmove : session.Move plan event next) :
    next.Accountable plan where
  live := hbefore.live.move hmove
  policy := hbefore.policy.move hmove
  first := hbefore.first.move hmove
  last := hbefore.last.move hready hbefore.live hbefore.policy hmove

/-- The result of a session that is ready is the first error that was joined. -/
theorem Accountable.result_eq {result : Except Error Unit} (hready : plan.readyError = none)
    (haccount : session.Accountable plan) (hdone : session.main = .done result)
    (hpipe : session.hasPipe = true) :
    result = (session.joinErrors.head?.map Except.error).getD (.ok ()) := by
  rw [← haccount.first]
  exact ((haccount.live.concluded hdone).joined_of_ready hready hpipe).2

/-- A session that is ready comes to its end, unless a pipe hangs and nobody
cancels.  It returns, with the first error of a task that was joined, be it that
of a crash; or it crashes, and this only with a call of the sink in the flush or
for a jitter that is no number.  Where the sink crashes in the flush, the session
does not return. -/
theorem returns_or_crashes_in_flush {stdout stderr : Option PipeScript} {sink : SinkBehaviour}
    {schedule : Schedule} (hready : plan.readyError = none)
    (hfair : Fair plan (create plan stdout stderr sink) schedule)
    (hends : (∀ source pipe, pipesOf stdout stderr source = some pipe → pipe.isAlive = true) ∨
      ∃ now, (course plan (create plan stdout stderr sink) schedule now).cancelled = true) :
    ∃ now session, course plan (create plan stdout stderr sink) schedule now = session ∧
      (session.main = .crashed ∧
          (CrashesInFlush session.journal ∨ plan.options.retry.jitter.isNaN = true) ∨
        ∃ result, session.main = .done result ∧ ¬ CrashesInFlush session.journal ∧
          (session.hasPipe = true →
            result = (session.joinErrors.head?.map Except.error).getD (.ok ()))) := by
  obtain ⟨now, hover⟩ := hfair.exists_isOver (live_create plan stdout stderr sink)
    (hends.imp_left (pipesAlive_create plan sink))
  have haccount : (course plan (create plan stdout stderr sink) schedule now).Accountable plan :=
    course_induction (accountable_create plan stdout stderr sink)
      (fun _ _ hbefore hmove => hbefore.move hready hmove) now
  refine ⟨now, _, rfl, ?_⟩
  generalize course plan (create plan stdout stderr sink) schedule now = session at hover haccount
  cases hmain : session.main with
  | done result =>
      refine Or.inr ⟨result, rfl, fun hcrashes => ?_, haccount.result_eq hready hmain⟩
      exact MainStage.noConfusion (hmain.symm.trans (haccount.last.crashed hcrashes))
  | crashed => exact Or.inl ⟨rfl, haccount.last.cause hmain⟩
  | _ => simp [isOver, hmain] at hover

/-- Two lines and a sink that crashes with the first call. -/
def drainCrashStart : Session :=
  create tightPlan (some [.data [97, 98, 10, 99, 100, 10], .data [101, 102, 10]]) none
    ⟨[⟨0, .crashed, 1⟩], []⟩

/-- The sink crashes under the drain, and the session returns with that. -/
theorem returns_of_drain_crash :
    tightPlan.readyError = none ∧ Fair tightPlan drainCrashStart (scheduleOf crashEvents) ∧
      ∃ now session, course tightPlan drainCrashStart (scheduleOf crashEvents) now = session ∧
        (session.main = .crashed ∧ (CrashesInFlush session.journal ∨
            tightPlan.options.retry.jitter.isNaN = true) ∨
          ∃ result, session.main = .done result ∧ ¬ CrashesInFlush session.journal ∧
            (session.hasPipe = true →
              result = (session.joinErrors.head?.map Except.error).getD (.ok ()))) := by
  have hover : (drainCrashStart.run? tightPlan crashEvents).map isOver = some true := by
    decide +kernel
  obtain ⟨session, hrun, hsession⟩ := Option.map_eq_some_iff.mp hover
  have hfair : Fair tightPlan drainCrashStart (scheduleOf crashEvents) :=
    fair_of_isOver (by rw [course_scheduleOf hrun]; exact hsession)
  have halive : ∀ source pipe,
      pipesOf (some [.data [97, 98, 10, 99, 100, 10], .data [101, 102, 10]]) none source =
        some pipe → pipe.isAlive = true :=
    forall_pipe_of_stdout rfl
  exact ⟨rfl, hfair, returns_or_crashes_in_flush rfl hfair (Or.inl halive)⟩

/-- One order of the steps of a session whose sink crashes under the drain and
then in the flush. -/
def flushCrashEvents : List SessionEvent :=
  [.main, .main, .reader .stdout, .reader .stdout, .reader .stdout, .reader .stdout, .drain,
    .drain, .reader .stdout, .reader .stdout, .reader .stdout, .join .drain,
    .join (.reader .stdout), .main, .main, .main]

/-- The drain has crashed with the first line, and the flush crashes with the
second one.  The error of the drain has been joined, and it is not returned. -/
theorem crashed_of_flush_crash :
    tightPlan.readyError = none ∧
      ∃ session, (create tightPlan (some [.data [97, 10, 98, 10]]) none
          ⟨[⟨0, .crashed, 2⟩], []⟩).run? tightPlan flushCrashEvents = some session ∧
        session.joinErrors = [.task TaskResult.crashText] ∧ session.verdict = .crashed := by
  have hview : ((create tightPlan (some [.data [97, 10, 98, 10]]) none
      ⟨[⟨0, .crashed, 2⟩], []⟩).run? tightPlan flushCrashEvents).map
        (fun session => (session.joinErrors, session.verdict)) =
      some ([.task TaskResult.crashText], .crashed) := by
    decide +kernel
  obtain ⟨session, hrun, hsession⟩ := Option.map_eq_some_iff.mp hview
  obtain ⟨herrors, hverdict⟩ := Prod.mk.inj hsession
  exact ⟨rfl, session, hrun, herrors, hverdict⟩

end Session

end LogRelay
