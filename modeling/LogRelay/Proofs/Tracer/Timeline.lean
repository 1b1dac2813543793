import LogRelay.Proofs.Tracer.Finishing
import LogRelay.Tracer.Timeline

/-!
# The timeline reports what the steps report

On the timeline a sample is taken at one instant.  It is the run of steps in which nothing is
counted while the counters of a sample are taken, and in which the task hears at once that it
is to stop.  So what holds of the samples of every run holds of those on the timeline, for
every length of the intervals.
-/

namespace LogRelay

namespace TracerTimeline

open Tracer Tracing

/-- What is counted then, as an action. -/
def Count.action (count : Count) : Action :=
  .record count.counter count.amount

def Count.isBy (time : Nat) (count : Count) : Bool :=
  count.time ≤ time

/-- The counts in front of the first that is later. -/
def countsUpTo (time : Nat) (counts : List Count) : List Count :=
  counts.takeWhile (Count.isBy time)

/-- The end of an interval and the sample after it. -/
def ticking : List Action :=
  [.tick, .take, .take, .take]

/-- The shutdown and the last sample after it. -/
def concluding : List Action :=
  [.stop, .conclude, .take, .take, .take]

/-- The task waits for the end of an interval, with these counters. -/
def idle (counters : Counters) (reports : List Report) : Tracing :=
  ⟨⟨counters, .waiting, false⟩, reports.map Report.sample⟩

theorem number_le_tickTime (period : Duration) (number : Nat) :
    number ≤ tickTime period number := by
  have hmillis : 0 < nanosPerMilli := by decide
  have hinterval : number * nanosPerMilli ≤ number * max period.nanos nanosPerMilli :=
    Nat.mul_le_mul_left number (Nat.le_max_right _ _)
  rw [tickTime, Nat.le_div_iff_mul_le hmillis]
  exact Nat.le_add_right_of_le hinterval

theorem countsUpTo_append (counts : List Count) {early late : Nat} (hle : early ≤ late) :
    countsUpTo early counts ++ countsUpTo late (counts.dropWhile (Count.isBy early)) =
      countsUpTo late counts := by
  induction counts with
  | nil => rfl
  | cons count counts ih =>
      by_cases htime : count.time ≤ early
      · have hearly : Count.isBy early count = true := decide_eq_true htime
        have hlate : Count.isBy late count = true := decide_eq_true (Nat.le_trans htime hle)
        rw [countsUpTo, countsUpTo, countsUpTo, List.takeWhile_cons_of_pos hearly,
          List.dropWhile_cons_of_pos hearly, List.takeWhile_cons_of_pos hlate, List.cons_append]
        exact congrArg _ ih
      · have hlater : ¬ Count.isBy early count = true := fun hby => htime (of_decide_eq_true hby)
        rw [countsUpTo, List.takeWhile_cons_of_neg hlater, List.dropWhile_cons_of_neg hlater,
          List.nil_append]

/-- What the timeline counts up to some time, step by step. -/
theorem foldl_countsUpTo (time : Nat) (counts : List Count) (tracer : Tracer)
    (reports : List Report) :
    ((countsUpTo time counts).map Count.action).foldl advance (idle tracer.counters reports) =
        idle (countUpTo time tracer counts).1.counters reports ∧
      (countUpTo time tracer counts).2 = counts.dropWhile (Count.isBy time) := by
  induction counts generalizing tracer with
  | nil => exact ⟨rfl, rfl⟩
  | cons count counts ih =>
      by_cases htime : count.time ≤ time
      · have hby : Count.isBy time count = true := decide_eq_true htime
        have hrecord : (idle tracer.counters reports).advance count.action =
            idle (tracer.record count.counter count.amount).counters reports := by
          rw [advance]
          simp only [Count.action, step?, Option.toList_none, List.append_nil]
          rfl
        rw [countsUpTo, List.takeWhile_cons_of_pos hby, List.dropWhile_cons_of_pos hby, countUpTo,
          if_pos htime, List.map_cons, List.foldl_cons, hrecord]
        exact ih (tracer.record count.counter count.amount)
      · have hlater : ¬ Count.isBy time count = true := fun hby => htime (of_decide_eq_true hby)
        rw [countsUpTo, List.takeWhile_cons_of_neg hlater, List.dropWhile_cons_of_neg hlater,
          countUpTo, if_neg htime]
        exact ⟨rfl, rfl⟩

theorem foldl_ticking (counters : Counters) (reports : List Report) (time : Nat) :
    ticking.foldl advance (idle counters reports) =
      idle Counters.zero (reports ++ [⟨time, counters⟩]) := by
  simp [idle, ticking, advance, step?, take, Counters.set, Counters.get, Counters.zero]

theorem foldl_concluding (counters : Counters) (reports : List Report) (time : Nat) :
    concluding.foldl advance (idle counters reports) =
      ⟨⟨Counters.zero, .finished, true⟩,
        (reports ++ [Report.mk time counters]).map Report.sample⟩ := by
  simp [idle, concluding, advance, step?, take, Counters.set, Counters.get, Counters.zero]

/-- The reports are those of a run of steps that is told to stop behind the actions and then
takes its last sample. -/
structure AreReports (stopAt : Nat) (actions : List Action) (reports : List Report) : Prop where
  not_told : Action.stop ∉ actions
  after_eq : after (actions ++ concluding) =
    ⟨⟨Counters.zero, .finished, true⟩, reports.map Report.sample⟩
  /-- The last report, and no other one, is made at the time of the shutdown. -/
  last_at : ∃ earlier sample, reports = earlier ++ [⟨stopAt, sample⟩] ∧
    ∀ report ∈ earlier, report.time < stopAt

theorem stop_not_mem_action (counts : List Count) :
    Action.stop ∉ counts.map Count.action := by
  intro hmem
  obtain ⟨count, -, haction⟩ := List.mem_map.mp hmem
  exact absurd haction Tracer.Action.noConfusion

theorem reportFrom_succ (period : Duration) (stopAt : Nat) (reports : List Report)
    (fuel number : Nat) (tracer : Tracer) (counts : List Count) :
    reportFrom period stopAt reports (fuel + 1) number tracer counts =
      let now := min (tickTime period number) stopAt
      let counted := countUpTo now tracer counts
      if tickTime period number < stopAt then
        reportFrom period stopAt (⟨now, counted.1.counters⟩ :: reports) fuel (number + 1)
          counted.1.sample.1 counted.2
      else (⟨now, counted.1.counters⟩ :: reports).reverse :=
  rfl

/-- From any moment at which the task waits, the timeline goes on like a run of steps. -/
theorem exists_areReports_of_reportFrom (period : Duration) (stopAt : Nat) {fuel number : Nat}
    (hfuel : number + fuel = stopAt + 2) (hnumber : number ≤ stopAt + 1) (tracer : Tracer)
    (counts : List Count) {reports : List Report}
    (hearlier : ∀ report ∈ reports, report.time < stopAt) {actions : List Action}
    (hstop : Action.stop ∉ actions)
    (hafter : after actions = idle tracer.counters reports.reverse) :
    ∃ more, AreReports stopAt (actions ++ more)
        (reportFrom period stopAt reports fuel number tracer counts) ∧
      ∀ counter, amounts counter more =
        amounts counter ((countsUpTo stopAt counts).map Count.action) := by
  induction fuel generalizing number tracer counts reports actions with
  | zero => omega
  | succ fuel ih =>
      rw [reportFrom_succ]
      dsimp only
      obtain ⟨hcounted, hrest⟩ :=
        foldl_countsUpTo (min (tickTime period number) stopAt) counts tracer reports.reverse
      by_cases htime : tickTime period number < stopAt
      · have hnext : number + 1 + fuel = stopAt + 2 := by omega
        have hless : number + 1 ≤ stopAt + 1 :=
          Nat.succ_le_succ (Nat.le_trans (number_le_tickTime period number) (Nat.le_of_lt htime))
        rw [Nat.min_eq_left (Nat.le_of_lt htime)] at hcounted hrest ⊢
        rw [if_pos htime]
        generalize tickTime period number = now at htime hcounted hrest ⊢
        let counting := (countsUpTo now counts).map Count.action ++ ticking
        have hcounting : Action.stop ∉ actions ++ counting := by
          simp only [counting, List.mem_append, not_or]
          exact ⟨hstop, stop_not_mem_action _, by decide⟩
        have hidle : after (actions ++ counting) = idle Counters.zero
            (⟨now, (countUpTo now tracer counts).1.counters⟩ :: reports).reverse := by
          rw [after_append, List.foldl_append, hafter, hcounted, foldl_ticking _ _ now,
            List.reverse_cons]
        obtain ⟨more, hreports, hamounts⟩ := ih hnext hless (countUpTo now tracer counts).1.sample.1
          (countUpTo now tracer counts).2 (List.forall_mem_cons.mpr ⟨htime, hearlier⟩) hcounting
          hidle
        rw [List.append_assoc] at hreports
        refine ⟨counting ++ more, hreports, fun counter => ?_⟩
        have hticking : amounts counter ticking = [] := rfl
        rw [amounts_append, amounts_append, hamounts, hrest, hticking, List.append_nil,
          ← countsUpTo_append counts (Nat.le_of_lt htime), List.map_append, amounts_append]
      · rw [Nat.min_eq_right (Nat.le_of_not_lt htime)] at hcounted hrest ⊢
        rw [if_neg htime]
        refine ⟨(countsUpTo stopAt counts).map Count.action, ?_, fun _ => rfl⟩
        constructor
        case not_told =>
          rw [List.mem_append, not_or]
          exact ⟨hstop, stop_not_mem_action _⟩
        case after_eq =>
          rw [after_append, after_append, hafter, hcounted, foldl_concluding _ _ stopAt,
            List.reverse_cons]
        case last_at =>
          refine ⟨reports.reverse, _, List.reverse_cons, fun report hmem => ?_⟩
          exact hearlier report (List.mem_reverse.mp hmem)

/-- The reports of the timeline are those of a run of steps that counts what is counted up to
the shutdown. -/
theorem exists_areReports_run (period : Duration) (stopAt : Nat) (counts : List Count) :
    ∃ actions, AreReports stopAt actions (run period stopAt counts) ∧
      ∀ counter, amounts counter actions =
        amounts counter ((countsUpTo stopAt counts).map Count.action) := by
  have hstart : after [.start] = idle Tracer.create.counters [] := rfl
  have hstop : Action.stop ∉ [Action.start] := by decide
  obtain ⟨more, hreports, hamounts⟩ := exists_areReports_of_reportFrom period stopAt
    (Nat.add_comm 1 (stopAt + 1)) (Nat.le_add_left 1 stopAt) Tracer.create counts
    (List.forall_mem_nil _) hstop hstart
  exact ⟨.start :: more, hreports, hamounts⟩

/-- The reports of the timeline come to all that is counted up to the shutdown. -/
theorem AreReports.total_eq {stopAt : Nat} {actions : List Action} {reports : List Report}
    (hreports : AreReports stopAt actions reports) (counter : Counter) :
    (total reports).get counter = wordSum (amounts counter actions) := by
  have hbalanced := (isAccounted hreports.not_told concluding).balanced counter
  have hconcluding : amounts counter concluding = [] := rfl
  rw [hreports.after_eq, List.foldl_map, amounts_append, hconcluding, List.append_nil] at hbalanced
  rw [← hbalanced]
  simp [total, ReportStage.inHand]

end TracerTimeline

namespace Tracing

open Tracer TracerTimeline

/-- Samples divide what is counted.  However counting, the reporting task and a shutdown fall
together, every amount is in one report or still held, and what is recorded before the shutdown
is reported when the task has finished.  If the task is not kept from its steps for ever, it
finishes, and it reports behind the shutdown.  This is so on the timeline, whatever the length
of the intervals. -/
theorem samples_divide_counts :
    (∀ early late, Action.stop ∉ early → IsAccounted early late) ∧
    (∀ schedule told, IsFair schedule → schedule told = .stop →
      (∀ before < told, schedule before ≠ .stop) →
      ∃ now, (course schedule now).tracer.stage = .finished ∧
        ∃ between last, (course schedule now).reports =
          (course schedule told).reports ++ between ++ [last]) ∧
    ∀ period stopAt counts, ∃ actions,
      AreReports stopAt actions (run period stopAt counts) ∧
      ∀ counter,
        amounts counter actions = amounts counter ((countsUpTo stopAt counts).map Count.action) ∧
        (total (run period stopAt counts)).get counter = wordSum (amounts counter actions) := by
  refine ⟨fun early late hearly => isAccounted hearly late,
    fun schedule told hfair htold hfirst => hfair.exists_last_report htold hfirst,
    fun period stopAt counts => ?_⟩
  obtain ⟨actions, hreports, hamounts⟩ := exists_areReports_run period stopAt counts
  exact ⟨actions, hreports, fun counter => ⟨hamounts counter, hreports.total_eq counter⟩⟩

/-- A shutdown before the task runs for the first time, and something counted while the last
sample is taken. -/
def hurried : List Action :=
  [.record .read 5, .stop, .start, .conclude, .take, .record .read 7, .record .sent 3, .take,
    .take]

theorem samples_divide_counts_of_hurried :
    (∃ now, (course (hurried.getD · .tick) now).tracer.stage = .finished ∧
      ∃ between last, (course (hurried.getD · .tick) now).reports = between ++ [last]) ∧
    IsAccounted [.record .read 5] hurried.tail := by
  obtain ⟨haccounted, hfinishes, -⟩ := samples_divide_counts
  have hend : (course (hurried.getD · .tick) 9).tracer.stage = .finished := rfl
  have hfair : IsFair (hurried.getD · .tick) := isFair_of_finished hend
  have hfirst : ∀ before < 1, hurried.getD before .tick ≠ .stop := by decide
  exact ⟨hfinishes _ 1 hfair rfl hfirst, haccounted _ _ (by decide)⟩

end Tracing

end LogRelay
