import LogRelay.Proofs.Tracer.Sampling
import Mathlib.Data.List.Induction

/-!
# Every amount is in one report

The amounts that are counted of one counter stand in a row.  The first of them are in the
reports, each in one, then come those in the sample being made, and last those that the
counter still holds.  A step puts an amount at the end of the row or moves a border, and
never takes anything away.
-/

namespace LogRelay

/-! ## Sums of words -/

/-- The sum of the amounts modulo two to the 64th. -/
def wordSum (amounts : List Nat) : UInt64 :=
  UInt64.ofNat (amounts.foldr (· + ·) 0)

theorem wordSum_nil : wordSum [] = 0 := by
  rfl

theorem wordSum_cons (amount : Nat) (amounts : List Nat) :
    wordSum (amount :: amounts) = UInt64.ofNat amount + wordSum amounts := by
  rw [wordSum, List.foldr_cons, UInt64.ofNat_add]
  rfl

theorem wordSum_append (front back : List Nat) :
    wordSum (front ++ back) = wordSum front + wordSum back := by
  induction front with
  | nil => rw [List.nil_append, wordSum_nil, UInt64.zero_add]
  | cons amount front ih =>
      rw [List.cons_append, wordSum_cons, wordSum_cons, ih, UInt64.add_assoc]

namespace Tracer

/-! ## One counter -/

/-- What the action counts of the counter. -/
def Action.amounts (action : Action) (counter : Counter) : List Nat :=
  match action with
  | .record other amount => if counter = other then [amount] else []
  | _ => []

/-- What has become of one counter.  `taken` tells whether the sample being made has taken it,
and `past` whether the last sample has. -/
structure Account where
  reports : List UInt64
  inHand : UInt64
  held : UInt64
  taken : Bool
  past : Bool

namespace Account

def count (account : Account) (amounts : List Nat) : Account :=
  { account with held := account.held + wordSum amounts }

/-- The sample being made takes the counter. -/
def take (account : Account) (last : Bool) : Account :=
  { account with inHand := account.held, held := 0, taken := true, past := last }

/-- The sample being made is complete. -/
def report (account : Account) : Account :=
  { account with reports := account.reports ++ [account.inHand], inHand := 0, taken := false }

/-- What a step that counts the amounts makes of one counter. -/
inductive Moves (account : Account) : List Nat → Account → Prop
  | counts (amounts : List Nat) : Moves account amounts (account.count amounts)
  | takes (last : Bool) (hfresh : account.taken = false) : Moves account [] (account.take last)
  | reports (htaken : account.taken = true) : Moves account [] account.report
  /-- The last counter of a sample completes it. -/
  | takesLast (last : Bool) (hfresh : account.taken = false) :
      Moves account [] (account.take last).report

theorem moves_rest (account : Account) : account.Moves [] account := by
  have hsame : account.count [] = account := by
    rw [count, wordSum_nil, UInt64.add_zero]
  have hmoves : account.Moves [] (account.count []) := .counts []
  rwa [hsame] at hmoves

end Account

end Tracer

/-- The sample being made has taken the counter. -/
def ReportStage.hasTaken (stage : ReportStage) (counter : Counter) : Bool :=
  match stage with
  | .taking next _ _ => counter.isBefore next
  | _ => false

theorem ReportStage.isPast_taking (next : Counter) (soFar : Counters) (last : Bool)
    (counter : Counter) :
    (ReportStage.taking next soFar last).isPast counter = (last && counter.isBefore next) := by
  cases last <;> rfl

theorem Counter.isBefore_read (counter : Counter) : counter.isBefore .read = false := by
  cases counter <;> rfl

/-- A tracer with what it has reported, in order. -/
structure Tracing where
  tracer : Tracer
  reports : List Counters

namespace Tracing

open Tracer

def start : Tracing := ⟨Tracer.create, []⟩

/-- An action that is not possible is passed over. -/
def advance (tracing : Tracing) (action : Action) : Tracing :=
  match tracing.tracer.step? action with
  | some (next, sample?) => ⟨next, tracing.reports ++ sample?.toList⟩
  | none => tracing

/-- What counting and reporting have come to after the actions, in the order in which they are
made. -/
def after (actions : List Action) : Tracing :=
  actions.foldl advance start

def account (tracing : Tracing) (counter : Counter) : Account where
  reports := tracing.reports.map (·.get counter)
  inHand := tracing.tracer.stage.inHand counter
  held := tracing.tracer.counters.get counter
  taken := tracing.tracer.stage.hasTaken counter
  past := tracing.tracer.stage.isPast counter

end Tracing

namespace Tracer

variable {tracer next : Tracer} {action : Action} {sample? : Option Counters}

theorem Action.wordSum_amounts (action : Action) (counter : Counter) :
    wordSum (action.amounts counter) = action.counted counter := by
  cases action with
  | record other amount =>
      rw [amounts, counted]
      split
      · rw [wordSum_cons, wordSum_nil, UInt64.add_zero]
      · rfl
  | stop | start | tick | conclude | take => rfl

/-- One counter is taken into the sample being made, and nothing becomes of the others. -/
theorem moves_take {taken later : Counter} {soFar : Counters} {last : Bool}
    (hstage : tracer.stage = .taking taken soFar last) (hself : taken.isBefore taken = false)
    (hlater : ∀ counter : Counter,
      counter.isBefore later = (counter.isBefore taken || decide (counter = taken)))
    (hcounters : next.counters = tracer.counters.set taken 0)
    (hnext : next.stage = .taking later (soFar.set taken (tracer.counters.get taken)) last)
    (reports : List Counters) (counter : Counter) :
    (Tracing.account ⟨tracer, reports⟩ counter).Moves []
      (Tracing.account ⟨next, reports⟩ counter) := by
  by_cases htaken : counter = taken
  · subst htaken
    have hfresh : (Tracing.account ⟨tracer, reports⟩ counter).taken = false := by
      simp only [Tracing.account, hstage, ReportStage.hasTaken, hself]
    have htake : Tracing.account ⟨next, reports⟩ counter =
        (Tracing.account ⟨tracer, reports⟩ counter).take last := by
      simp only [Tracing.account, Account.take, hcounters, hnext, ReportStage.inHand,
        ReportStage.hasTaken, ReportStage.isPast_taking, Counters.get_set, hlater, if_true,
        decide_true, Bool.or_true, Bool.and_true]
    rw [htake]
    exact .takes last hfresh
  · have hsame : Tracing.account ⟨next, reports⟩ counter =
        Tracing.account ⟨tracer, reports⟩ counter := by
      simp only [Tracing.account, hcounters, hnext, hstage, ReportStage.inHand,
        ReportStage.hasTaken, ReportStage.isPast_taking, Counters.get_set, hlater, htaken,
        if_false, decide_false, Bool.or_false]
    rw [hsame]
    exact Account.moves_rest _

/-- The last counter is taken, which completes the sample for all of them. -/
theorem moves_complete {soFar : Counters} {last : Bool}
    (hstage : tracer.stage = .taking .newlines soFar last)
    (hcounters : next.counters = tracer.counters.set .newlines 0)
    (hnext : next.stage = if last then .finished else .waiting) (reports : List Counters)
    (counter : Counter) :
    (Tracing.account ⟨tracer, reports⟩ counter).Moves []
      (Tracing.account
        ⟨next, reports ++ [soFar.set .newlines (tracer.counters.get .newlines)]⟩ counter) := by
  have hinHand : next.stage.inHand counter = 0 := by
    rw [hnext]
    cases last <;> rfl
  have htaken : next.stage.hasTaken counter = false := by
    rw [hnext]
    cases last <;> rfl
  have hpast : next.stage.isPast counter = last := by
    rw [hnext]
    cases last <;> rfl
  by_cases hlast : counter = .newlines
  · subst hlast
    have hfresh : (Tracing.account ⟨tracer, reports⟩ .newlines).taken = false := by
      simp only [Tracing.account, hstage, ReportStage.hasTaken, Counter.isBefore]
    simpa only [Tracing.account, Account.take, Account.report, hcounters, hinHand, htaken, hpast,
      Counters.get_set, if_true, List.map_append, List.map_cons, List.map_nil] using
      Account.Moves.takesLast last hfresh
  · have hbefore : counter.isBefore .newlines = true := by
      cases counter with
      | read | sent => rfl
      | newlines => exact absurd rfl hlast
    have hold : (Tracing.account ⟨tracer, reports⟩ counter).taken = true := by
      simp only [Tracing.account, hstage, ReportStage.hasTaken, hbefore]
    have holdPast : tracer.stage.isPast counter = last := by
      rw [hstage, ReportStage.isPast_taking, hbefore, Bool.and_true]
    have hsample : soFar.get counter = tracer.stage.inHand counter := by
      rw [hstage]
      rfl
    simpa only [Tracing.account, Account.report, hcounters, hinHand, htaken, hpast, holdPast,
      hsample, Counters.get_set, if_neg hlast, List.map_append, List.map_cons, List.map_nil] using
      Account.Moves.reports hold

/-- What a step makes of one counter. -/
theorem Step.account (hstep : tracer.Step action next sample?) (reports : List Counters)
    (counter : Counter) :
    (Tracing.account ⟨tracer, reports⟩ counter).Moves (action.amounts counter)
      (Tracing.account ⟨next, reports ++ sample?.toList⟩ counter) := by
  cases hstep with
  | records other amount =>
      have hcount : Tracing.account ⟨tracer.record other amount, reports⟩ counter =
          (Tracing.account ⟨tracer, reports⟩ counter).count
            (Action.amounts (.record other amount) counter) := by
        rw [Account.count, Action.wordSum_amounts]
        simp only [Tracing.account, Tracer.record, Counters.get_record, Action.counted]
      rw [Option.toList_none, List.append_nil, hcount]
      exact .counts _
  | hears =>
      rw [Option.toList_none, List.append_nil]
      exact Account.moves_rest _
  | starts hstage | ticks hstage | concludes hstage =>
      simp only [Tracing.account, hstage, ReportStage.inHand, ReportStage.hasTaken,
        ReportStage.isPast, Counters.get_zero, Counter.isBefore_read, Option.toList_none,
        List.append_nil, Action.amounts]
      exact Account.moves_rest _
  | takesRead soFar last hstage | takesSent soFar last hstage =>
      rw [Option.toList_none, List.append_nil]
      exact moves_take hstage rfl (fun counter => by cases counter <;> rfl) rfl rfl reports counter
  | reports soFar last hstage => exact moves_complete hstage rfl rfl reports counter

/-! ## Amounts -/

/-- The amounts that were counted of one counter, in order: those of each report, those in the
sample being made and those that the counter holds. -/
structure Parts where
  reported : List (List Nat)
  inHand : List Nat
  held : List Nat

namespace Parts

def count (parts : Parts) (amounts : List Nat) : Parts :=
  { parts with held := parts.held ++ amounts }

def take (parts : Parts) : Parts :=
  { parts with inHand := parts.held, held := [] }

def report (parts : Parts) : Parts :=
  { parts with reported := parts.reported ++ [parts.inHand], inHand := [] }

/-- The parts divide what was recorded, and every word of the account is the sum of its part.
The early amounts are those that the last sample must not miss. -/
structure Divide (parts : Parts) (early recorded : List Nat) (account : Account) : Prop where
  recorded_eq : parts.reported.flatten ++ parts.inHand ++ parts.held = recorded
  reports_eq : account.reports = parts.reported.map wordSum
  inHand_eq : account.inHand = wordSum parts.inHand
  held_eq : account.held = wordSum parts.held
  inHand_nil : account.taken = false → parts.inHand = []
  early_prefix : account.past = true → early <+: parts.reported.flatten ++ parts.inHand

variable {parts : Parts} {early recorded : List Nat} {account next : Account}

theorem Divide.count (hdivide : parts.Divide early recorded account) (amounts : List Nat) :
    (parts.count amounts).Divide early (recorded ++ amounts) (account.count amounts) where
  recorded_eq := by
    rw [← hdivide.recorded_eq]
    exact (List.append_assoc _ _ _).symm
  reports_eq := hdivide.reports_eq
  inHand_eq := hdivide.inHand_eq
  held_eq := by
    rw [Account.count, Parts.count, wordSum_append, hdivide.held_eq]
  inHand_nil := hdivide.inHand_nil
  early_prefix := hdivide.early_prefix

theorem Divide.take (hdivide : parts.Divide early recorded account) (hearly : early <+: recorded)
    (hfresh : account.taken = false) (last : Bool) :
    parts.take.Divide early recorded (account.take last) := by
  have hrecorded : parts.reported.flatten ++ parts.held = recorded := by
    rw [← hdivide.recorded_eq, hdivide.inHand_nil hfresh, List.append_nil]
  constructor
  case recorded_eq =>
    rw [Parts.take, List.append_nil]
    exact hrecorded
  case reports_eq => exact hdivide.reports_eq
  case inHand_eq => exact hdivide.held_eq
  case held_eq => rfl
  case inHand_nil => exact fun htaken => absurd htaken Bool.false_ne_true.symm
  case early_prefix =>
    intro _
    rw [Parts.take, hrecorded]
    exact hearly

theorem Divide.report (hdivide : parts.Divide early recorded account) :
    parts.report.Divide early recorded account.report := by
  have hflatten : parts.report.reported.flatten ++ [] = parts.reported.flatten ++ parts.inHand := by
    rw [Parts.report, List.flatten_concat, List.append_nil]
  constructor
  case recorded_eq =>
    rw [← hdivide.recorded_eq, ← hflatten]
    rfl
  case reports_eq =>
    rw [Account.report, Parts.report, hdivide.reports_eq, hdivide.inHand_eq, List.map_append]
    rfl
  case inHand_eq => rfl
  case held_eq => exact hdivide.held_eq
  case inHand_nil => exact fun _ => rfl
  case early_prefix =>
    intro hpast
    have hprefix := hdivide.early_prefix hpast
    rw [← hflatten] at hprefix
    exact hprefix

/-- A step divides what was recorded before it and what it counts itself. -/
theorem Divide.exists_next {amounts : List Nat} (hdivide : parts.Divide early recorded account)
    (hearly : early <+: recorded) (hmoves : account.Moves amounts next) :
    ∃ parts : Parts, parts.Divide early (recorded ++ amounts) next := by
  cases hmoves with
  | counts => exact ⟨_, hdivide.count amounts⟩
  | takes last hfresh =>
      rw [List.append_nil]
      exact ⟨_, hdivide.take hearly hfresh last⟩
  | reports htaken =>
      rw [List.append_nil]
      exact ⟨_, hdivide.report⟩
  | takesLast last hfresh =>
      rw [List.append_nil]
      exact ⟨_, (hdivide.take hearly hfresh last).report⟩

/-- Nothing is missed yet while the last sample has not taken the counter. -/
theorem Divide.all_early (hdivide : parts.Divide early recorded account)
    (hpast : account.past = false) : parts.Divide recorded recorded account :=
  { hdivide with early_prefix := fun htrue => absurd (hpast.symm.trans htrue) Bool.false_ne_true }

/-- The words of an account add up to the sum of all that was recorded. -/
theorem Divide.sum_eq (hdivide : parts.Divide early recorded account) :
    wordSum parts.reported.flatten + account.inHand + account.held = wordSum recorded := by
  rw [hdivide.inHand_eq, hdivide.held_eq, ← wordSum_append, ← wordSum_append, hdivide.recorded_eq]

end Parts

end Tracer

/-- The sum of the reports is the sum of the amounts in them. -/
theorem Counters.get_foldl_add (counter : Counter) {reports : List Counters}
    {reported : List (List Nat)}
    (hreports : reports.map (·.get counter) = reported.map wordSum) (sum : Counters) :
    (reports.foldl Counters.add sum).get counter =
      sum.get counter + wordSum reported.flatten := by
  induction reports generalizing reported sum with
  | nil =>
      have hnil : reported = [] := List.map_eq_nil_iff.mp hreports.symm
      rw [hnil, List.foldl_nil, List.flatten_nil, wordSum_nil, UInt64.add_zero]
  | cons report reports ih =>
      cases reported with
      | nil => exact absurd hreports (List.cons_ne_nil _ _)
      | cons amounts reported =>
          rw [List.map_cons, List.map_cons, List.cons.injEq] at hreports
          rw [List.foldl_cons, ih hreports.2, get_add, hreports.1, List.flatten_cons,
            wordSum_append, UInt64.add_assoc]

namespace Tracing

open Tracer

/-! ## Runs -/

/-- What the actions count of the counter, in order. -/
def amounts (counter : Counter) (actions : List Action) : List Nat :=
  actions.flatMap (·.amounts counter)

theorem amounts_append (counter : Counter) (front back : List Action) :
    amounts counter (front ++ back) = amounts counter front ++ amounts counter back :=
  List.flatMap_append

theorem amounts_singleton (counter : Counter) (action : Action) :
    amounts counter [action] = action.amounts counter :=
  List.flatMap_singleton _ _

theorem after_append (front back : List Action) :
    after (front ++ back) = back.foldl advance (after front) :=
  List.foldl_append

theorem after_concat (actions : List Action) (action : Action) :
    after (actions ++ [action]) = (after actions).advance action :=
  after_append actions [action]

/-- An action either is a step or changes nothing and counts nothing. -/
theorem advance_cases (tracing : Tracing) (action : Action) :
    (tracing.advance action = tracing ∧ ∀ counter, action.amounts counter = []) ∨
      ∃ next sample?, tracing.tracer.Step action next sample? ∧
        tracing.advance action = ⟨next, tracing.reports ++ sample?.toList⟩ := by
  rw [advance]
  cases hstep : tracing.tracer.step? action with
  | none =>
      refine Or.inl ⟨rfl, fun counter => ?_⟩
      cases action with
      | record => exact absurd hstep (Option.some_ne_none _)
      | stop | start | tick | conclude | take => rfl
  | some result => exact Or.inr ⟨result.1, result.2, step_of_step? hstep, rfl⟩

/-- What an action makes of one counter. -/
theorem moves_advance (tracing : Tracing) (action : Action) (counter : Counter) :
    (tracing.account counter).Moves (action.amounts counter)
      ((tracing.advance action).account counter) := by
  rcases tracing.advance_cases action with ⟨hsame, hnone⟩ | ⟨next, sample?, hstep, hnext⟩
  · rw [hsame, hnone]
    exact Account.moves_rest _
  · rw [hnext]
    exact hstep.account tracing.reports counter

/-- However a run goes on, it divides what is recorded. -/
theorem exists_divide_append {early : List Nat} {counter : Counter} {actions : List Action}
    {parts : Parts}
    (hdivide : parts.Divide early (amounts counter actions) ((after actions).account counter))
    (hearly : early <+: amounts counter actions) (late : List Action) :
    ∃ parts : Parts, parts.Divide early (amounts counter (actions ++ late))
      ((after (actions ++ late)).account counter) := by
  induction late using List.reverseRecOn with
  | nil =>
      rw [List.append_nil]
      exact ⟨parts, hdivide⟩
  | append_singleton late action ih =>
      obtain ⟨parts, hparts⟩ := ih
      have hprefix : early <+: amounts counter (actions ++ late) := by
        rw [amounts_append]
        exact hearly.trans (List.prefix_append _ _)
      rw [← List.append_assoc, amounts_append, amounts_singleton, after_concat]
      exact hparts.exists_next hprefix (moves_advance _ action counter)

/-! ## Shutdown -/

/-- The task has not been told to stop and does not make the last sample. -/
def IsGoing (tracing : Tracing) : Prop :=
  tracing.tracer.stopping = false ∧ tracing.tracer.stage.isClosing = false

theorem IsGoing.advance {tracing : Tracing} (hgoing : tracing.IsGoing) {action : Action}
    (hstop : action ≠ .stop) : (tracing.advance action).IsGoing := by
  rcases tracing.advance_cases action with ⟨hsame, -⟩ | ⟨next, sample?, hstep, hnext⟩
  · rw [hsame]
    exact hgoing
  · obtain ⟨hstopping, hclosing⟩ := hgoing
    rw [hnext]
    cases hstep with
    | hears => exact absurd rfl hstop
    | records => exact ⟨hstopping, hclosing⟩
    | starts | ticks => exact ⟨hstopping, rfl⟩
    | concludes hstage htold => exact absurd (hstopping.symm.trans htold) Bool.false_ne_true
    | takesRead soFar last hstage | takesSent soFar last hstage | reports soFar last hstage =>
        rw [hstage] at hclosing
        cases last with
        | true => exact absurd hclosing Bool.false_ne_true.symm
        | false => exact ⟨hstopping, rfl⟩

theorem isGoing_after {actions : List Action} (hstop : Action.stop ∉ actions) :
    (after actions).IsGoing := by
  induction actions using List.reverseRecOn with
  | nil => exact ⟨rfl, rfl⟩
  | append_singleton actions action ih =>
      rw [List.mem_append, List.mem_singleton, not_or] at hstop
      rw [after_concat]
      exact (ih hstop.1).advance (Ne.symm hstop.2)

/-- An action appends to the reports, and the last sample is among them when the task has
finished. -/
theorem exists_reports_advance (tracing : Tracing) (action : Action) :
    ∃ more, (tracing.advance action).reports = tracing.reports ++ more ∧
      ((tracing.advance action).tracer.stage = .finished →
        tracing.tracer.stage = .finished ∨ more ≠ []) := by
  rcases tracing.advance_cases action with ⟨hsame, -⟩ | ⟨next, sample?, hstep, hnext⟩
  · rw [hsame]
    exact ⟨[], (List.append_nil _).symm, Or.inl⟩
  · rw [hnext]
    refine ⟨sample?.toList, rfl, fun hfinished => ?_⟩
    cases hstep with
    | records | hears => exact Or.inl hfinished
    | starts | ticks | concludes | takesRead | takesSent =>
        exact absurd hfinished ReportStage.noConfusion
    | reports => exact Or.inr (List.cons_ne_nil _ _)

/-- When the task has finished, it has reported since it was going. -/
theorem exists_reports_append {early : List Action} (hgoing : (after early).IsGoing)
    (late : List Action) :
    ∃ more, (after (early ++ late)).reports = (after early).reports ++ more ∧
      ((after (early ++ late)).tracer.stage = .finished → more ≠ []) := by
  induction late using List.reverseRecOn with
  | nil =>
      rw [List.append_nil]
      refine ⟨[], (List.append_nil _).symm, fun hfinished => ?_⟩
      have hclosing := hgoing.2
      rw [hfinished] at hclosing
      exact absurd hclosing Bool.false_ne_true.symm
  | append_singleton late action ih =>
      obtain ⟨more, hmore, hsome⟩ := ih
      obtain ⟨new, hnew, hlast⟩ := (after (early ++ late)).exists_reports_advance action
      rw [← List.append_assoc, after_concat]
      refine ⟨more ++ new, by rw [hnew, hmore, List.append_assoc], fun hfinished => ?_⟩
      rcases hlast hfinished with hbefore | hnonempty
      · exact List.append_ne_nil_of_left_ne_nil (hsome hbefore) _
      · exact List.append_ne_nil_of_right_ne_nil _ hnonempty

/-- What holds of a run that is not told to stop before the late actions. -/
structure IsAccounted (early late : List Action) : Prop where
  /-- Every amount is in one report, in the sample being made or in the counter.  When the task
  has finished, there is no sample being made, and all early amounts are in the reports. -/
  divided : ∀ counter, ∃ parts : Parts,
    parts.Divide (amounts counter early) (amounts counter (early ++ late))
        ((after (early ++ late)).account counter) ∧
      ((after (early ++ late)).tracer.stage = .finished →
        parts.inHand = [] ∧ amounts counter early <+: parts.reported.flatten)
  /-- Modulo two to the 64th, nothing is lost and nothing is counted twice. -/
  balanced : ∀ counter,
    ((after (early ++ late)).reports.foldl Counters.add Counters.zero).get counter +
        (after (early ++ late)).tracer.stage.inHand counter +
        (after (early ++ late)).tracer.counters.get counter =
      wordSum (amounts counter (early ++ late))
  /-- When the task has finished, its last report is among the late actions. -/
  last_late : (after (early ++ late)).tracer.stage = .finished →
    ∃ between last, (after (early ++ late)).reports = (after early).reports ++ between ++ [last]

theorem divide_start (counter : Counter) :
    Parts.Divide ⟨[], [], []⟩ [] (amounts counter []) ((after []).account counter) where
  recorded_eq := rfl
  reports_eq := rfl
  inHand_eq := rfl
  held_eq := Counters.get_zero counter
  inHand_nil _ := rfl
  early_prefix _ := List.nil_prefix

theorem exists_divide (counter : Counter) {early : List Action} (hearly : Action.stop ∉ early)
    (late : List Action) : ∃ parts : Parts,
    parts.Divide (amounts counter early) (amounts counter (early ++ late))
      ((after (early ++ late)).account counter) := by
  obtain ⟨parts, hparts⟩ := exists_divide_append (divide_start counter) List.nil_prefix early
  rw [List.nil_append] at hparts
  have hpast : ((after early).account counter).past = false := by
    by_contra hpast
    have hclosing := ReportStage.isClosing_of_isPast (eq_true_of_ne_false hpast)
    exact Bool.false_ne_true ((isGoing_after hearly).2.symm.trans hclosing)
  exact exists_divide_append (hparts.all_early hpast) (List.prefix_refl _) late

/-- Wherever a run is cut before the task is told to stop, it is accounted for. -/
theorem isAccounted {early : List Action} (hearly : Action.stop ∉ early) (late : List Action) :
    IsAccounted early late := by
  constructor
  case divided =>
    intro counter
    obtain ⟨parts, hparts⟩ := exists_divide counter hearly late
    refine ⟨parts, hparts, fun hfinished => ?_⟩
    have hnone : parts.inHand = [] := by
      apply hparts.inHand_nil
      rw [account, hfinished]
      rfl
    have hprefix : amounts counter early <+: parts.reported.flatten ++ parts.inHand := by
      apply hparts.early_prefix
      rw [account, hfinished]
      rfl
    rw [hnone, List.append_nil] at hprefix
    exact ⟨hnone, hprefix⟩
  case balanced =>
    intro counter
    obtain ⟨parts, hparts⟩ := exists_divide counter hearly late
    rw [Counters.get_foldl_add counter hparts.reports_eq, Counters.get_zero, UInt64.zero_add]
    exact hparts.sum_eq
  case last_late =>
    intro hfinished
    obtain ⟨more, hreports, hsome⟩ := exists_reports_append (isGoing_after hearly) late
    refine ⟨more.dropLast, more.getLast (hsome hfinished), ?_⟩
    rw [List.append_assoc, List.dropLast_concat_getLast, hreports]

end Tracing

end LogRelay
