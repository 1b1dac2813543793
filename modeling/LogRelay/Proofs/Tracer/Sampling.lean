import LogRelay.Tracer

/-!
# Samples lose nothing that is counted

The reporting task takes the counters of a sample one after the other, and counting
goes on in between.  What has been counted and not reported is in the counters or in
the sample being made; a step moves it from there into a report and changes nothing
else.  When the last sample is complete and nothing was counted since it was begun,
nothing is left.
-/

namespace LogRelay

namespace Counters

@[simp]
theorem get_zero (counter : Counter) : zero.get counter = 0 := by
  cases counter <;> rfl

theorem get_set (counters : Counters) (counter other : Counter) (value : UInt64) :
    (counters.set counter value).get other =
      if other = counter then value else counters.get other := by
  cases counter <;> cases other <;> rfl

theorem get_record (counters : Counters) (counter other : Counter) (amount : Nat) :
    (counters.record counter amount).get other =
      counters.get other + if other = counter then UInt64.ofNat amount else 0 := by
  rw [record, get_set]
  split
  · next heq => rw [heq]
  · rw [UInt64.add_zero]

theorem get_add (left right : Counters) (counter : Counter) :
    (left.add right).get counter = left.get counter + right.get counter := by
  cases counter <;> rfl

/-- Taking a counter moves it into the sample. -/
theorem get_taken {soFar : Counters} {taken : Counter} (counters : Counters)
    (hnone : soFar.get taken = 0) (counter : Counter) :
    (counters.set taken 0).get counter + (soFar.set taken (counters.get taken)).get counter =
      counters.get counter + soFar.get counter := by
  rw [get_set, get_set]
  split
  · next heq => rw [heq, hnone, UInt64.zero_add, UInt64.add_zero]
  · rfl

theorem ext_get {left right : Counters} (hget : ∀ counter, left.get counter = right.get counter) :
    left = right := by
  have hread := hget .read
  have hsent := hget .sent
  have hnewlines := hget .newlines
  cases left
  cases right
  simp only [get] at hread hsent hnewlines
  rw [hread, hsent, hnewlines]

end Counters

/-- The counter is taken before the other one in every sample. -/
def Counter.isBefore : Counter → Counter → Bool
  | .read, .sent | .read, .newlines | .sent, .newlines => true
  | _, _ => false

namespace ReportStage

/-- What the sample being made has of the counter. -/
def inHand (stage : ReportStage) (counter : Counter) : UInt64 :=
  match stage with
  | .taking _ soFar _ => soFar.get counter
  | _ => 0

/-- The sample being made has nothing of the counters that are still to be taken. -/
def IsFresh : ReportStage → Prop
  | .taking next soFar _ => ∀ counter, counter.isBefore next = false → soFar.get counter = 0
  | _ => True

/-- The last sample is being made or has been made. -/
def isClosing : ReportStage → Bool
  | .taking _ _ true | .finished => true
  | _ => false

/-- The last sample has taken the counter. -/
def isPast (stage : ReportStage) (counter : Counter) : Bool :=
  match stage with
  | .taking next _ true => counter.isBefore next
  | .finished => true
  | _ => false

theorem isClosing_of_isPast {stage : ReportStage} {counter : Counter}
    (hpast : stage.isPast counter = true) : stage.isClosing = true := by
  cases stage with
  | taking next soFar last =>
      cases last with
      | true => rfl
      | false => exact hpast
  | finished => rfl
  | starting | waiting => exact hpast

end ReportStage

namespace Tracer

variable {tracer next : Tracer} {action : Action} {sample? : Option Counters}

/-- What has been counted of the counter and not been reported. -/
def unreported (tracer : Tracer) (counter : Counter) : UInt64 :=
  tracer.counters.get counter + tracer.stage.inHand counter

/-- Nothing has been counted that the last sample has missed. -/
def IsSpent (tracer : Tracer) : Prop :=
  ∀ counter, tracer.stage.isPast counter = true → tracer.counters.get counter = 0

/-- A step of the reporting task itself. -/
def Action.isOwn : Action → Bool
  | .record _ _ | .stop => false
  | _ => true

/-- How much the action counts. -/
def Action.counted (action : Action) (counter : Counter) : UInt64 :=
  match action with
  | .record other amount => if counter = other then UInt64.ofNat amount else 0
  | _ => 0

theorem Action.counted_of_isOwn (hown : action.isOwn = true) (counter : Counter) :
    action.counted counter = 0 := by
  cases action <;> first | rfl | exact absurd hown Bool.false_ne_true

/-- A step of the counters or of the task that reports them, with the sample that it
completes. -/
inductive Step (tracer : Tracer) : Action → Tracer → Option Counters → Prop where
  | records (counter : Counter) (amount : Nat) :
      Step tracer (.record counter amount) (tracer.record counter amount) none
  | hears : Step tracer .stop { tracer with stopping := true } none
  | starts (hstage : tracer.stage = .starting) :
      Step tracer .start { tracer with stage := .waiting } none
  | ticks (hstage : tracer.stage = .waiting) :
      Step tracer .tick { tracer with stage := .taking .read Counters.zero false } none
  | concludes (hstage : tracer.stage = .waiting) (hstopping : tracer.stopping = true) :
      Step tracer .conclude { tracer with stage := .taking .read Counters.zero true } none
  | takesRead (soFar : Counters) (last : Bool) (hstage : tracer.stage = .taking .read soFar last) :
      Step tracer .take
        { tracer with
          counters := tracer.counters.set .read 0
          stage := .taking .sent (soFar.set .read (tracer.counters.get .read)) last } none
  | takesSent (soFar : Counters) (last : Bool) (hstage : tracer.stage = .taking .sent soFar last) :
      Step tracer .take
        { tracer with
          counters := tracer.counters.set .sent 0
          stage := .taking .newlines (soFar.set .sent (tracer.counters.get .sent)) last } none
  /-- The third counter completes the sample. -/
  | reports (soFar : Counters) (last : Bool)
      (hstage : tracer.stage = .taking .newlines soFar last) :
      Step tracer .take
        { tracer with
          counters := tracer.counters.set .newlines 0
          stage := if last then .finished else .waiting }
        (some (soFar.set .newlines (tracer.counters.get .newlines)))

theorem step_of_step? (hstep : tracer.step? action = some (next, sample?)) :
    tracer.Step action next sample? := by
  cases action with
  | record counter amount =>
      cases hstep
      exact .records counter amount
  | stop =>
      cases hstep
      exact .hears
  | start =>
      simp only [step?, Option.ite_none_right_eq_some] at hstep
      obtain ⟨hstage, hnext⟩ := hstep
      cases hnext
      exact .starts hstage
  | tick =>
      simp only [step?, Option.ite_none_right_eq_some] at hstep
      obtain ⟨hstage, hnext⟩ := hstep
      cases hnext
      exact .ticks hstage
  | conclude =>
      simp only [step?, Option.ite_none_right_eq_some] at hstep
      obtain ⟨⟨hstage, hstopping⟩, hnext⟩ := hstep
      cases hnext
      exact .concludes hstage hstopping
  | take =>
      rw [step?] at hstep
      split at hstep
      · next counter soFar last hstage =>
          cases counter with
          | read =>
              cases hstep
              exact .takesRead soFar last hstage
          | sent =>
              cases hstep
              exact .takesSent soFar last hstage
          | newlines =>
              cases hstep
              exact .reports soFar last hstage
      · exact absurd hstep (Option.some_ne_none _).symm

theorem Step.isFresh (hstep : tracer.Step action next sample?) (hfresh : tracer.stage.IsFresh) :
    next.stage.IsFresh := by
  cases hstep with
  | records | hears => exact hfresh
  | starts => trivial
  | ticks | concludes => exact fun counter _ => Counters.get_zero counter
  | takesRead soFar last hstage | takesSent soFar last hstage =>
      rw [hstage, ReportStage.IsFresh] at hfresh
      intro counter hlater
      rw [Counters.get_set]
      cases counter <;> simp_all [Counter.isBefore]
  | reports soFar last =>
      dsimp only
      split <;> trivial

/-- Whatever is counted comes to the counters, and a sample takes from there what it
reports. -/
theorem Step.unreported_add (hstep : tracer.Step action next sample?)
    (hfresh : tracer.stage.IsFresh) (counter : Counter) :
    next.unreported counter + (sample?.map (·.get counter)).getD 0 =
      tracer.unreported counter + action.counted counter := by
  cases hstep with
  | records other amount =>
      simp only [unreported, Tracer.record, Counters.get_record, Action.counted, Option.map_none,
        Option.getD_none, UInt64.add_zero]
      rw [UInt64.add_assoc, UInt64.add_assoc, UInt64.add_comm (tracer.stage.inHand counter)]
  | hears => rfl
  | starts hstage | ticks hstage | concludes hstage =>
      simp [unreported, ReportStage.inHand, Action.counted, hstage]
  | takesRead soFar last hstage =>
      rw [hstage] at hfresh
      simpa [unreported, ReportStage.inHand, Action.counted, hstage] using
        Counters.get_taken tracer.counters (hfresh .read rfl) counter
  | takesSent soFar last hstage =>
      rw [hstage] at hfresh
      simpa [unreported, ReportStage.inHand, Action.counted, hstage] using
        Counters.get_taken tracer.counters (hfresh .sent rfl) counter
  | reports soFar last hstage =>
      rw [hstage] at hfresh
      have htaken := Counters.get_taken tracer.counters (hfresh .newlines rfl) counter
      cases last <;> simpa [unreported, ReportStage.inHand, Action.counted, hstage] using htaken

/-- The last sample misses nothing but what is counted after it was begun. -/
theorem Step.isSpent (hstep : tracer.Step action next sample?) (hspent : tracer.IsSpent)
    (hcounts : ∀ counter amount, action = .record counter amount →
      tracer.stage.isClosing = false) : next.IsSpent := by
  cases hstep with
  | records other amount =>
      intro counter hpast
      have hclosing := ReportStage.isClosing_of_isPast hpast
      exact absurd (hclosing.symm.trans (hcounts other amount rfl)) Bool.false_ne_true.symm
  | hears => exact hspent
  | starts | ticks => exact fun _ hpast => absurd hpast Bool.false_ne_true
  | concludes =>
      intro counter hpast
      cases counter <;> exact absurd hpast Bool.false_ne_true
  | takesRead soFar last hstage | takesSent soFar last hstage | reports soFar last hstage =>
      intro counter hpast
      have hbefore := hspent counter
      rw [hstage] at hbefore
      rw [Counters.get_set]
      cases last <;> cases counter <;>
        simp_all [ReportStage.isPast, Counter.isBefore]

/-- What a step of the reporting task itself knows of the end: it makes the last sample when
it has been told to stop, and then it makes no step any more. -/
theorem Step.closing (hstep : tracer.Step action next sample?) (hown : action.isOwn = true)
    (htold : tracer.stage.isClosing = true → tracer.stopping = true) :
    (next.stage.isClosing = true → next.stopping = true) ∧ next.stopping = tracer.stopping ∧
      tracer.stage ≠ .finished := by
  cases hstep with
  | records | hears => exact absurd hown Bool.false_ne_true
  | starts hstage | ticks hstage =>
      refine ⟨fun hclosing => absurd hclosing Bool.false_ne_true, rfl, ?_⟩
      rw [hstage]
      exact ReportStage.noConfusion
  | concludes hstage hstopping =>
      refine ⟨fun _ => hstopping, rfl, ?_⟩
      rw [hstage]
      exact ReportStage.noConfusion
  | takesRead soFar last hstage | takesSent soFar last hstage | reports soFar last hstage =>
      rw [hstage] at htold ⊢
      refine ⟨fun hclosing => htold ?_, rfl, ReportStage.noConfusion⟩
      cases last with
      | true => rfl
      | false => exact absurd hclosing Bool.false_ne_true

end Tracer

end LogRelay
