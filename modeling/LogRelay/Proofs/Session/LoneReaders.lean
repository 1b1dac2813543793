import LogRelay.Proofs.Behaviour.Pipe
import LogRelay.Proofs.Framing.Bare
import LogRelay.Session.Basic
import Mathlib.Logic.Function.Iterate

/-!
# A reader on its own

What a reader does that is not cancelled and whose messages go to a buffer depends on
its pipe and on the time alone.  So its life is one sequence of states: the reader goes
on as long as it can, and while it waits the time goes on.
-/

namespace LogRelay

namespace Reader

variable {source : Source} {clock : Nat} {reader after : Reader} {entries : List Entry}

def bare (reader : Reader) : Reader :=
  { reader with framer := reader.framer.bare }

/-- What the demand of its framer makes of a reader, with what is noted of it. -/
def obey (source : Source) (reader : Reader) : Framer.Demand → Reader × List Entry
  | .message message framer => ({ reader with framer := framer }, [.framed message])
  | .finished => ({ reader with stage := .ended .finished }, [.ended (.reader source) .finished])
  | .read asked => ({ reader with stage := .reading asked false }, [.readBegun source asked])

/-- What the answer of its pipe makes of a reader, with what is noted of it. -/
def meet (source : Source) (asked : Nat) (reader : Reader) : PipeAnswer → Reader × List Entry
  | .ready (.data bytes) =>
    ({ reader with
        framer := (reader.framer.receive bareIds default bytes).1
        stage := .asking }, [.readDone source asked (.data bytes)])
  | .ready (.failed failure) =>
    if failure.isInterruption then
      ({ reader with stage := .asking }, [.readDone source asked (.failed failure)])
    else
      ({ reader with stage := .ended (.failed (.read source failure)) },
        [.readDone source asked (.failed failure),
          .ended (.reader source) (.failed (.read source failure))])
  | .crashed => ({ reader with stage := .ended .crashed }, [.ended (.reader source) .crashed])
  | .pending _ | .cancels => (reader, [])

/-- What a reader does next that is not cancelled and whose messages go to a buffer, with
what is noted of it but for identifiers and times. -/
def go? (source : Source) (clock : Nat) (reader : Reader) : Option (Reader × List Entry) :=
  match reader.stage with
  | .asking => some (reader.obey source (reader.framer.demand false))
  | .reading asked _ =>
    if reader.pipe.isWaiting clock then none
    else
      let (answer, pipe) := reader.pipe.look clock asked
      some ({ reader with pipe := pipe }.meet source asked answer)
  | .sending _ | .ended _ => none

theorem go?_of_ended {result : TaskResult} (hended : reader.stage = .ended result) :
    reader.go? source clock = none := by
  rw [go?, hended]

/-! ## Without waits -/

/-- The reader with a pipe that never keeps it waiting for a time. -/
def awake (reader : Reader) : Reader :=
  { reader with pipe := reader.pipe.awake }

theorem obey_awake (source : Source) (reader : Reader) (demand : Framer.Demand) :
    reader.awake.obey source demand =
      ((reader.obey source demand).1.awake, (reader.obey source demand).2) := by
  cases demand <;> rfl

theorem meet_awake (source : Source) (asked : Nat) (reader : Reader) (answer : PipeAnswer) :
    reader.awake.meet source asked answer =
      ((reader.meet source asked answer).1.awake, (reader.meet source asked answer).2) := by
  cases answer with
  | ready result =>
      cases result with
      | data bytes => rfl
      | failed failure =>
          simp only [meet]
          split <;> rfl
  | crashed | pending | cancels => rfl

/-- A step of a reader only begins or ends a wait, or a reader without waits makes the
same step, whatever the time is. -/
theorem go?_awake (later : Nat) (hgo : reader.go? source clock = some (after, entries)) :
    after.awake = reader.awake ∧ entries = [] ∨
      reader.awake.go? source later = some (after.awake, entries) := by
  obtain ⟨framer, pipe, stage⟩ := reader
  cases stage with
  | asking =>
      right
      have hobeyed := obey_awake source ⟨framer, pipe, .asking⟩ (framer.demand false)
      rw [Option.some.inj hgo] at hobeyed
      exact congrArg some hobeyed
  | reading asked looking =>
      simp only [go?, Option.ite_none_left_eq_some, Option.some.injEq] at hgo
      obtain ⟨-, hmeet⟩ := hgo
      cases hlook : pipe.look clock asked with
      | mk answer rest =>
          rw [hlook] at hmeet
          by_cases hpending : ∃ until?, answer = .pending until?
          · obtain ⟨until?, rfl⟩ := hpending
            obtain ⟨rfl, rfl⟩ := Prod.mk.inj hmeet
            left
            simp only [awake, PipeScript.awake_of_pending hlook, and_self]
          · right
            have hanswer : ∀ until?, answer ≠ .pending until? :=
              fun until? heq => hpending ⟨until?, heq⟩
            have hawake := PipeScript.look_awake later hlook hanswer
            have hgoes : pipe.awake.isWaiting later = false := by
              apply Bool.eq_false_iff.mpr
              intro hwaiting
              obtain ⟨until?, hwaits⟩ := PipeScript.look_of_isWaiting asked hwaiting
              exact hanswer until? (Prod.mk.inj (hawake.symm.trans hwaits)).1
            have hmet := meet_awake source asked ⟨framer, rest, .reading asked looking⟩ answer
            rw [hmeet] at hmet
            simp only [go?, awake, hgoes, hawake, Bool.false_eq_true, if_false]
            exact congrArg some hmet
  | sending | ended => simp [go?] at hgo

end Reader

/-- A reader with the time and with what has been noted of it, the earliest first. -/
structure LoneReader where
  clock : Nat
  reader : Reader
  log : List (Nat × Entry)

namespace LoneReader

variable {source : Source} {lone later last : LoneReader}

/-- The reader goes on if it can; else a moment passes. -/
def step (source : Source) (lone : LoneReader) : LoneReader :=
  match lone.reader.go? source lone.clock with
  | some (reader, entries) =>
    { lone with reader := reader, log := lone.log ++ entries.map (lone.clock, ·) }
  | none => { lone with clock := lone.clock + 1 }

theorem step_of_goes {reader : Reader} {entries : List Entry}
    (hgo : lone.reader.go? source lone.clock = some (reader, entries)) :
    lone.step source =
      { lone with reader := reader, log := lone.log ++ entries.map (lone.clock, ·) } := by
  rw [step, hgo]

theorem step_of_waits (hwaits : lone.reader.go? source lone.clock = none) :
    lone.step source = { lone with clock := lone.clock + 1 } := by
  rw [step, hwaits]

/-- As long as the reader waits, only the time goes on. -/
theorem iterate_of_waits (count : Nat)
    (hwaits : ∀ moment, lone.clock ≤ moment → moment < lone.clock + count →
      lone.reader.go? source moment = none) :
    (step source)^[count] lone = { lone with clock := lone.clock + count } := by
  induction count with
  | zero => rfl
  | succ count ih =>
      rw [Function.iterate_succ_apply', ih fun moment hle hlt => hwaits moment hle (by omega)]
      exact step_of_waits (hwaits (lone.clock + count) (Nat.le_add_right _ _) (by omega))

/-- What has been noted since is not of an earlier time. -/
structure Precedes (lone later : LoneReader) : Prop where
  clock_le : lone.clock ≤ later.clock
  log_eq : ∃ added, later.log = lone.log ++ added ∧ ∀ noted ∈ added, lone.clock ≤ noted.1

theorem Precedes.refl (lone : LoneReader) : lone.Precedes lone :=
  ⟨Nat.le_refl _, [], (List.append_nil _).symm, fun _ hmem => absurd hmem List.not_mem_nil⟩

theorem Precedes.trans (hfirst : lone.Precedes later) (hsecond : later.Precedes last) :
    lone.Precedes last := by
  obtain ⟨hle, added, hadded, hall⟩ := hfirst
  obtain ⟨hle', more, hmore, hall'⟩ := hsecond
  refine ⟨Nat.le_trans hle hle', added ++ more, by rw [hmore, hadded, List.append_assoc], ?_⟩
  intro noted hmem
  rcases List.mem_append.mp hmem with hold | hnew
  · exact hall noted hold
  · exact Nat.le_trans hle (hall' noted hnew)

theorem precedes_step (source : Source) (lone : LoneReader) : lone.Precedes (lone.step source) := by
  cases hgo : lone.reader.go? source lone.clock with
  | none =>
      rw [step_of_waits hgo]
      exact ⟨Nat.le_succ _, (Precedes.refl lone).log_eq⟩
  | some went =>
      obtain ⟨reader, entries⟩ := went
      rw [step_of_goes hgo]
      refine ⟨Nat.le_refl _, _, rfl, fun noted hmem => ?_⟩
      obtain ⟨entry, -, rfl⟩ := List.mem_map.mp hmem
      exact Nat.le_refl _

theorem precedes_iterate (source : Source) (lone : LoneReader) (count : Nat) :
    lone.Precedes ((step source)^[count] lone) := by
  induction count with
  | zero => exact .refl lone
  | succ count ih =>
      rw [Function.iterate_succ_apply']
      exact ih.trans (precedes_step source _)

/-- A reader that has ended stays as it is, and nothing more is noted of it. -/
theorem iterate_of_ended {result : TaskResult} (count : Nat)
    (hended : lone.reader.stage = .ended result) :
    (step source)^[count] lone = { lone with clock := lone.clock + count } :=
  iterate_of_waits count fun _ _ _ => Reader.go?_of_ended hended

/-! ## Two states of one life -/

/-- One of the two has come further on the same way. -/
theorem iterate_total (source : Source) (start : LoneReader) (first second : Nat) :
    (∃ count, (step source)^[second] start = (step source)^[count] ((step source)^[first] start)) ∨
      ∃ count, (step source)^[first] start =
        (step source)^[count] ((step source)^[second] start) := by
  rcases Nat.le_total first second with hle | hle
  · refine Or.inl ⟨second - first, ?_⟩
    rw [← Function.iterate_add_apply, Nat.sub_add_cancel hle]
  · refine Or.inr ⟨first - second, ?_⟩
    rw [← Function.iterate_add_apply, Nat.sub_add_cancel hle]

end LoneReader

/-- Neither log says anything against the other: one of them is a beginning of the other. -/
def Agree {α : Type} (log other : List α) : Prop :=
  log <+: other ∨ other <+: log

theorem Agree.map {α β : Type} {log other : List α} (hagree : Agree log other) (f : α → β) :
    Agree (log.map f) (other.map f) :=
  hagree.imp (·.map f) (·.map f)

/-- Where both logs say something, they say the same. -/
theorem Agree.eq_of_getElem? {α : Type} {log other : List α} {index : Nat} {noted noted' : α}
    (hagree : Agree log other) (hlog : log[index]? = some noted)
    (hother : other[index]? = some noted') : noted = noted' := by
  have hindex := (List.getElem?_eq_some_iff.mp hlog).1
  have hindex' := (List.getElem?_eq_some_iff.mp hother).1
  rcases hagree with ⟨rest, rfl⟩ | ⟨rest, rfl⟩
  · rw [List.getElem?_append_left hindex] at hother
    exact Option.some.inj (hlog.symm.trans hother)
  · rw [List.getElem?_append_left hindex'] at hlog
    exact Option.some.inj (hlog.symm.trans hother)

/-- What has been noted up to the time. -/
def upTo (time : Nat) (log : List (Nat × Entry)) : List (Nat × Entry) :=
  log.filter fun noted => noted.1 ≤ time

namespace LoneReader

variable {source : Source} {lone later : LoneReader}

/-- What happens before a time has been noted by then. -/
theorem Precedes.upTo_eq {time : Nat} (hprecedes : lone.Precedes later) (htime : time < lone.clock) :
    upTo time later.log = upTo time lone.log := by
  obtain ⟨added, hadded, hall⟩ := hprecedes.log_eq
  have hnone : upTo time added = [] := by
    rw [upTo, List.filter_eq_nil_iff]
    intro noted hmem
    have hlate := hall noted hmem
    rw [decide_eq_true_iff]
    omega
  rw [hadded, upTo, List.filter_append, ← upTo, ← upTo, hnone, List.append_nil]

variable (source) (start : LoneReader) (first second : Nat)

theorem agree_iterate : Agree ((step source)^[first] start).log ((step source)^[second] start).log := by
  rcases iterate_total source start first second with ⟨count, heq⟩ | ⟨count, heq⟩
  · obtain ⟨added, hadded, -⟩ := (precedes_iterate source ((step source)^[first] start) count).log_eq
    rw [heq, hadded]
    exact Or.inl (List.prefix_append _ _)
  · obtain ⟨added, hadded, -⟩ :=
      (precedes_iterate source ((step source)^[second] start) count).log_eq
    rw [heq, hadded]
    exact Or.inr (List.prefix_append _ _)

/-- A reader ends in one way. -/
theorem eq_of_ended {result result' : TaskResult}
    (hended : ((step source)^[first] start).reader.stage = .ended result)
    (hended' : ((step source)^[second] start).reader.stage = .ended result') :
    result = result' ∧ ((step source)^[first] start).log = ((step source)^[second] start).log := by
  rcases iterate_total source start first second with ⟨count, heq⟩ | ⟨count, heq⟩
  · rw [heq, iterate_of_ended count hended] at hended' ⊢
    exact ⟨ReaderStage.ended.inj (hended.symm.trans hended'), rfl⟩
  · rw [heq, iterate_of_ended count hended'] at hended ⊢
    exact ⟨ReaderStage.ended.inj (hended.symm.trans hended'), rfl⟩

/-- The time is over, or the reader has ended. -/
def HasPassed (time : Nat) (lone : LoneReader) : Prop :=
  time < lone.clock ∨ ∃ result, lone.reader.stage = .ended result

theorem HasPassed.upTo_iterate {time : Nat} (hpassed : lone.HasPassed time) (count : Nat) :
    upTo time ((step source)^[count] lone).log = upTo time lone.log := by
  rcases hpassed with htime | ⟨result, hended⟩
  · exact (precedes_iterate source lone count).upTo_eq htime
  · rw [iterate_of_ended count hended]

/-- What is noted up to a time is the same, once the time is over. -/
theorem upTo_eq_of_hasPassed {time : Nat} (hfirst : ((step source)^[first] start).HasPassed time)
    (hsecond : ((step source)^[second] start).HasPassed time) :
    upTo time ((step source)^[first] start).log = upTo time ((step source)^[second] start).log := by
  rcases iterate_total source start first second with ⟨count, heq⟩ | ⟨count, heq⟩
  · rw [heq]
    exact (hfirst.upTo_iterate source count).symm
  · rw [heq]
    exact hsecond.upTo_iterate source count

end LoneReader

end LogRelay
