import LogRelay.Buffer.Turns
import LogRelay.Proofs.Buffer.Waking
import Mathlib.Logic.Relation

/-!
# Turns are made of atomic steps

The operations that run to their end before the next one begins put the atomic
steps into one of their many orders.  So what every step keeps is kept by every
turn, and a consumer that has been polled in vain is one that waits.
-/

namespace LogRelay.Monitor

variable {monitor middle last : Monitor} {name : Nat} {consumer : Consumer}

/-- Some atomic steps lead from one state to the other. -/
def Reaches (monitor last : Monitor) : Prop :=
  ∃ actions events, monitor.run? actions = some (last, events)

namespace Reaches

theorem refl (monitor : Monitor) : monitor.Reaches monitor :=
  ⟨[], [], rfl⟩

theorem head {action : Action} {event : Event}
    (hstep : monitor.step? action = some (middle, event)) (hrest : middle.Reaches last) :
    monitor.Reaches last := by
  obtain ⟨actions, events, hrun⟩ := hrest
  refine ⟨action :: actions, event :: events, ?_⟩
  simp [run?, hstep, hrun]

theorem of_step {action : Action} {event : Event}
    (hstep : monitor.step? action = some (last, event)) : monitor.Reaches last :=
  head hstep (refl last)

theorem trans (hfirst : monitor.Reaches middle) (hrest : middle.Reaches last) :
    monitor.Reaches last := by
  obtain ⟨actions, events, hrun⟩ := hfirst
  induction actions generalizing monitor events with
  | nil =>
      cases hrun
      exact hrest
  | cons action actions ih =>
      obtain ⟨next, event, later, hstep, hrun', rfl⟩ := exists_of_run?_cons hrun
      exact head hstep (ih later hrun')

/-- What every step keeps is kept on the way. -/
theorem keeps {motive : Monitor → Prop} (hreaches : monitor.Reaches last)
    (hstart : motive monitor)
    (hmove : ∀ monitor action next event, motive monitor → Move monitor action next event →
      motive next) : motive last := by
  obtain ⟨actions, events, hrun⟩ := hreaches
  exact run?_induction hrun hstart hmove

end Reaches

theorem Reaches.attentive (hreaches : monitor.Reaches last) (hattentive : monitor.Attentive) :
    last.Attentive :=
  hreaches.keeps hattentive fun _ _ _ _ hbefore hmove => hbefore.move hmove

/-! ## Producers -/

theorem reaches_put (monitor : Monitor) (message : Message) :
    monitor.Reaches (monitor.put message).1 := by
  have hoffer : monitor.step? (.offer message) =
      some ((monitor.offer message).1, (monitor.offer message).2) := rfl
  have howed : 0 < (monitor.offer message).1.owedWakes := Nat.succ_pos _
  have hwake : (monitor.offer message).1.step? .wake = some ((monitor.put message).1, .quiet) := by
    rw [step?, if_pos howed]
    rfl
  exact Reaches.head hoffer (Reaches.of_step hwake)

theorem reaches_finishProducer (monitor : Monitor) :
    monitor.Reaches monitor.finishProducer := by
  have hclose : monitor.step? .close = some (monitor.close, .quiet) := rfl
  by_cases howed : 0 < monitor.close.owedBroadcasts
  · have hbroadcast : monitor.close.step? .broadcast =
        some (monitor.finishProducer, .quiet) := by
      rw [step?, if_pos howed, finishProducer, if_pos howed]
    exact Reaches.head hclose (Reaches.of_step hbroadcast)
  · rw [finishProducer, if_neg howed]
    exact Reaches.of_step hclose

theorem reaches_takeAll (monitor : Monitor) : monitor.Reaches monitor.takeAll.1 := by
  have hflush : monitor.step? .flush = some (monitor.takeAll.1, .flushed monitor.takeAll.2) := rfl
  exact Reaches.of_step hflush

/-! ## Consumers -/

theorem find?_register (hname : monitor.find? name = none) :
    (monitor.register name).find? name =
      some ⟨name, if monitor.permit then some .permit else none, false⟩ := by
  rw [find?] at hname
  simp [find?, register, List.find?_append, hname]

theorem find?_remove (monitor : Monitor) (name : Nat) : (monitor.remove name).find? name = none := by
  simp [find?, remove, List.find?_eq_none]

/-- A consumer that finds nothing stays where it is and has looked. -/
theorem find?_look (hfind : monitor.find? name = some consumer)
    (hevent : takenOf? (monitor.look consumer).2 = none) :
    (monitor.look consumer).1.find? name = some { consumer with looked := true } ∧
      (monitor.look consumer).1.permit = monitor.permit := by
  obtain ⟨-, hname⟩ := mem_of_find? hfind
  cases hdequeue : monitor.buffer.dequeue? with
  | some taken =>
      obtain ⟨message, buffer⟩ := taken
      rw [look_taken hdequeue] at hevent
      exact absurd hevent (Option.some_ne_none _)
  | none =>
      cases hclosed : monitor.buffer.closed with
      | true =>
          rw [look_ended hdequeue hclosed] at hevent
          exact absurd hevent (Option.some_ne_none _)
      | false =>
          rw [look_quiet hdequeue hclosed]
          refine ⟨?_, rfl⟩
          rw [find?] at hfind
          have hsame : ((fun other : Consumer => decide (other.name = name)) ∘ fun other =>
              if other.name = consumer.name then { other with looked := true } else other) =
              fun other => decide (other.name = name) := by
            funext other
            simp only [Function.comp_apply]
            split <;> rfl
          rw [find?, markLooked, List.find?_map, hsame, hfind, Option.map_some, if_pos rfl]

theorem step?_look (hfind : monitor.find? name = some consumer) (hlooked : consumer.looked = false) :
    monitor.step? (.look name) = some ((monitor.look consumer).1, (monitor.look consumer).2) := by
  simp [step?, hfind, hlooked]

theorem step?_resume (hfind : monitor.find? name = some consumer)
    (hlooked : consumer.looked = true) (hsignal : consumer.signal.isSome = true) :
    monitor.step? (.resume name) = some ((monitor.remove name).register name, .quiet) := by
  simp [step?, hfind, hlooked, hsignal]

/-- A consumer that is polled takes atomic steps, whatever becomes of it. -/
theorem reaches_pollFor (rounds : Nat) (monitor : Monitor) (name : Nat) :
    monitor.Reaches (monitor.pollFor rounds name).1 := by
  induction rounds generalizing monitor with
  | zero => exact Reaches.refl monitor
  | succ rounds ih =>
      cases hfind : monitor.find? name with
      | none =>
          rw [pollFor, hfind]
          exact Reaches.refl monitor
      | some consumer =>
          cases hlooked : consumer.looked with
          | false =>
              have hlook := step?_look hfind hlooked
              cases htaken : takenOf? (monitor.look consumer).2 with
              | some taken =>
                  simp only [pollFor, hfind, hlooked, htaken, Bool.not_false, if_true]
                  exact Reaches.of_step hlook
              | none =>
                  simp only [pollFor, hfind, hlooked, htaken, Bool.not_false, if_true]
                  exact Reaches.head hlook (ih _)
          | true =>
              cases hsignal : consumer.signal.isSome with
              | true =>
                  simp only [pollFor, hfind, hlooked, hsignal, Bool.not_true, Bool.false_eq_true,
                    if_false, if_true]
                  exact Reaches.head (step?_resume hfind hlooked hsignal) (ih _)
              | false =>
                  simp only [pollFor, hfind, hlooked, hsignal, Bool.not_true, Bool.false_eq_true,
                    if_false]
                  exact Reaches.refl monitor

/-- A bound for the rounds in which the consumer goes on: it looks once, and once
more for each signal that it finds. -/
def roundsLeft (monitor : Monitor) (consumer : Consumer) : Nat :=
  (if consumer.looked then 0 else 1) +
    2 * ((if consumer.signal.isSome then 1 else 0) + if monitor.permit then 1 else 0)

/-- With enough rounds a consumer that comes back without a message waits. -/
theorem idle_of_pollFor {rounds : Nat} (hfind : monitor.find? name = some consumer)
    (hrounds : monitor.roundsLeft consumer < rounds)
    (hnone : (monitor.pollFor rounds name).2 = none) :
    ∃ idle, (monitor.pollFor rounds name).1.find? name = some idle ∧ idle.IsIdle := by
  induction rounds generalizing monitor consumer with
  | zero => exact absurd hrounds (Nat.not_lt_zero _)
  | succ rounds ih =>
      cases hlooked : consumer.looked with
      | false =>
          cases htaken : takenOf? (monitor.look consumer).2 with
          | some taken =>
              simp [pollFor, hfind, hlooked, htaken] at hnone
          | none =>
              obtain ⟨hfind', hpermit⟩ := find?_look hfind htaken
              simp only [pollFor, hfind, hlooked, htaken, Bool.not_false, if_true] at hnone ⊢
              refine ih hfind' ?_ hnone
              simp only [roundsLeft, hlooked, hpermit, Bool.false_eq_true, if_false, if_true]
                at hrounds ⊢
              omega
      | true =>
          cases hsignal : consumer.signal.isSome with
          | true =>
              have hfind' := find?_register (find?_remove monitor name)
              simp only [pollFor, hfind, hlooked, hsignal, Bool.not_true, Bool.false_eq_true,
                if_false, if_true] at hnone ⊢
              refine ih hfind' ?_ hnone
              simp only [roundsLeft, hlooked, hsignal, register, remove, Bool.false_eq_true,
                if_false, if_true] at hrounds ⊢
              by_cases hpermit : monitor.permit = true
              · simp only [hpermit, if_true, Option.isSome_some] at hrounds ⊢
                omega
              · simp only [hpermit, Bool.false_eq_true, if_false, Option.isSome_none] at hrounds ⊢
                omega
          | false =>
              simp only [pollFor, hfind, hlooked, hsignal, Bool.not_true, Bool.false_eq_true,
                if_false]
              exact ⟨consumer, rfl, hlooked, Option.not_isSome_iff_eq_none.mp
                (Bool.eq_false_iff.mp hsignal)⟩

/-- A consumer that is polled in vain waits. -/
theorem idle_of_poll (hfind : monitor.find? name = some consumer)
    (hnone : (monitor.poll name).2 = none) :
    ∃ idle, (monitor.poll name).1.find? name = some idle ∧ idle.IsIdle := by
  refine idle_of_pollFor hfind ?_ hnone
  rw [roundsLeft]
  split <;> split <;> split <;> decide

theorem step?_abandon (hfind : monitor.find? name = some consumer)
    (hlooked : consumer.looked = true) :
    monitor.step? (.abandon name) = some (monitor.leave consumer, .quiet) := by
  simp [step?, hfind, hlooked]

theorem reaches_abandon (hlooked : ∀ consumer, monitor.find? name = some consumer →
    consumer.looked = true) : monitor.Reaches (monitor.abandon name) := by
  rw [abandon]
  cases hfind : monitor.find? name with
  | none => exact Reaches.refl monitor
  | some consumer => exact Reaches.of_step (step?_abandon hfind (hlooked consumer hfind))

theorem reaches_register (hname : monitor.find? name = none) :
    monitor.Reaches (monitor.register name) := by
  have hregister : monitor.step? (.register name) = some (monitor.register name, .quiet) := by
    simp [step?, hname]
  exact Reaches.of_step hregister

theorem reaches_tryTake (hname : monitor.find? name = none) :
    monitor.Reaches (monitor.tryTake name).1 := by
  have hpoll : monitor.Reaches ((monitor.register name).poll name).1 :=
    (reaches_register hname).trans (reaches_pollFor 6 (monitor.register name) name)
  have hidle := idle_of_poll (find?_register hname)
  rw [tryTake]
  generalize (monitor.register name).poll name = polled at hpoll hidle
  obtain ⟨polled, taken⟩ := polled
  cases taken with
  | some taken => exact hpoll
  | none =>
      obtain ⟨idle, hfind, hlooked, -⟩ := hidle rfl
      simp only [hfind]
      exact hpoll.trans (Reaches.of_step (step?_abandon hfind hlooked))

/-- A consumer has its turn: it registers unless it waits already, and goes on until it
leaves or has to wait. -/
def turn (monitor : Monitor) (name : Nat) : Monitor × Option Taken :=
  if (monitor.find? name).isNone then (monitor.register name).poll name else monitor.poll name

theorem reaches_turn (monitor : Monitor) (name : Nat) :
    monitor.Reaches (monitor.turn name).1 := by
  rw [turn]
  split
  · next hname =>
      exact (reaches_register (Option.isNone_iff_eq_none.mp hname)).trans
        (reaches_pollFor 6 _ name)
  · exact reaches_pollFor 6 _ name

/-! ## Several consumers -/

theorem reaches_sweep (monitor : Monitor) (names : List Nat) :
    monitor.Reaches (monitor.sweep names).1 := by
  induction names generalizing monitor with
  | nil => exact Reaches.refl monitor
  | cons name rest ih =>
      have hpoll : monitor.Reaches (monitor.poll name).1 := reaches_pollFor 6 monitor name
      rw [sweep]
      split
      · next polled taken heq =>
          rw [heq] at hpoll
          exact hpoll.trans (ih polled)
      · next polled heq =>
          rw [heq] at hpoll
          exact hpoll.trans (ih polled)

theorem reaches_settle (monitor : Monitor) (names : List Nat) :
    monitor.Reaches (monitor.settle names).1 := by
  rw [settle]
  generalize names.length + 1 = rounds
  induction rounds generalizing monitor names with
  | zero => exact Reaches.refl monitor
  | succ rounds ih =>
      have hsweep := reaches_sweep monitor names
      rw [settleFor]
      split
      · next swept waiting heq =>
          rw [heq] at hsweep
          exact hsweep
      · next swept finished waiting hne heq =>
          rw [heq] at hsweep
          exact hsweep.trans (ih swept waiting)

/-! ## All turns -/

/-- An operation that runs to its end before the next one begins. -/
inductive Turn (monitor : Monitor) : Monitor → Prop where
  | puts (message : Message) : Turn monitor (monitor.put message).1
  | finishes : Turn monitor monitor.finishProducer
  | takesAll : Turn monitor monitor.takeAll.1
  | registers (name : Nat) (hname : monitor.find? name = none) :
      Turn monitor (monitor.register name)
  | triesToTake (name : Nat) (hname : monitor.find? name = none) :
      Turn monitor (monitor.tryTake name).1
  | goesOn (name : Nat) : Turn monitor (monitor.turn name).1
  | givesUp (name : Nat) (hlooked : ∀ consumer, monitor.find? name = some consumer →
      consumer.looked = true) : Turn monitor (monitor.abandon name)
  | settles (names : List Nat) : Turn monitor (monitor.settle names).1

theorem Turn.reaches (hturn : monitor.Turn last) : monitor.Reaches last := by
  cases hturn with
  | puts message => exact reaches_put monitor message
  | finishes => exact reaches_finishProducer monitor
  | takesAll => exact reaches_takeAll monitor
  | registers name hname => exact reaches_register hname
  | triesToTake name hname => exact reaches_tryTake hname
  | goesOn name => exact reaches_turn monitor name
  | givesUp name hlooked => exact reaches_abandon hlooked
  | settles names => exact reaches_settle monitor names

/-- Whatever turns are taken, no wake-up is lost on the way. -/
theorem attentive_of_turns {capacity producers : Nat}
    (hturns : Relation.ReflTransGen Turn (create capacity producers) monitor) :
    monitor.Attentive := by
  induction hturns with
  | refl => exact attentive_create capacity producers
  | tail _ hturn ih => exact hturn.reaches.attentive ih

end LogRelay.Monitor
