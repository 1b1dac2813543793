import LogRelay.Proofs.Behaviour.Pipe

/-!
# Pipes without their failures

A look at a pipe finds the same with its failing reads taken out of the description, only
that a look that failed goes on to what comes next.

A read in the middle of which the session is cancelled goes on.  If it fails then, the
cancellation is noticed before the next read, and what comes behind the failure is never
read.  So behind a cancellation the failure that is met first cannot be taken out of the
description: it becomes a wait, for a read that waits when the session is cancelled is
given up as well.
-/

namespace LogRelay

/-- The step is a read that fails, be it only to be made again. -/
def PipeStep.isFailing : PipeStep → Bool
  | .fail _ => true
  | _ => false

/-- A failing read becomes one that brings nothing for a time. -/
def PipeStep.quieted : PipeStep → PipeStep
  | .fail _ => .wait 1
  | step => step

namespace PipeScript

variable {clock asked : Nat} {pipe rest : PipeScript} {answer : PipeAnswer}

/-- The same pipe with the failing reads left out. -/
def withoutFailures (pipe : PipeScript) : PipeScript :=
  pipe.filter fun step => !step.isFailing

/-- The same pipe with every failing read a read that waits. -/
def quieted (pipe : PipeScript) : PipeScript :=
  pipe.map PipeStep.quieted

/-- A read that does not wait fails next. -/
def failsNext : PipeScript → Bool
  | .fail _ :: _ => true
  | .cancel :: rest | .waitUntil _ :: rest => failsNext rest
  | .wait ms :: rest => ms = 0 && failsNext rest
  | _ => false

/-- The read in which the session is cancelled fails. -/
def cancelledReadFails : PipeScript → Bool
  | [] => false
  | .cancel :: rest => failsNext rest
  | _ :: rest => cancelledReadFails rest

/-- What comes to a read behind a cancellation: if it fails, then as one that waits. -/
def behindCancel (pipe : PipeScript) : PipeScript :=
  if pipe.failsNext then pipe.quieted else pipe.withoutFailures

/-- The failing reads are left out, but for the one in which the session is cancelled,
which waits with all that fail behind it. -/
def passingFailures : PipeScript → PipeScript
  | [] => []
  | .fail _ :: rest => passingFailures rest
  | .cancel :: rest => .cancel :: behindCancel rest
  | step :: rest => step :: passingFailures rest

theorem passingFailures_eq_withoutFailures (hcancelled : pipe.cancelledReadFails = false) :
    pipe.passingFailures = pipe.withoutFailures := by
  induction pipe with
  | nil => rfl
  | cons step rest ih =>
      cases step with
      | cancel =>
          rw [passingFailures, behindCancel, if_neg (Bool.not_eq_true _ ▸ hcancelled)]
          rfl
      | fail failure => exact ih hcancelled
      | data | wait | waitUntil | hang | crash => exact congrArg _ (ih hcancelled)

/-! ## Looks -/

/-- A look that passes over failures goes on behind the one that it would have met. -/
theorem look_passingFailures (clock asked : Nat) (pipe : PipeScript) :
    pipe.passingFailures.look clock asked =
      match pipe.look clock asked with
      | (.ready (.failed _), rest) => rest.passingFailures.look clock asked
      | (.cancels, rest) => (.cancels, rest.behindCancel)
      | (answer, rest) => (answer, rest.passingFailures) := by
  induction pipe with
  | nil => rfl
  | cons step tail ih =>
      cases step with
      | data bytes =>
          simp only [passingFailures, look]
          split <;> rfl
      | wait ms =>
          simp only [passingFailures, look]
          split
          · exact ih
          · rfl
      | waitUntil time =>
          simp only [passingFailures, look]
          split
          · exact ih
          · rfl
      | fail | cancel | hang | crash => rfl

/-- With the failures quieted a look waits where it would have failed. -/
theorem look_quieted (clock asked : Nat) (pipe : PipeScript) :
    pipe.quieted.look clock asked =
      match pipe.look clock asked with
      | (.ready (.failed _), rest) =>
        (.pending (some (clock + 1)), .waitUntil (clock + 1) :: rest.quieted)
      | (answer, rest) => (answer, rest.quieted) := by
  induction pipe with
  | nil => rfl
  | cons step tail ih =>
      rw [quieted, List.map_cons]
      cases step with
      | data bytes =>
          simp only [PipeStep.quieted, look]
          split <;> rfl
      | wait ms =>
          simp only [PipeStep.quieted, look]
          split
          · exact ih
          · rfl
      | waitUntil time =>
          simp only [PipeStep.quieted, look]
          split
          · exact ih
          · rfl
      | fail | cancel | hang | crash => rfl

/-- If no failure is next, leaving the failures out does not change what a look finds. -/
theorem look_withoutFailures (hnext : pipe.failsNext = false) :
    pipe.withoutFailures.look clock asked =
      ((pipe.look clock asked).1, (pipe.look clock asked).2.withoutFailures) := by
  induction pipe with
  | nil => rfl
  | cons step tail ih =>
      cases step with
      | data bytes =>
          rw [withoutFailures, List.filter_cons_of_pos rfl]
          simp only [look]
          split <;> rfl
      | wait ms =>
          rw [withoutFailures, List.filter_cons_of_pos rfl]
          simp only [look]
          split
          · next hnow => exact ih (by simpa [failsNext, hnow] using hnext)
          · rfl
      | waitUntil time =>
          rw [withoutFailures, List.filter_cons_of_pos rfl]
          simp only [look]
          split
          · exact ih hnext
          · rfl
      | fail failure => exact absurd hnext Bool.noConfusion
      | cancel | hang | crash => rfl

theorem failsNext_of_look_failed {failure : Failure}
    (hlook : pipe.look clock asked = (.ready (.failed failure), rest)) :
    pipe.failsNext = true := by
  induction pipe with
  | nil => cases hlook
  | cons step tail ih =>
      cases step with
      | wait ms =>
          rw [look] at hlook
          split at hlook
          · next hnow =>
              rw [failsNext, hnow]
              exact ih hlook
          · cases hlook
      | waitUntil time =>
          rw [look] at hlook
          split at hlook
          · exact ih hlook
          · cases hlook
      | fail => rfl
      | data | cancel | hang | crash => cases hlook

theorem failsNext_of_look_cancels (hlook : pipe.look clock asked = (.cancels, rest)) :
    pipe.failsNext = rest.failsNext := by
  induction pipe with
  | nil => cases hlook
  | cons step tail ih =>
      cases step with
      | wait ms =>
          rw [look] at hlook
          split at hlook
          · next hnow =>
              rw [failsNext, hnow]
              exact ih hlook
          · cases hlook
      | waitUntil time =>
          rw [look] at hlook
          split at hlook
          · exact ih hlook
          · cases hlook
      | cancel =>
          cases hlook
          rfl
      | data | fail | hang | crash => cases hlook

/-- Where a read behind a cancellation fails, it waits. -/
theorem look_behindCancel_of_failed {failure : Failure}
    (hlook : pipe.look clock asked = (.ready (.failed failure), rest)) :
    pipe.behindCancel.look clock asked =
      (.pending (some (clock + 1)), .waitUntil (clock + 1) :: rest.quieted) := by
  rw [behindCancel, if_pos (failsNext_of_look_failed hlook), look_quieted, hlook]

theorem look_behindCancel_of_cancels (hlook : pipe.look clock asked = (.cancels, rest)) :
    pipe.behindCancel.look clock asked = (.cancels, rest.behindCancel) := by
  rw [behindCancel, behindCancel, failsNext_of_look_cancels hlook]
  cases hnext : rest.failsNext with
  | true =>
      rw [if_pos rfl, if_pos rfl, look_quieted, hlook]
  | false =>
      rw [if_neg Bool.false_ne_true, if_neg Bool.false_ne_true,
        look_withoutFailures ((failsNext_of_look_cancels hlook).trans hnext), hlook]

/-- A read behind a cancellation that does not fail finds what it would find. -/
theorem exists_look_behindCancel (hlook : pipe.look clock asked = (answer, rest))
    (hanswer : ∀ failure, answer ≠ .ready (.failed failure)) :
    ∃ after, pipe.behindCancel.look clock asked = (answer, after) := by
  cases hnext : pipe.failsNext with
  | true =>
      rw [behindCancel, if_pos hnext, look_quieted, hlook]
      split
      · next heq =>
          cases heq
          exact absurd rfl (hanswer _)
      · next heq =>
          cases heq
          exact ⟨_, rfl⟩
  | false =>
      rw [behindCancel, if_neg (by rw [hnext]; exact Bool.false_ne_true),
        look_withoutFailures hnext, hlook]
      exact ⟨_, rfl⟩

/-! ## Time and fuel -/

/-- The time at which the pipe is looked at again. -/
def lookTime (clock : Nat) : PipeAnswer → Nat
  | .pending (some time) => time
  | _ => clock

/-- What the answer of a look takes at least off the looks that are left. -/
def lookCost : PipeAnswer → Nat
  | .ready (.data bytes) => bytes.length
  | .ready (.failed _) | .cancels | .pending (some _) => 1
  | .crashed | .pending none => 0

theorem le_lookTime_look (clock asked : Nat) (pipe : PipeScript) :
    clock ≤ lookTime clock (pipe.look clock asked).1 := by
  induction pipe with
  | nil => exact Nat.le_refl _
  | cons step rest ih =>
      cases step with
      | wait ms =>
          rw [look]
          split
          · exact ih
          · exact Nat.le_add_right _ _
      | waitUntil time =>
          rw [look]
          split
          · exact ih
          · next hlater => exact Nat.le_of_not_le hlater
      | data | fail | cancel | hang | crash => exact Nat.le_refl _

/-- The waits of a pipe are over when they would have been. -/
theorem endsBy_look (clock asked : Nat) (pipe : PipeScript) :
    endsBy (lookTime clock (pipe.look clock asked).1) (pipe.look clock asked).2 =
      endsBy clock pipe := by
  induction pipe with
  | nil => rfl
  | cons step rest ih =>
      cases step with
      | data bytes =>
          rw [look]
          dsimp only
          split <;> rfl
      | wait ms =>
          rw [look]
          split
          · next hnow =>
              rw [ih, hnow]
              rfl
          · simp only [lookTime, endsBy, Nat.max_self]
      | waitUntil time =>
          rw [look]
          split
          · next hover =>
              rw [ih, endsBy, Nat.max_eq_left hover]
          · next hlater =>
              have hle : clock ≤ time := Nat.le_of_not_le hlater
              simp only [lookTime, endsBy, Nat.max_self, Nat.max_eq_right hle]
      | fail | cancel | hang | crash => rfl

theorem looksLeft_look (clock asked : Nat) (pipe : PipeScript) :
    lookCost (pipe.look clock asked).1 +
      looksLeft (lookTime clock (pipe.look clock asked).1) (pipe.look clock asked).2 ≤
        looksLeft clock pipe := by
  induction pipe with
  | nil => exact Nat.le_refl _
  | cons step rest ih =>
      cases step with
      | data bytes =>
          rw [look, lookCost]
          dsimp only
          split
          · next hall =>
              rw [List.take_of_length_le hall]
              exact Nat.le_refl _
          · simp only [looksLeft, lookTime, List.length_take, List.length_drop]
            omega
      | wait ms =>
          rw [look]
          split
          · exact Nat.le_trans ih (by simp [looksLeft])
          · have hanti := looksLeft_anti (Nat.le_add_right clock ms) rest
            simp only [looksLeft, lookTime, lookCost, Nat.le_refl, if_true]
            omega
      | waitUntil time =>
          rw [look]
          split
          · exact Nat.le_trans ih (by simp [looksLeft])
          · next hlater =>
              have hanti := looksLeft_anti (Nat.le_of_not_le hlater) rest
              simp only [looksLeft, lookTime, lookCost, Nat.le_refl, if_true, if_neg hlater]
              omega
      | fail | cancel | hang | crash => simp [look, looksLeft, lookTime, lookCost]

theorem endsBy_mono {earlier later : Nat} (hle : earlier ≤ later) (pipe : PipeScript) :
    endsBy earlier pipe ≤ endsBy later pipe := by
  induction pipe generalizing earlier later with
  | nil => exact hle
  | cons step rest ih =>
      cases step with
      | wait ms => exact ih (Nat.add_le_add_right hle ms)
      | waitUntil time => exact ih (by omega)
      | data | fail | cancel | hang | crash => exact ih hle

end PipeScript

end LogRelay
