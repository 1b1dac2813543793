import LogRelay.Proofs.Delivery.Reached
import LogRelay.Proofs.Delivery.Retrying

/-!
# Exact pauses and the clock of whole milliseconds

The pauses of a delivery are exact to the nanosecond.  It is the clock that counts whole
milliseconds: a pause is over at the first of them that is not before its end.  So no call
comes before its exact time, and each pause behind which it comes delays it by less than a
millisecond.
-/

namespace LogRelay

namespace Duration

variable {duration : Duration} {millis : Nat}

theorem ceilMillis_le_iff :
    duration.ceilMillis ≤ millis ↔ duration.nanos ≤ millis * nanosPerMilli := by
  simp only [ceilMillis, nanosPerMilli]
  omega

theorem le_ceilMillis (duration : Duration) :
    duration.nanos ≤ duration.ceilMillis * nanosPerMilli :=
  ceilMillis_le_iff.mp (Nat.le_refl _)

theorem ceilMillis_lt (duration : Duration) :
    duration.ceilMillis * nanosPerMilli < duration.nanos + nanosPerMilli := by
  simp only [ceilMillis, nanosPerMilli]
  omega

end Duration

namespace Delivery

/-- The nanosecond at which the call with that index comes if no pause is rounded. -/
def exactTime (outcomes : Outcomes) (pauses : Nat → Duration) : Nat → Nat
  | 0 => 0
  | index + 1 =>
    exactTime outcomes pauses index + (outcomes index).1 * nanosPerMilli + (pauses index).nanos

/-- A call comes at its exact time or later, by less than a millisecond for each pause. -/
theorem callTime_bounds (outcomes : Outcomes) (pauses : Nat → Duration) (index : Nat) :
    exactTime outcomes pauses index ≤ callTime outcomes pauses index * nanosPerMilli ∧
      callTime outcomes pauses index * nanosPerMilli ≤
        exactTime outcomes pauses index + index * (nanosPerMilli - 1) := by
  induction index with
  | zero => simp [exactTime, callTime]
  | succ index ih =>
      have hle := (pauses index).le_ceilMillis
      have hlt := (pauses index).ceilMillis_lt
      simp only [exactTime, callTime, Nat.add_mul, Nat.one_mul]
      generalize (pauses index).ceilMillis * nanosPerMilli = rounded at hle hlt ⊢
      have hunit : 0 < nanosPerMilli := by decide
      omega

theorem sum_ceilMillis_bounds (slept : List Duration) :
    (slept.map Duration.nanos).sum ≤ (slept.map Duration.ceilMillis).sum * nanosPerMilli ∧
      (slept.map Duration.ceilMillis).sum * nanosPerMilli ≤
        (slept.map Duration.nanos).sum + slept.length * (nanosPerMilli - 1) := by
  induction slept with
  | nil => simp
  | cons duration slept ih =>
      have hle := duration.le_ceilMillis
      have hlt := duration.ceilMillis_lt
      simp only [List.map_cons, List.sum_cons, List.length_cons, Nat.add_mul,
        Nat.one_mul]
      generalize duration.ceilMillis * nanosPerMilli = rounded at hle hlt ⊢
      have hunit : 0 < nanosPerMilli := by decide
      omega

/-- A run takes the time of its calls and of its pauses to the nanosecond, and less than a
millisecond more for each pause. -/
theorem elapsed_bounds {policy : RetryPolicy} {draws : Nat → Nat} {sink rest : SinkBehaviour}
    {message : Message} {report : Report}
    (hrun : run policy draws sink message = some (report, rest)) :
    ∃ last slept, Reaches policy message last slept ∧ report.calls.length = slept.length + 1 ∧
      sink.timeOf message.source report.calls.length * nanosPerMilli +
          (slept.map Duration.nanos).sum ≤ report.elapsed * nanosPerMilli ∧
      report.elapsed * nanosPerMilli ≤
        sink.timeOf message.source report.calls.length * nanosPerMilli +
          (slept.map Duration.nanos).sum + slept.length * (nanosPerMilli - 1) := by
  obtain ⟨last, slept, hlast, hcalls, helapsed⟩ := exists_reaches_of_run hrun
  obtain ⟨hle, hge⟩ := sum_ceilMillis_bounds slept
  refine ⟨last, slept, hlast, hcalls, ?_, ?_⟩
  · rw [helapsed, hcalls, Nat.add_mul]
    exact Nat.add_le_add_left hle _
  · rw [helapsed, hcalls, Nat.add_mul, Nat.add_assoc]
    exact Nat.add_le_add_left hge _

end Delivery

end LogRelay
