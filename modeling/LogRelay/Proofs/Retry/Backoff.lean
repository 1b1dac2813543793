import LogRelay.Proofs.Duration.Seconds
import LogRelay.Retry.Backoff
import Mathlib.Logic.Function.Iterate

/-!
# Pauses that can be computed

The delays of a policy are whole milliseconds of 64 bits, and no delay grows
beyond the cap.  So the random part of a pause has a bound whenever the jitter
is a number, and the pause is a duration.  A jitter that is not a number is the
only one for which there are no pauses.
-/

namespace LogRelay

/-- No delay of a policy is longer. -/
def millisLimit : Nat := UInt64.size * nanosPerMilli

namespace Duration

theorem ofMillis_le (millis : UInt64) : (ofMillis millis).nanos ≤ millisLimit :=
  Nat.mul_le_mul_right _ millis.toNat_lt.le

theorem isZero_eq_false_iff (duration : Duration) :
    duration.isZero = false ↔ 0 < duration.nanos := by
  rw [isZero, decide_eq_false_iff_not]
  exact Nat.pos_iff_ne_zero.symm

/-- There is room for a delay beside what it is when it comes back from its seconds. -/
theorem add_backNanos_lt {nanos : Nat} (hnanos : nanos ≤ millisLimit) :
    nanos + backNanos nanos < UInt64.size * nanosPerSecond := by
  have hlimit : millisLimit ≤ 2 ^ 55 * nanosPerSecond := by decide
  have hroom : millisLimit + 2 ^ 56 * nanosPerSecond < UInt64.size * nanosPerSecond := by decide
  have hback := backNanos_le (hnanos.trans hlimit)
  omega

theorem nanos_min (left right : Duration) :
    (left.min right).nanos = Min.min left.nanos right.nanos := by
  rw [min]
  split
  · next hless => exact (Nat.min_eq_right hless.le).symm
  · next hless => exact (Nat.min_eq_left (Nat.le_of_not_lt hless)).symm

theorem min_le_right (left right : Duration) : (left.min right).nanos ≤ right.nanos := by
  rw [nanos_min]
  exact Nat.min_le_right _ _

end Duration

namespace Backoff

variable {backoff : Backoff}

/-- The delays of the backoff are those of a policy, and its jitter lies in the
unit interval. -/
structure Bounded (backoff : Backoff) : Prop where
  cap_le : backoff.cap.nanos ≤ millisLimit
  current_le : backoff.current.nanos ≤ backoff.cap.nanos
  jitter_within : backoff.jitter.Within 1

theorem bounded_of_policy {policy : RetryPolicy} (hjitter : policy.jitter.isNaN = false) :
    policy.backoff.Bounded where
  cap_le := Duration.ofMillis_le _
  current_le := Duration.min_le_right _ _
  jitter_within := Binary64.within_clamp hjitter

theorem Bounded.advance (hbounded : backoff.Bounded) : backoff.advance.Bounded where
  cap_le := hbounded.cap_le
  current_le := Duration.min_le_right _ _
  jitter_within := hbounded.jitter_within

/-- The random part has a bound, and a delay with any random part below it is a span. -/
theorem Bounded.exists_spread? (hbounded : backoff.Bounded) :
    ∃ spread, backoff.spread? = some spread ∧
      backoff.current.nanos + spread.nanos < UInt64.size * nanosPerSecond := by
  obtain ⟨part, hpart, hone⟩ := hbounded.jitter_within.exists_standsFor
  have hseconds := backoff.current.standsFor_seconds
  have hproduct := mul_le_of_le_one_left hseconds.nonneg hone
  have hsmall := Duration.secondsOf_le backoff.current.le_range
  have hspread := (hpart.mul hseconds).standsFor
    ((hproduct.trans hsmall).trans (Binary64.two_pow_le (by decide)))
  -- The random part is at most the delay as it comes back from its seconds.
  have hback : nearestWhole (Binary64.nearest (part * Duration.secondsOf backoff.current.nanos) *
      nanosPerSecond) ≤ Duration.backNanos backoff.current.nanos :=
    nearestWhole_mono (mul_le_mul_of_nonneg_right
      ((Binary64.isHeld_nearest _).nearest_le hproduct) (Nat.cast_nonneg nanosPerSecond))
  have hroom := Duration.add_backNanos_lt (hbounded.current_le.trans hbounded.cap_le)
  rw [spread?, Duration.scale?, Duration.ofSeconds?_eq hspread]
  generalize nearestWhole _ = nanos at hback ⊢
  have hrange : nanos < UInt64.size * nanosPerSecond := by omega
  exact ⟨⟨nanos, hrange⟩, dif_pos hrange, (Nat.add_le_add_left hback _).trans_lt hroom⟩

theorem Bounded.exists_pause? (hbounded : backoff.Bounded) (draw : Nat) :
    ∃ pause, backoff.pause? draw = some pause := by
  obtain ⟨spread, hspread, hroom⟩ := hbounded.exists_spread?
  rw [pause?, hspread]
  simp only [Option.bind_eq_bind, Option.bind_some]
  split
  · exact ⟨_, rfl⟩
  · next hzero =>
      rw [Bool.not_eq_true, Duration.isZero_eq_false_iff] at hzero
      have hdraw := Nat.mod_lt draw hzero
      exact ⟨_, dif_pos (by omega)⟩

theorem Bounded.exists_next? (hbounded : backoff.Bounded) (draw : Nat) :
    ∃ pause, backoff.next? draw = some (pause, backoff.advance) := by
  obtain ⟨pause, hpause⟩ := hbounded.exists_pause? draw
  refine ⟨pause, ?_⟩
  rw [next?, hpause]
  rfl

theorem Bounded.iterate (hbounded : backoff.Bounded) (count : Nat) :
    (Backoff.advance^[count] backoff).Bounded := by
  induction count with
  | zero => exact hbounded
  | succ count ih =>
      rw [Function.iterate_succ_apply']
      exact ih.advance

theorem next?_eq_some_iff {draw : Nat} {pause : Duration} {next : Backoff} :
    backoff.next? draw = some (pause, next) ↔
      backoff.pause? draw = some pause ∧ backoff.advance = next := by
  cases hpause : backoff.pause? draw with
  | none => simp [next?, hpause]
  | some duration => simp [next?, hpause]

theorem count_eq_of_next? {draw : Nat} {pause : Duration} {next : Backoff}
    (hnext : backoff.next? draw = some (pause, next)) : next.count = backoff.count + 1 := by
  rw [← (next?_eq_some_iff.mp hnext).2]
  rfl

end Backoff

end LogRelay
