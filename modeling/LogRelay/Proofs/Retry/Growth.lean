import LogRelay.Proofs.Config.Downstream
import LogRelay.Proofs.Retry.Delays
import Mathlib.Order.Iterate

/-!
# When delays do not shrink

A delay is multiplied in seconds.  If the multiplier is above one the next delay is not
shorter, whatever is lost by rounding.  If it is not, all that happens to a delay is that it
becomes seconds and a span again, and from two to the 23rd seconds on that can take a
nanosecond or more away.
-/

namespace LogRelay

/-! ## The multiplier -/

namespace Binary64

variable {multiplier : Binary64}

/-- Above one only finite numbers and the positive infinity are left. -/
theorem IsAbove.cases_one (habove : multiplier.IsAbove 1) :
    multiplier = .infinite false ∨
      ∃ factor, multiplier.StandsFor factor ∧ 1 + 2 ^ (-52 : Int) ≤ factor := by
  cases multiplier with
  | nan => exact habove.elim
  | infinite negative => exact Or.inl (congrArg Binary64.infinite habove)
  | finite number =>
      have hone : 1 < number.value := habove
      have hstands := standsFor_finite (zero_le_one.trans hone.le)
      refine Or.inr ⟨_, hstands, IsHeld.next_le ?_ hone⟩
      rw [← hstands.2]
      exact isHeld_magnitude number

/-- A number above one stays as it is. -/
theorem IsAbove.max_one (habove : multiplier.IsAbove 1) : multiplier.max one = multiplier := by
  have hless : multiplier.lt one = false := by
    rw [one_eq, not_lt_finite_iff, value_one]
    rcases habove.cases_one with rfl | ⟨factor, hstands, hfactor⟩
    · exact Or.inr rfl
    · have hpositive : (0 : ℚ) < 2 ^ (-52 : Int) := by positivity
      exact Or.inr (hstands.isAtLeast (by linarith))
  have hnumber : multiplier.isNaN = false := by
    cases multiplier with
    | nan => exact habove.elim
    | infinite negative => rfl
    | finite number => rfl
  rw [max, hnumber, hless, if_neg Bool.false_ne_true, if_neg Bool.false_ne_true]

/-- Whatever is not above one, NaN included, gives way to one. -/
theorem max_one_of_not_isAbove (habove : ¬ multiplier.IsAbove 1) :
    (multiplier.max one).StandsFor 1 := by
  rw [max]
  split
  · exact standsFor_one
  · next hnumber =>
      split
      · exact standsFor_one
      · next hless =>
          rw [Bool.not_eq_true, one_eq, not_lt_finite_iff, value_one] at hless
          rcases hless with rfl | hleast
          · exact absurd rfl hnumber
          · -- What is neither below one nor above it is one.
            cases multiplier with
            | nan => exact hleast.elim
            | infinite negative => exact absurd hleast habove
            | finite number =>
                have hone : number.value = 1 := le_antisymm (not_lt.mp habove) hleast
                have hstands := standsFor_finite (hone.symm ▸ zero_le_one)
                rwa [hone] at hstands

end Binary64

namespace Backoff

variable {backoff : Backoff} {value : ℚ}

/-! ## One step -/

theorem grown_of_none
    (hnone : Duration.ofSeconds? (backoff.current.seconds * backoff.multiplier) = none) :
    backoff.grown.nanos = backoff.cap.nanos := by
  rw [grown, hnone, Duration.nanos_min]
  exact Nat.min_self _

theorem nanos_grown (hproduct : (backoff.current.seconds * backoff.multiplier).StandsFor value) :
    backoff.grown.nanos = min (nearestWhole (value * nanosPerSecond)) backoff.cap.nanos := by
  rw [grown, Duration.ofSeconds?_eq hproduct, Duration.ofNanos?, Duration.nanos_min]
  split
  · rfl
  · next hrange =>
      have hcap := backoff.cap.inRange
      have hgreat : backoff.cap.nanos ≤ nearestWhole (value * nanosPerSecond) := by omega
      rw [Nat.min_eq_right hgreat]
      exact Nat.min_self _

/-- With a multiplier of one a delay becomes seconds and a span again. -/
theorem nanos_grown_of_one (hone : backoff.multiplier.StandsFor 1) :
    backoff.grown.nanos = min (Duration.backNanos backoff.current.nanos) backoff.cap.nanos := by
  have hproduct := backoff.current.standsFor_seconds.mul hone
  rw [mul_one] at hproduct
  exact nanos_grown (hproduct.exact (Binary64.isHeld_nearest _)
    ((Duration.secondsOf_le backoff.current.le_range).trans (Binary64.two_pow_le (by decide))))

/-- With a multiplier above one the next delay is no shorter. -/
theorem current_le_grown (habove : backoff.multiplier.IsAbove 1)
    (hcurrent : backoff.current.nanos ≤ backoff.cap.nanos) :
    backoff.current.nanos ≤ backoff.grown.nanos := by
  have hseconds := backoff.current.standsFor_seconds
  rcases habove.cases_one with hinfinite | ⟨factor, hfactor, hleast⟩
  · obtain ⟨seconds, hfinite, -⟩ := hseconds.exists_finite
    rw [grown_of_none]
    · exact hcurrent
    · rw [hfinite, hinfinite]
      change Duration.ofSeconds? (if seconds.isZero then .nan else .infinite _) = none
      split <;> rfl
  · rcases (hseconds.mul hfactor).standsFor_or with hproduct | ⟨negative, hinfinite⟩
    · rw [nanos_grown hproduct]
      exact Nat.le_min.mpr
        ⟨Duration.le_nearestWhole_secondsOf_mul backoff.current.nanos hleast, hcurrent⟩
    · rw [grown_of_none]
      · exact hcurrent
      · rw [hinfinite]
        rfl

end Backoff

/-! ## All steps -/

namespace RetryPolicy

variable {policy : RetryPolicy}

/-- No delay is shorter than the one before it. -/
def NeverShrinks (policy : RetryPolicy) : Prop :=
  ∀ index, (policy.delay index).nanos ≤ (policy.delay (index + 1)).nanos

theorem delay_zero (policy : RetryPolicy) : policy.delay 0 = policy.backoff.current := rfl

theorem delay_succ (policy : RetryPolicy) (index : Nat) :
    policy.delay (index + 1) = (Backoff.advance^[index] policy.backoff).grown := by
  rw [delay, Function.iterate_succ_apply']
  rfl

theorem neverShrinks_of_isAbove (habove : policy.multiplier.IsAbove 1) : policy.NeverShrinks := by
  intro index
  rw [delay_succ]
  apply Backoff.current_le_grown
  · have hmultiplier : policy.backoff.multiplier = policy.multiplier := habove.max_one
    rwa [Backoff.iterate_multiplier, hmultiplier]
  · rw [Backoff.iterate_cap]
    exact Backoff.iterate_current_le (Backoff.start_current_le _ _ _ _) index

/-- With a multiplier of one the delays are the iterates of a monotone function. -/
theorem nanos_delay_of_one (hone : policy.backoff.multiplier.StandsFor 1) (index : Nat) :
    (policy.delay index).nanos =
      (fun nanos => min (Duration.backNanos nanos) policy.backoff.cap.nanos)^[index]
        policy.backoff.current.nanos := by
  induction index with
  | zero => rw [delay_zero, Function.iterate_zero_apply]
  | succ index ih =>
      rw [Function.iterate_succ_apply', ← ih, delay_succ, Backoff.nanos_grown_of_one,
        Backoff.iterate_cap, delay]
      rwa [Backoff.iterate_multiplier]

/-- Whether delays shrink is settled by what the first one is when it comes back from its
seconds. -/
theorem neverShrinks_of_one_iff (hone : policy.backoff.multiplier.StandsFor 1) :
    policy.NeverShrinks ↔
      policy.backoff.current.nanos ≤ Duration.backNanos policy.backoff.current.nanos := by
  have hcurrent : policy.backoff.current.nanos ≤ policy.backoff.cap.nanos :=
    Backoff.start_current_le _ _ _ _
  constructor
  · intro hgrows
    have hfirst := hgrows 0
    rw [delay_succ, delay_zero, Function.iterate_zero_apply,
      Backoff.nanos_grown_of_one hone] at hfirst
    exact (Nat.le_min.mp hfirst).1
  · intro hback index
    have hstep : Monotone fun nanos => min (Duration.backNanos nanos) policy.backoff.cap.nanos :=
      fun _ _ hle => min_le_min_right _ (Duration.backNanos_mono hle)
    rw [nanos_delay_of_one hone, nanos_delay_of_one hone]
    exact hstep.monotone_iterate_of_le_map (Nat.le_min.mpr ⟨hback, hcurrent⟩) (Nat.le_succ index)

end RetryPolicy

/-! ## Valid settings -/

/-- Delays of a policy come back from their seconds. -/
theorem Duration.exists_back (millis : UInt64) :
    ∃ back, ofSeconds? (ofMillis millis).seconds = some back ∧
      back.nanos = backNanos (ofMillis millis).nanos := by
  have hrange : backNanos (ofMillis millis).nanos < UInt64.size * nanosPerSecond :=
    (Nat.le_add_left _ _).trans_lt (add_backNanos_lt (ofMillis_le millis))
  rw [ofSeconds?_seconds, ofNanos?, dif_pos hrange]
  exact ⟨_, rfl, rfl⟩

namespace Config

variable {config : Config}

/-- The delays of valid settings never shrink if and only if the multiplier is above one or the
initial delay is not shorter when it comes back from its seconds.  Below two to the 23rd
seconds it never is. -/
theorem neverShrinks_iff (hvalid : config.validate = .ok ()) :
    (config.retry.NeverShrinks ↔
      config.retry.multiplier.IsAbove 1 ∨
        ∃ back,
          Duration.ofSeconds? (Duration.ofMillis config.retry.initialDelayMs).seconds =
            some back ∧
          (Duration.ofMillis config.retry.initialDelayMs).nanos ≤ back.nanos) ∧
      (config.retry.initialDelayMs.toNat < 8388608000 → config.retry.NeverShrinks) := by
  obtain ⟨hsound, -⟩ := isSound_of_validate hvalid
  obtain ⟨back, hback, hnanos⟩ := Duration.exists_back config.retry.initialDelayMs
  have hfirst := hsound.retry.backoff.1
  by_cases habove : config.retry.multiplier.IsAbove 1
  · have hgrows := RetryPolicy.neverShrinks_of_isAbove habove
    exact ⟨iff_of_true hgrows (Or.inl habove), fun _ => hgrows⟩
  · have hone : config.retry.backoff.multiplier.StandsFor 1 :=
      Binary64.max_one_of_not_isAbove habove
    have hiff := RetryPolicy.neverShrinks_of_one_iff hone
    rw [hfirst, ← hnanos] at hiff
    constructor
    · rw [hiff, or_iff_right habove]
      constructor
      · exact fun hle => ⟨back, hback, hle⟩
      · rintro ⟨other, hother, hle⟩
        rw [hback, Option.some.injEq] at hother
        rwa [hother]
    · intro hshort
      apply hiff.mpr
      rw [hnanos, Duration.backNanos_eq]
      simp only [Duration.ofMillis, nanosPerMilli, nanosPerSecond]
      omega

/-- The initial delay is the cap, and the multiplier is one. -/
def steadyConfig (delayMs : UInt64) : Config :=
  { Config.standard with
    container := ⟨"f00d", "api"⟩
    retry := ⟨3, delayMs, delayMs, Binary64.zero false, Binary64.one⟩ }

/-- The longest delay in whole milliseconds below two to the 23rd seconds. -/
theorem neverShrinks_below_limit :
    (steadyConfig 8388607999).validate = .ok () ∧ (steadyConfig 8388607999).retry.NeverShrinks := by
  have hvalid : (steadyConfig 8388607999).validate = .ok () := by decide +kernel
  exact ⟨hvalid, (neverShrinks_iff hvalid).2 (by decide +kernel)⟩

/-- Six milliseconds above two to the 23rd seconds a nanosecond is lost. -/
theorem shrinks_above_limit :
    (steadyConfig 8388608006).validate = .ok () ∧
      ((steadyConfig 8388608006).retry.delay 1).nanos <
        ((steadyConfig 8388608006).retry.delay 0).nanos := by
  decide +kernel

end Config

end LogRelay
