import LogRelay.Proofs.Number.Order
import LogRelay.Proofs.Retry.Backoff

/-!
# The delays of a backoff

The delays are what the pauses are without their random part.  They do not depend on the
random choices, and from the first one on they are never above the cap.  A backoff whose
jitter is zero hands out the very delays.
-/

namespace LogRelay

namespace Backoff

variable {first backoff : Backoff} {draws : Nat → Nat} {count index : Nat}
variable {backoffs : Nat → Backoff} {pauses : Nat → Duration}

/-- Only the delay and the counter change. -/
theorem iterate_advance (count : Nat) (backoff : Backoff) :
    Backoff.advance^[count] backoff =
      { backoff with
        current := (Backoff.advance^[count] backoff).current
        count := backoff.count + count } := by
  induction count with
  | zero => rfl
  | succ count ih =>
      rw [Function.iterate_succ_apply']
      generalize Backoff.advance^[count] backoff = reached at ih ⊢
      rw [ih]
      rfl

@[simp]
theorem iterate_cap (count : Nat) (backoff : Backoff) :
    (Backoff.advance^[count] backoff).cap = backoff.cap := by
  rw [iterate_advance]

@[simp]
theorem iterate_jitter (count : Nat) (backoff : Backoff) :
    (Backoff.advance^[count] backoff).jitter = backoff.jitter := by
  rw [iterate_advance]

@[simp]
theorem iterate_multiplier (count : Nat) (backoff : Backoff) :
    (Backoff.advance^[count] backoff).multiplier = backoff.multiplier := by
  rw [iterate_advance]

@[simp]
theorem iterate_count (count : Nat) (backoff : Backoff) :
    (Backoff.advance^[count] backoff).count = backoff.count + count := by
  rw [iterate_advance]

/-- Whatever the product with the multiplier is, the delay after this one is not above the
cap. -/
theorem grown_le (backoff : Backoff) : backoff.grown.nanos ≤ backoff.cap.nanos :=
  Duration.min_le_right _ _

theorem iterate_current_le (hcurrent : backoff.current.nanos ≤ backoff.cap.nanos) (count : Nat) :
    (Backoff.advance^[count] backoff).current.nanos ≤ backoff.cap.nanos := by
  cases count with
  | zero => exact hcurrent
  | succ count =>
      rw [Function.iterate_succ_apply', ← iterate_cap count backoff]
      exact grown_le _

theorem start_current_le (initial cap : Duration) (jitter multiplier : Binary64) :
    (start initial cap jitter multiplier).current.nanos ≤
      (start initial cap jitter multiplier).cap.nanos :=
  Duration.min_le_right _ _

/-! ## Calls -/

/-- As many pauses, each with a random choice of its own, that a backoff hands out. -/
structure Calls (first : Backoff) (draws : Nat → Nat) (count : Nat) (backoffs : Nat → Backoff)
    (pauses : Nat → Duration) : Prop where
  first : backoffs 0 = first
  next : ∀ index < count, (backoffs index).next? (draws index) =
    some (pauses index, backoffs (index + 1))

/-- The random choices do not matter for what the backoff is after them. -/
theorem Calls.backoff_eq (hcalls : Calls first draws count backoffs pauses)
    (hindex : index ≤ count) : backoffs index = Backoff.advance^[index] first := by
  induction index with
  | zero => exact hcalls.first
  | succ index ih =>
      have hnext := (next?_eq_some_iff.mp (hcalls.next index hindex)).2
      rw [Function.iterate_succ_apply', ← ih (Nat.le_of_succ_le hindex), hnext]

/-- A bounded backoff hands out as many pauses as are asked for. -/
theorem Bounded.exists_calls (hbounded : first.Bounded) (draws : Nat → Nat) (count : Nat) :
    ∃ pauses, Calls first draws count (fun index => Backoff.advance^[index] first) pauses := by
  choose pauses hpauses using fun index => (hbounded.iterate index).exists_next? (draws index)
  refine ⟨pauses, rfl, fun index _ => ?_⟩
  rw [hpauses, ← Function.iterate_succ_apply' Backoff.advance]

/-! ## Pauses without a random part -/

theorem spread?_of_jitter (hjitter : backoff.jitter.StandsFor 0) :
    backoff.spread? = some Duration.zero := by
  have hproduct := hjitter.mul backoff.current.standsFor_seconds
  rw [zero_mul] at hproduct
  have hspread := hproduct.standsFor (by positivity)
  rw [Binary64.nearest_of_nonpos le_rfl] at hspread
  rw [spread?, Duration.scale?, Duration.ofSeconds?_eq hspread, zero_mul,
    nearestWhole_of_nonpos le_rfl]
  rfl

/-- Without jitter a pause is the delay. -/
theorem pause?_of_jitter (hjitter : backoff.jitter.StandsFor 0) (draw : Nat) :
    backoff.pause? draw = some backoff.current := by
  rw [pause?, spread?_of_jitter hjitter]
  rfl

/-- Without jitter every call comes to a pause. -/
theorem calls_of_jitter (hjitter : first.jitter.StandsFor 0) (draws : Nat → Nat) (count : Nat) :
    Calls first draws count (fun index => Backoff.advance^[index] first)
      (fun index => (Backoff.advance^[index] first).current) where
  first := rfl
  next := by
    intro index _
    have hplain : (Backoff.advance^[index] first).jitter.StandsFor 0 := by
      rwa [iterate_jitter]
    exact next?_eq_some_iff.mpr
      ⟨pause?_of_jitter hplain _, (Function.iterate_succ_apply' _ _ _).symm⟩

/-- A jitter of zero stays as it is, whatever its sign. -/
theorem start_jitter_of_zero {jitter : Binary64} (hjitter : jitter.StandsFor 0)
    (initial cap : Duration) (multiplier : Binary64) :
    (start initial cap jitter multiplier).jitter.StandsFor 0 := by
  have hsame : (start initial cap jitter multiplier).jitter = jitter :=
    Binary64.clamp_eq_self (hjitter.isAtLeast le_rfl) (hjitter.isAtMost zero_le_one)
  rwa [hsame]

end Backoff

/-- The delay of the call behind that many, without its random part. -/
def RetryPolicy.delay (policy : RetryPolicy) (index : Nat) : Duration :=
  (Backoff.advance^[index] policy.backoff).current

end LogRelay
