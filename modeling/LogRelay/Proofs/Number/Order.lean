import LogRelay.Proofs.Number.Binary64

/-!
# Comparisons and bounds

A number compares like the rational that it stands for, an infinite one is beyond every
bound, and NaN is on neither side of any.  So a test that asks for a bound refuses NaN, and
a test that refuses what is beyond the bound lets it through.
-/

namespace LogRelay

/-- The rational that the number stands for. -/
def FiniteBinary.value (number : FiniteBinary) : ℚ :=
  if number.negative then -number.magnitude else number.magnitude

namespace Binary64

/-- The number is not below the bound. -/
def IsAtLeast (bound : ℚ) : Binary64 → Prop
  | .nan => False
  | .infinite negative => negative = false
  | .finite number => bound ≤ number.value

/-- The number is above the bound. -/
def IsAbove (bound : ℚ) : Binary64 → Prop
  | .nan => False
  | .infinite negative => negative = false
  | .finite number => bound < number.value

/-- The number is not above the bound. -/
def IsAtMost (bound : ℚ) : Binary64 → Prop
  | .nan => False
  | .infinite negative => negative = true
  | .finite number => number.value ≤ bound

/-- Finite numbers compare like the rationals that they stand for, zeros with either sign
included. -/
theorem lt_finite_iff (left right : FiniteBinary) :
    lt (.finite left) (.finite right) = true ↔ left.value < right.value := by
  have hleft := left.magnitude_nonneg
  have hright := right.magnitude_nonneg
  cases hnegative : left.negative with
  | false =>
      cases hother : right.negative with
      | false =>
          simp only [lt, FiniteBinary.value, hnegative, hother, magnitudeLt_iff,
            Bool.false_eq_true, if_false]
      | true =>
          simp only [lt, FiniteBinary.value, hnegative, hother, Bool.false_eq_true, if_false,
            if_true, false_iff, not_lt]
          linarith
  | true =>
      cases hother : right.negative with
      | false =>
          have hzeros : (left.isZero && right.isZero) = true ↔
              left.magnitude = 0 ∧ right.magnitude = 0 := by
            rw [Bool.and_eq_true, isZero_iff, isZero_iff]
          simp only [lt, FiniteBinary.value, hnegative, hother, Bool.false_eq_true, if_false,
            if_true]
          rw [Bool.not_eq_true', ← Bool.not_eq_true, hzeros]
          constructor
          · intro hsome
            by_contra hnot
            exact hsome ⟨by linarith, by linarith⟩
          · rintro hless ⟨hfirst, hsecond⟩
            linarith
      | true =>
          simp only [lt, FiniteBinary.value, hnegative, hother, magnitudeLt_iff, if_true,
            neg_lt_neg_iff]

/-- A finite number is at most another one that is not below it. -/
theorem finite_le_iff (bound : FiniteBinary) (number : Binary64) :
    (Binary64.finite bound).le number = true ↔ number.IsAtLeast bound.value := by
  cases number with
  | nan => simp [le, isNaN, IsAtLeast]
  | infinite negative => cases negative <;> simp [le, isNaN, lt, IsAtLeast]
  | finite number =>
      have hless := lt_finite_iff number bound
      rw [le, IsAtLeast, ← not_lt, ← hless]
      simp [isNaN]

theorem le_finite_iff (bound : FiniteBinary) (number : Binary64) :
    number.le (.finite bound) = true ↔ number.IsAtMost bound.value := by
  cases number with
  | nan => simp [le, isNaN, IsAtMost]
  | infinite negative => cases negative <;> simp [le, isNaN, lt, IsAtMost]
  | finite number =>
      have hless := lt_finite_iff bound number
      rw [le, IsAtMost, ← not_lt, ← hless]
      simp [isNaN]

/-- What is not below a finite number is not below its value, or it is no number at all. -/
theorem not_lt_finite_iff (bound : FiniteBinary) (number : Binary64) :
    number.lt (.finite bound) = false ↔ number = .nan ∨ number.IsAtLeast bound.value := by
  cases number with
  | nan => simp [lt]
  | infinite negative => cases negative <;> simp [lt, IsAtLeast]
  | finite number =>
      have hless := lt_finite_iff number bound
      rw [← Bool.not_eq_true, hless, not_lt]
      simp [IsAtLeast]

theorem zero_eq : zero false = .finite ⟨false, 0, -1074, by decide⟩ := rfl

theorem value_zero : FiniteBinary.value ⟨false, 0, -1074, by decide⟩ = 0 := by
  simp [FiniteBinary.value, FiniteBinary.magnitude]

theorem value_one : FiniteBinary.value ⟨false, leadingBit, -52, by decide⟩ = 1 := by
  simp only [FiniteBinary.value, Bool.false_eq_true, if_false, magnitude_one]

/-- A number in the unit interval is its own nearest one there, with its sign. -/
theorem clamp_eq_self {number : Binary64} (hlow : number.IsAtLeast 0) (hhigh : number.IsAtMost 1) :
    number.clamp (zero false) one = number := by
  have hbelow : number.lt (zero false) = false := by
    rw [zero_eq, not_lt_finite_iff, value_zero]
    exact Or.inr hlow
  have habove : lt one number = false := by
    have hle := (le_finite_iff ⟨false, leadingBit, -52, by decide⟩ number).mpr
      (by rwa [value_one])
    rw [le, Bool.and_eq_true, Bool.not_eq_true'] at hle
    exact hle.2
  rw [clamp, hbelow, if_neg Bool.false_ne_true, habove, if_neg Bool.false_ne_true]

end Binary64

end LogRelay
