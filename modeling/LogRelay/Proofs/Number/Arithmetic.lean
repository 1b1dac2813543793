import LogRelay.Proofs.Number.Order
import Mathlib.Tactic.FieldSimp

/-!
# What results stand for

Sums, products and quotients of numbers that are not below zero are exact results that have
been rounded once.  A result is the number nearest to the exact one, unless it is beyond all
numbers.
-/

namespace LogRelay.Binary64

/-- The number is finite, not below zero, and stands for the rational. -/
def StandsFor (value : ℚ) : Binary64 → Prop
  | .finite number =>
    (number.negative = true → number.significand = 0) ∧ number.magnitude = value
  | _ => False

/-- The number comes from the rational by one rounding. -/
inductive IsRounded (value : ℚ) : Binary64 → Prop
  | ratio {num den : Nat} {negative : Bool} (hden : 0 < den) (hsign : negative = true → num = 0)
      (hvalue : (num : ℚ) / den = value) : IsRounded value (round negative num den)

variable {value other : ℚ} {number left right : Binary64}

theorem standsFor_zero (negative : Bool) : (zero negative).StandsFor 0 := by
  refine ⟨fun _ => rfl, ?_⟩
  rw [FiniteBinary.magnitude, Nat.cast_zero, zero_mul]

/-- A finite number, with whatever sign it has when it is zero. -/
theorem StandsFor.exists_finite (hnumber : number.StandsFor value) :
    ∃ finite, number = .finite finite ∧ (finite.negative = true → finite.ratio.1 = 0) ∧
      (finite.ratio.1 : ℚ) / finite.ratio.2 = value := by
  cases number with
  | nan => exact hnumber.elim
  | infinite negative => exact hnumber.elim
  | finite finite =>
      refine ⟨finite, rfl, fun hnegative => ratio_eq_zero (hnumber.1 hnegative), ?_⟩
      rw [← magnitude_eq]
      exact hnumber.2

theorem StandsFor.nonneg (hnumber : number.StandsFor value) : 0 ≤ value := by
  obtain ⟨finite, -, -, rfl⟩ := hnumber.exists_finite
  exact ratio_nonneg finite

/-- A finite number that is not below zero stands for its value. -/
theorem standsFor_finite {finite : FiniteBinary} (hvalue : 0 ≤ finite.value) :
    (Binary64.finite finite).StandsFor finite.value := by
  cases hnegative : finite.negative with
  | false =>
      rw [FiniteBinary.value, hnegative, if_neg Bool.false_ne_true]
      exact ⟨fun htrue => absurd (hnegative.symm.trans htrue) Bool.false_ne_true, rfl⟩
  | true =>
      rw [FiniteBinary.value, if_pos hnegative] at hvalue ⊢
      have hzero : finite.magnitude = 0 := le_antisymm (by linarith) finite.magnitude_nonneg
      refine ⟨fun _ => ?_, by rw [hzero, neg_zero]⟩
      rwa [← isZero_iff, FiniteBinary.isZero, decide_eq_true_eq] at hzero

theorem standsFor_one : one.StandsFor 1 :=
  ⟨fun hnegative => absurd hnegative Bool.false_ne_true, magnitude_one⟩

theorem StandsFor.exists_value (hnumber : number.StandsFor value) :
    ∃ finite, number = .finite finite ∧ finite.value = value := by
  obtain ⟨finite, rfl, hsign, rfl⟩ := hnumber.exists_finite
  refine ⟨finite, rfl, ?_⟩
  rw [FiniteBinary.value, magnitude_eq]
  split
  · next hnegative => rw [hsign hnegative, Nat.cast_zero, zero_div, neg_zero]
  · rfl

theorem StandsFor.isAtLeast {bound : ℚ} (hnumber : number.StandsFor value)
    (hbound : bound ≤ value) : number.IsAtLeast bound := by
  obtain ⟨finite, rfl, rfl⟩ := hnumber.exists_value
  exact hbound

theorem StandsFor.isAtMost {bound : ℚ} (hnumber : number.StandsFor value)
    (hbound : value ≤ bound) : number.IsAtMost bound := by
  obtain ⟨finite, rfl, rfl⟩ := hnumber.exists_value
  exact hbound

/-- A number within a bound stands for a rational that is not above it. -/
theorem Within.exists_standsFor {bound : ℚ} (hnumber : number.Within bound) :
    ∃ value, number.StandsFor value ∧ value ≤ bound := by
  cases number with
  | nan => exact hnumber.elim
  | infinite negative => exact hnumber.elim
  | finite finite => exact ⟨_, ⟨hnumber.1, rfl⟩, hnumber.2⟩

/-! ## Rounding -/

theorem isRounded_zero : (zero false).IsRounded 0 := by
  have hzero : round false 0 1 = zero false := rfl
  rw [← hzero]
  exact .ratio Nat.one_pos (fun _ => rfl) (by simp)

/-- One rounding gives the nearest number or an infinite one. -/
theorem IsRounded.standsFor_or (hnumber : number.IsRounded value) :
    number.StandsFor (nearest value) ∨ ∃ negative, number = .infinite negative := by
  obtain ⟨hden, hsign, rfl⟩ := hnumber
  rename_i num den negative
  by_cases hnum : num = 0
  · left
    rw [round, if_pos hnum, hnum, Nat.cast_zero, zero_div, nearest_of_nonpos le_rfl]
    exact standsFor_zero negative
  · by_cases hcanonical : Canonical (carried num den).1 (carried num den).2
    · left
      rw [round_of_canonical hnum negative hcanonical]
      exact ⟨fun htrue => absurd (hsign htrue) hnum, carried_eq hnum hden⟩
    · right
      rw [round, if_neg hnum]
      exact ⟨negative, dif_neg hcanonical⟩

/-- What is far from the greatest number is rounded to the nearest one. -/
theorem IsRounded.standsFor (hnumber : number.IsRounded value)
    (hsmall : value ≤ 2 ^ (1000 : Int)) : number.StandsFor (nearest value) := by
  rcases hnumber.standsFor_or with hstands | ⟨sign, hinfinite⟩
  · exact hstands
  · obtain ⟨hden, hsign, rfl⟩ := hnumber
    rename_i num den negative
    by_cases hnum : num = 0
    · rw [round, if_pos hnum] at hinfinite
      cases hinfinite
    · rw [round_of_canonical hnum negative (canonical_carried hnum hden hsmall)] at hinfinite
      cases hinfinite

/-- Powers of two that are far from the greatest number. -/
theorem two_pow_le {bits : Nat} (hbits : bits ≤ 1000) : (2 : ℚ) ^ bits ≤ 2 ^ (1000 : Int) := by
  rw [← zpow_natCast]
  exact zpow_le_zpow_right₀ one_le_two (by omega)

/-! ## Operations -/

theorem isRounded_ofNat (count : Nat) : (ofNat count).IsRounded count := by
  rw [ofNat]
  exact .ratio Nat.one_pos (fun hnegative => absurd hnegative Bool.false_ne_true)
    (by rw [Nat.cast_one, div_one])

theorem StandsFor.mul (hleft : left.StandsFor value) (hright : right.StandsFor other) :
    (left * right).IsRounded (value * other) := by
  obtain ⟨first, rfl, hfirst, rfl⟩ := hleft.exists_finite
  obtain ⟨second, rfl, hsecond, rfl⟩ := hright.exists_finite
  change (round (first.negative != second.negative) (first.ratio.1 * second.ratio.1)
    (first.ratio.2 * second.ratio.2)).IsRounded _
  refine .ratio (Nat.mul_pos first.ratio_den_pos second.ratio_den_pos) ?_ ?_
  · intro hsign
    cases hnegative : first.negative with
    | true => rw [hfirst hnegative, Nat.zero_mul]
    | false =>
        rw [hnegative, Bool.false_bne] at hsign
        rw [hsecond hsign, Nat.mul_zero]
  · rw [Nat.cast_mul, Nat.cast_mul, div_mul_div_comm]

theorem StandsFor.add (hleft : left.StandsFor value) (hright : right.StandsFor other) :
    (left + right).IsRounded (value + other) := by
  obtain ⟨first, rfl, hfirst, rfl⟩ := hleft.exists_finite
  obtain ⟨second, rfl, hsecond, rfl⟩ := hright.exists_finite
  have hfirstDen : (0 : ℚ) < first.ratio.2 := by exact_mod_cast first.ratio_den_pos
  have hsecondDen : (0 : ℚ) < second.ratio.2 := by exact_mod_cast second.ratio_den_pos
  have hden := Nat.mul_pos first.ratio_den_pos second.ratio_den_pos
  have hsum : ((first.ratio.1 * second.ratio.2 + second.ratio.1 * first.ratio.2 : Nat) : ℚ) /
      (first.ratio.2 * second.ratio.2 : Nat) =
        first.ratio.1 / first.ratio.2 + second.ratio.1 / second.ratio.2 := by
    push_cast
    field_simp
  change (addFinite first second).IsRounded _
  simp only [addFinite]
  split
  · next hsame =>
      refine .ratio hden ?_ hsum
      intro hnegative
      rw [hfirst hnegative, hsecond (hsame.symm.trans hnegative), Nat.zero_mul, Nat.zero_mul]
  · next hdifferent =>
      -- One of the two numbers is a negative zero.
      have hzero : first.ratio.1 * second.ratio.2 = 0 ∨ second.ratio.1 * first.ratio.2 = 0 := by
        cases hnegative : first.negative with
        | true => exact Or.inl (by rw [hfirst hnegative, Nat.zero_mul])
        | false =>
            rw [hnegative] at hdifferent
            have hother : second.negative = true := by
              rw [← Bool.not_eq_false]
              exact Ne.symm hdifferent
            exact Or.inr (by rw [hsecond hother, Nat.zero_mul])
      rw [← hsum]
      split
      · next hequal =>
          have hnone : first.ratio.1 * second.ratio.2 + second.ratio.1 * first.ratio.2 = 0 := by
            omega
          rw [hnone, Nat.cast_zero, zero_div]
          exact isRounded_zero
      · split
        · next hgreater =>
            have hnone : second.ratio.1 * first.ratio.2 = 0 := by omega
            rw [hnone, Nat.sub_zero, Nat.add_zero]
            refine .ratio hden (fun hnegative => ?_) rfl
            rw [hfirst hnegative, Nat.zero_mul]
        · next hgreater =>
            have hnone : first.ratio.1 * second.ratio.2 = 0 := by omega
            rw [hnone, Nat.sub_zero, Nat.zero_add]
            refine .ratio hden (fun hnegative => ?_) rfl
            rw [hsecond hnegative, Nat.zero_mul]

theorem StandsFor.div (hleft : left.StandsFor value) (hright : right.StandsFor other)
    (hother : 0 < other) : (left / right).IsRounded (value / other) := by
  obtain ⟨first, rfl, hfirst, rfl⟩ := hleft.exists_finite
  obtain ⟨second, rfl, hsecond, rfl⟩ := hright.exists_finite
  have hden : (0 : ℚ) < second.ratio.2 := by exact_mod_cast second.ratio_den_pos
  have hnum : 0 < second.ratio.1 := by
    rw [div_pos_iff_of_pos_right hden] at hother
    exact_mod_cast hother
  have hpositive : second.negative = false := by
    rw [← Bool.not_eq_true]
    exact fun hnegative => Nat.ne_of_gt hnum (hsecond hnegative)
  have hzero : second.isZero = false := by
    rw [FiniteBinary.isZero, decide_eq_false_iff_not]
    exact fun hsignificand => Nat.ne_of_gt hnum (ratio_eq_zero hsignificand)
  change (if second.isZero then
      if first.isZero then Binary64.nan else .infinite (first.negative != second.negative)
    else round (first.negative != second.negative) (first.ratio.1 * second.ratio.2)
      (first.ratio.2 * second.ratio.1)).IsRounded _
  rw [hzero, if_neg Bool.false_ne_true, hpositive]
  refine .ratio (Nat.mul_pos first.ratio_den_pos hnum) ?_ ?_
  · intro hsign
    rw [Bool.bne_false] at hsign
    rw [hfirst hsign, Nat.zero_mul]
  · rw [Nat.cast_mul, Nat.cast_mul, div_div_div_eq]

/-! ## Exact results -/

/-- What the format can hold is not rounded. -/
theorem IsRounded.exact (hnumber : number.IsRounded value) (hheld : IsHeld value)
    (hsmall : value ≤ 2 ^ (1000 : Int)) : number.StandsFor value := by
  have hstands := hnumber.standsFor hsmall
  rwa [hheld.nearest_eq] at hstands

/-- Whole numbers of at most 53 bits are exact. -/
theorem standsFor_ofNat {count : Nat} (hcount : count ≤ 2 ^ 53) :
    (ofNat count).StandsFor count := by
  apply (isRounded_ofNat count).exact (isHeld_natCast hcount)
  have hpower : (count : ℚ) ≤ 2 ^ (53 : Int) := by exact_mod_cast hcount
  exact hpower.trans (zpow_le_zpow_right₀ one_le_two (by decide))

/-- Decimal integers of at most 53 bits are read exactly. -/
theorem standsFor_ofDecimal {digits : Nat} (hdigits : digits ≤ 2 ^ 53) :
    (ofDecimal false digits 0).StandsFor digits := by
  rw [ofDecimal]
  split
  · next hzero =>
      rw [hzero, Nat.cast_zero]
      exact standsFor_zero false
  · have hsize : ¬ (0 : Int) < -(400 + (digits.log2 : Int)) := by omega
    have hwhole : digits * powerOfTen (Int.toNat 0) = digits := Nat.mul_one digits
    rw [if_neg (by decide), if_neg hsize, if_pos le_rfl, hwhole]
    exact standsFor_ofNat hdigits

/-- The whole part of a number that is not below zero. -/
theorem StandsFor.toNatSaturating (hnumber : number.StandsFor value) (limit : Nat) :
    number.toNatSaturating limit = min limit ⌊value⌋₊ := by
  obtain ⟨finite, rfl, hsign, rfl⟩ := hnumber.exists_finite
  rw [Binary64.toNatSaturating, Nat.floor_div_eq_div]
  split
  · next hnegative => rw [hsign hnegative, Nat.zero_div, Nat.min_zero]
  · rfl

end LogRelay.Binary64
