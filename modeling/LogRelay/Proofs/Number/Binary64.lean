import LogRelay.Number.Binary64
import LogRelay.Proofs.Number.Nearest

/-!
# Rounded ratios and the unit interval

A ratio is rounded to the number nearest to it, whichever way the ratio is written, and what
it is rounded to is finite if the ratio is far enough from the greatest number.  A number is
within a bound if it is finite, not below zero and at most the bound.
-/

namespace LogRelay

/-- The number without its sign. -/
def FiniteBinary.magnitude (number : FiniteBinary) : ℚ :=
  number.significand * 2 ^ number.exponent

theorem FiniteBinary.quotient_ratio (number : FiniteBinary) :
    quotient number.ratio = number.magnitude := by
  rw [ratio, quotient_scaleByPowerOfTwo, Nat.cast_one, div_one, magnitude]

theorem FiniteBinary.magnitude_nonneg (number : FiniteBinary) : 0 ≤ number.magnitude := by
  rw [magnitude]
  positivity

theorem FiniteBinary.ratio_den_pos (number : FiniteBinary) : 0 < number.ratio.2 :=
  scaleByPowerOfTwo_den_pos _ Nat.one_pos _

namespace Binary64

/-! ## Rounding -/

/-- The exponent of the last place of a number of that size. -/
def lastPlace (num den : Nat) : Int :=
  Max.max (-1074) (floorLog2 num den - 52)

/-- The number in units of its last place, rounded. -/
def roundedPlaces (num den : Nat) : Nat :=
  let (scaledNum, scaledDen) := scaleByPowerOfTwo num den (-lastPlace num den)
  roundHalfEven scaledNum scaledDen

/-- The rounded number with the place that a carry into a further bit asks for. -/
def carried (num den : Nat) : Nat × Int :=
  if roundedPlaces num den = 2 * leadingBit then (leadingBit, lastPlace num den + 1)
  else (roundedPlaces num den, lastPlace num den)

section Places

variable {num den : Nat} (hnum : num ≠ 0) (hden : 0 < den)

include hnum hden

theorem floorLog2_eq : floorLog2 num den = Int.log 2 ((num : ℚ) / den) := by
  have hpositive : (0 : ℚ) < num / den :=
    div_pos (by exact_mod_cast Nat.pos_of_ne_zero hnum) (by exact_mod_cast hden)
  obtain ⟨hlow, hhigh⟩ := floorLog2_encloses hnum hden
  apply le_antisymm
  · exact (Int.zpow_le_iff_le_log one_lt_two hpositive).mp (by exact_mod_cast hlow)
  · exact Int.lt_add_one_iff.mp
      ((Int.lt_zpow_iff_log_lt one_lt_two hpositive).mp (by exact_mod_cast hhigh))

theorem lastPlace_eq : lastPlace num den = place (num / den) := by
  rw [lastPlace, place, floorLog2_eq hnum hden]

theorem roundedPlaces_eq : roundedPlaces num den = places (num / den) := by
  have hscaled := scaleByPowerOfTwo_den_pos num hden (-lastPlace num den)
  have hquotient := quotient_scaleByPowerOfTwo num den (-lastPlace num den)
  rw [quotient, zpow_neg, ← div_eq_mul_inv] at hquotient
  rw [roundedPlaces, places, ← lastPlace_eq hnum hden, ← hquotient]
  exact roundHalfEven_eq hscaled

omit hnum hden in
theorem quotient_carried (num den : Nat) :
    ((carried num den).1 : ℚ) * 2 ^ (carried num den).2 =
      (roundedPlaces num den : ℚ) * 2 ^ lastPlace num den := by
  rw [carried]
  split
  · next hcarry =>
      rw [hcarry, zpow_add₀ two_ne_zero, zpow_one, Nat.cast_mul, Nat.cast_ofNat]
      ring
  · rfl

theorem carried_eq :
    ((carried num den).1 : ℚ) * 2 ^ (carried num den).2 = nearest (num / den) := by
  rw [quotient_carried, roundedPlaces_eq hnum hden, lastPlace_eq hnum hden, nearest]

theorem canonical_carried (hsmall : (num : ℚ) / den ≤ 2 ^ (1000 : Int)) :
    Canonical (carried num den).1 (carried num den).2 := by
  have hpositive : (0 : ℚ) < num / den :=
    div_pos (by exact_mod_cast Nat.pos_of_ne_zero hnum) (by exact_mod_cast hden)
  have hplace : place ((num : ℚ) / den) ≤ 970 :=
    place_le_of_lt hpositive
      (hsmall.trans_lt (zpow_lt_zpow_right₀ one_lt_two (by decide))) (by decide)
  have hleast : -1074 ≤ place ((num : ℚ) / den) := Int.le_max_left _ _
  have hbits : 2 * leadingBit = 2 ^ 53 := by decide
  have hhigh := places_le ((num : ℚ) / den)
  rw [carried, roundedPlaces_eq hnum hden, lastPlace_eq hnum hden]
  split
  · have hcarry : leadingBit < 2 * leadingBit := by decide
    exact ⟨hcarry, by omega, by omega, Or.inl (Nat.le_refl _)⟩
  · refine ⟨by omega, hleast, by omega, ?_⟩
    by_cases hlowest : place ((num : ℚ) / den) = -1074
    · exact Or.inr hlowest
    · have hlow := le_places hpositive hlowest
      exact Or.inl (by omega)

omit hden in
theorem round_of_canonical (negative : Bool)
    (hcanonical : Canonical (carried num den).1 (carried num den).2) :
    round negative num den =
      .finite ⟨negative, (carried num den).1, (carried num den).2, hcanonical⟩ := by
  rw [round, if_neg hnum]
  exact dif_pos hcanonical

end Places

theorem isHeld_magnitude (number : FiniteBinary) : IsHeld number.magnitude := by
  obtain ⟨hbits, hleast, -, -⟩ := number.canonical
  have hlimit : 2 * leadingBit = 2 ^ 53 := by decide
  exact ⟨_, _, rfl, by omega, hleast⟩

/-! ## Bounds -/

/-- The number is finite, not below zero and at most the bound. -/
def Within (bound : ℚ) : Binary64 → Prop
  | .finite number => (number.negative = true → number.significand = 0) ∧ number.magnitude ≤ bound
  | _ => False

theorem within_zero {bound : ℚ} (negative : Bool) (hbound : 0 ≤ bound) :
    (zero negative).Within bound := by
  refine ⟨fun _ => rfl, ?_⟩
  simpa [zero, FiniteBinary.magnitude] using hbound

theorem ratio_eq_zero {number : FiniteBinary} (hnumber : number.significand = 0) :
    number.ratio.1 = 0 := by
  rw [FiniteBinary.ratio, scaleByPowerOfTwo, hnumber]
  split <;> simp

theorem magnitude_eq (number : FiniteBinary) :
    number.magnitude = (number.ratio.1 : ℚ) / number.ratio.2 :=
  number.quotient_ratio.symm

theorem ratio_nonneg (number : FiniteBinary) : 0 ≤ (number.ratio.1 : ℚ) / number.ratio.2 := by
  rw [← magnitude_eq]
  exact number.magnitude_nonneg

theorem isZero_iff (number : FiniteBinary) : number.isZero = true ↔ number.magnitude = 0 := by
  have hpower : (2 : ℚ) ^ number.exponent ≠ 0 := by positivity
  rw [FiniteBinary.isZero, decide_eq_true_eq, FiniteBinary.magnitude, mul_eq_zero,
    or_iff_left hpower, Nat.cast_eq_zero]

/-! ## The unit interval -/

theorem one_eq : one = .finite ⟨false, leadingBit, -52, by decide⟩ := rfl

theorem magnitude_one : FiniteBinary.magnitude ⟨false, leadingBit, -52, by decide⟩ = 1 := by
  norm_num [FiniteBinary.magnitude, leadingBit]

theorem magnitudeLt_iff (first second : FiniteBinary) :
    magnitudeLt first second = true ↔ first.magnitude < second.magnitude := by
  have hfirst : (0 : ℚ) < first.ratio.2 := by exact_mod_cast first.ratio_den_pos
  have hsecond : (0 : ℚ) < second.ratio.2 := by exact_mod_cast second.ratio_den_pos
  rw [magnitudeLt, decide_eq_true_eq, magnitude_eq, magnitude_eq,
    div_lt_div_iff₀ hfirst hsecond]
  exact_mod_cast Iff.rfl

/-- Whatever is a number can be brought into the unit interval. -/
theorem within_clamp {number : Binary64} (hnumber : number.isNaN = false) :
    (number.clamp (zero false) one).Within 1 := by
  have hone : one.Within 1 := by
    rw [one_eq]
    exact ⟨fun hnegative => absurd hnegative Bool.false_ne_true, magnitude_one.le⟩
  rw [clamp]
  split
  · exact within_zero false zero_le_one
  · next hlow =>
      split
      · exact hone
      · next hhigh =>
          cases number with
          | nan => exact absurd hnumber Bool.noConfusion
          | infinite negative => cases negative <;> simp [lt, zero, one_eq] at hlow hhigh
          | finite value =>
              obtain ⟨negative, significand, exponent, hcanonical⟩ := value
              cases negative with
              | true =>
                  have hzero : significand = 0 := by
                    simpa [lt, zero, FiniteBinary.isZero] using hlow
                  refine ⟨fun _ => hzero, ?_⟩
                  simp [FiniteBinary.magnitude, hzero]
              | false =>
                  refine ⟨fun hnegative => absurd hnegative Bool.false_ne_true, ?_⟩
                  have hless : ¬ magnitudeLt ⟨false, leadingBit, -52, by decide⟩
                      ⟨false, significand, exponent, hcanonical⟩ = true := hhigh
                  rw [magnitudeLt_iff, magnitude_one] at hless
                  exact not_lt.mp hless

end Binary64

end LogRelay
