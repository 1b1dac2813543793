import LogRelay.Number.Rounding
import Mathlib.Algebra.Order.Field.Power
import Mathlib.Data.Nat.Log
import Mathlib.Tactic.Linarith
import Mathlib.Tactic.Positivity
import Mathlib.Tactic.Ring

/-!
# Binary orders of magnitude in the rationals

What the scaling of a ratio by a power of two and its binary order of magnitude come to as
rational numbers: the order of magnitude encloses the ratio between two powers of two.
-/

namespace LogRelay

variable {num den : Nat}

/-- The number that a numerator and a denominator stand for. -/
def quotient (ratio : Nat × Nat) : ℚ :=
  ratio.1 / ratio.2

theorem powerOfTwo_eq (exponent : Nat) : powerOfTwo exponent = 2 ^ exponent := rfl

theorem quotient_scaleByPowerOfTwo (num den : Nat) (shift : Int) :
    quotient (scaleByPowerOfTwo num den shift) = (num : ℚ) / den * 2 ^ shift := by
  rw [quotient, scaleByPowerOfTwo]
  split
  · next hshift =>
      have hpower : ((2 : ℚ) ^ shift) = 2 ^ shift.toNat := by
        rw [← zpow_natCast, Int.toNat_of_nonneg hshift]
      rw [hpower, powerOfTwo_eq]
      push_cast
      ring
  · next hshift =>
      have hpower : ((2 : ℚ) ^ shift) = (2 ^ (-shift).toNat)⁻¹ := by
        rw [← zpow_natCast, Int.toNat_of_nonneg (by omega), zpow_neg, inv_inv]
      rw [hpower, powerOfTwo_eq]
      push_cast
      rw [← div_div, div_eq_mul_inv ((num : ℚ) / den)]

theorem scaleByPowerOfTwo_den_pos (num : Nat) (hden : 0 < den) (shift : Int) :
    0 < (scaleByPowerOfTwo num den shift).2 := by
  rw [scaleByPowerOfTwo]
  split
  · exact hden
  · exact Nat.mul_pos hden (powerOfTwo_pos _)

theorem two_zpow_log2_le (hnum : num ≠ 0) : (2 : ℚ) ^ (num.log2 : Int) ≤ num := by
  rw [zpow_natCast]
  exact_mod_cast Nat.log2_self_le hnum

theorem lt_two_zpow_log2_succ (num : Nat) : (num : ℚ) < 2 ^ ((num.log2 : Int) + 1) := by
  have hlt : num < 2 ^ (num.log2 + 1) := Nat.lt_log2_self
  rw [← Int.natCast_succ, zpow_natCast]
  exact_mod_cast hlt

/-- The two logarithms are off by one at most. -/
theorem enclosed_by_guess (hnum : num ≠ 0) (hden : 0 < den) :
    (2 : ℚ) ^ ((num.log2 : Int) - den.log2 - 1) ≤ num / den ∧
      (num : ℚ) / den < 2 ^ ((num.log2 : Int) - den.log2 + 1) := by
  have hpos : (0 : ℚ) < den := by exact_mod_cast hden
  have htwo : (2 : ℚ) ≠ 0 := two_ne_zero
  constructor
  · rw [le_div_iff₀ hpos]
    calc
      (2 : ℚ) ^ ((num.log2 : Int) - den.log2 - 1) * den
          ≤ 2 ^ ((num.log2 : Int) - den.log2 - 1) * 2 ^ ((den.log2 : Int) + 1) :=
        mul_le_mul_of_nonneg_left (lt_two_zpow_log2_succ den).le (by positivity)
      _ = 2 ^ (num.log2 : Int) := by
        rw [← zpow_add₀ htwo]
        congr 1
        ring
      _ ≤ num := two_zpow_log2_le hnum
  · rw [div_lt_iff₀ hpos]
    calc
      (num : ℚ) < 2 ^ ((num.log2 : Int) + 1) := lt_two_zpow_log2_succ num
      _ = 2 ^ ((num.log2 : Int) - den.log2 + 1) * 2 ^ (den.log2 : Int) := by
        rw [← zpow_add₀ htwo]
        congr 1
        ring
      _ ≤ 2 ^ ((num.log2 : Int) - den.log2 + 1) * den :=
        mul_le_mul_of_nonneg_left (two_zpow_log2_le (Nat.ne_of_gt hden)) (by positivity)

theorem scaled_lt_iff (num : Nat) (hden : 0 < den) (exponent : Int) :
    (scaleByPowerOfTwo num den (-exponent)).1 < (scaleByPowerOfTwo num den (-exponent)).2 ↔
      (num : ℚ) / den < 2 ^ exponent := by
  have hpos : (0 : ℚ) < (scaleByPowerOfTwo num den (-exponent)).2 := by
    exact_mod_cast scaleByPowerOfTwo_den_pos num hden (-exponent)
  have hpower : (0 : ℚ) < 2 ^ exponent := by positivity
  have hquotient := quotient_scaleByPowerOfTwo num den (-exponent)
  rw [quotient, zpow_neg, ← div_eq_mul_inv] at hquotient
  have hcast : ((scaleByPowerOfTwo num den (-exponent)).1 : ℚ) <
      (scaleByPowerOfTwo num den (-exponent)).2 ↔
        (scaleByPowerOfTwo num den (-exponent)).1 < (scaleByPowerOfTwo num den (-exponent)).2 :=
    Nat.cast_lt
  rw [← hcast, ← div_lt_one hpos, hquotient, div_lt_one hpower]

theorem floorLog2_encloses (hnum : num ≠ 0) (hden : 0 < den) :
    (2 : ℚ) ^ floorLog2 num den ≤ num / den ∧
      (num : ℚ) / den < 2 ^ (floorLog2 num den + 1) := by
  obtain ⟨hlow, hhigh⟩ := enclosed_by_guess hnum hden
  have hcompare := scaled_lt_iff num hden ((num.log2 : Int) - den.log2)
  rw [floorLog2]
  dsimp only
  split
  · next hbelow =>
      refine ⟨hlow, ?_⟩
      rw [Int.sub_add_cancel]
      exact hcompare.mp hbelow
  · next habove => exact ⟨not_lt.mp (mt hcompare.mpr habove), hhigh⟩

end LogRelay
