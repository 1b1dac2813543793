import LogRelay.Proofs.Number.Rounding
import Mathlib.Algebra.Order.Floor.Semifield
import Mathlib.Data.Int.Log
import Mathlib.Data.Rat.Floor
import Mathlib.Tactic.NormNum

/-!
# The nearest number

Rounding as a function of the rational numbers: which number is nearest does not depend on
how a ratio is written.  Rounding respects the order, does not change what the format can
hold, and misses its argument by half a unit of the last place at most.
-/

namespace LogRelay

/-! ## Whole numbers -/

/-- The whole number nearest to the rational, a tie to the even one; zero below zero. -/
def nearestWhole (value : ℚ) : Nat :=
  if value - ⌊value⌋₊ < 1 / 2 then ⌊value⌋₊
  else if 1 / 2 < value - ⌊value⌋₊ then ⌊value⌋₊ + 1
  else ⌊value⌋₊ + ⌊value⌋₊ % 2

theorem roundHalfEven_eq {num den : Nat} (hden : 0 < den) :
    roundHalfEven num den = nearestWhole (num / den) := by
  have hpos : (0 : ℚ) < den := by exact_mod_cast hden
  have hsplit : (num : ℚ) = den * (num / den : Nat) + (num % den : Nat) := by
    exact_mod_cast (Nat.div_add_mod num den).symm
  have hrest : (num : ℚ) / den - (num / den : Nat) = (num % den : Nat) / den := by
    rw [div_sub' hpos.ne', div_left_inj' hpos.ne']
    linarith
  have hbelow : 2 * (num % den) < den ↔ (num : ℚ) / den - (num / den : Nat) < 1 / 2 := by
    rw [hrest, div_lt_div_iff₀ hpos two_pos, ← Nat.cast_lt (α := ℚ)]
    push_cast
    rw [one_mul, mul_comm]
  have habove : den < 2 * (num % den) ↔ 1 / 2 < (num : ℚ) / den - (num / den : Nat) := by
    rw [hrest, div_lt_div_iff₀ two_pos hpos, ← Nat.cast_lt (α := ℚ)]
    push_cast
    rw [one_mul, mul_comm]
  rw [roundHalfEven, nearestWhole, Nat.floor_div_eq_div]
  simp only [hbelow, habove]

theorem nearestWhole_mono : Monotone nearestWhole := by
  intro left right hle
  have hfloor := Nat.floor_le_floor hle
  have hparity := Nat.mod_lt ⌊left⌋₊ two_pos
  rcases Nat.lt_or_eq_of_le hfloor with hless | hequal
  · have hleft : nearestWhole left ≤ ⌊left⌋₊ + 1 := by
      rw [nearestWhole]
      split_ifs <;> omega
    have hright : ⌊right⌋₊ ≤ nearestWhole right := by
      rw [nearestWhole]
      split_ifs <;> omega
    omega
  · rw [nearestWhole, nearestWhole, hequal]
    rw [hequal] at hparity
    split_ifs <;> first | omega | linarith

@[simp]
theorem nearestWhole_natCast (value : Nat) : nearestWhole value = value := by
  simp [nearestWhole]

theorem nearestWhole_of_nonpos {value : ℚ} (hvalue : value ≤ 0) : nearestWhole value = 0 := by
  have hmono := nearestWhole_mono hvalue
  rwa [← Nat.cast_zero, nearestWhole_natCast, Nat.le_zero] at hmono

theorem abs_nearestWhole_sub_le {value : ℚ} (hvalue : 0 ≤ value) :
    |(nearestWhole value : ℚ) - value| ≤ 1 / 2 := by
  have hlow := Nat.floor_le hvalue
  have hhigh := Nat.lt_floor_add_one value
  have hparity : ((⌊value⌋₊ % 2 : Nat) : ℚ) ≤ 1 := by
    exact_mod_cast Nat.le_of_lt_succ (Nat.mod_lt ⌊value⌋₊ two_pos)
  have hnonneg : (0 : ℚ) ≤ (⌊value⌋₊ % 2 : Nat) := Nat.cast_nonneg _
  rw [nearestWhole, abs_le]
  split_ifs <;> push_cast <;> constructor <;> linarith

/-- What is less than half a unit below a whole number is not rounded below it. -/
theorem le_nearestWhole {value : ℚ} {whole : Nat} (hvalue : (whole : ℚ) - 1 / 2 < value) :
    whole ≤ nearestWhole value := by
  rcases le_total value 0 with hnonpos | hnonneg
  · have hless : (whole : ℚ) < 1 := by linarith
    have hzero : whole = 0 := Nat.lt_one_iff.mp (by exact_mod_cast hless)
    rw [hzero]
    exact Nat.zero_le _
  · have hclose := abs_le.mp (abs_nearestWhole_sub_le hnonneg)
    have hless : (whole : ℚ) < nearestWhole value + 1 := by linarith [hclose.1]
    exact Nat.lt_succ_iff.mp (by exact_mod_cast hless)

/-- What is less than half a unit above a whole number is not rounded above it. -/
theorem nearestWhole_le {value : ℚ} {whole : Nat} (hvalue : value < whole + 1 / 2) :
    nearestWhole value ≤ whole := by
  rcases le_total value 0 with hnonpos | hnonneg
  · rw [nearestWhole_of_nonpos hnonpos]
    exact Nat.zero_le _
  · have hclose := abs_le.mp (abs_nearestWhole_sub_le hnonneg)
    have hless : (nearestWhole value : ℚ) < whole + 1 := by linarith [hclose.2]
    exact Nat.lt_succ_iff.mp (by exact_mod_cast hless)

namespace Binary64

/-! ## The last place -/

/-- The exponent of the last place of a number near the rational. -/
def place (value : ℚ) : Int :=
  Max.max (-1074) (Int.log 2 value - 52)

theorem place_mono {left right : ℚ} (hleft : 0 < left) (hle : left ≤ right) :
    place left ≤ place right :=
  max_le_max_left _ (Int.sub_le_sub_right (Int.log_mono_right hleft hle) 52)

/-- Numbers of that size have at most 53 places. -/
theorem lt_zpow_place (value : ℚ) : value < 2 ^ (place value + 53) := by
  have hlog := Int.lt_zpow_succ_log_self (b := 2) one_lt_two value
  refine lt_of_lt_of_le (by exact_mod_cast hlog) (zpow_le_zpow_right₀ one_le_two ?_)
  rw [place]
  omega

/-- Above the least place they have no fewer. -/
theorem zpow_place_le {value : ℚ} (hvalue : 0 < value) (hplace : place value ≠ -1074) :
    2 ^ (place value + 52) ≤ value := by
  have hlog := Int.zpow_log_le_self (b := 2) one_lt_two hvalue
  refine le_trans (zpow_le_zpow_right₀ one_le_two ?_) (by exact_mod_cast hlog)
  rw [place] at hplace ⊢
  omega

theorem place_le_of_lt {value : ℚ} {exponent : Int} (hvalue : 0 < value)
    (hless : value < 2 ^ (exponent + 53)) (hleast : -1074 ≤ exponent) : place value ≤ exponent := by
  have hlog : Int.log 2 value < exponent + 53 :=
    (Int.lt_zpow_iff_log_lt one_lt_two hvalue).mp (by exact_mod_cast hless)
  rw [place]
  omega

theorem le_place_of_le {value : ℚ} {exponent : Int} (hle : (2 : ℚ) ^ (exponent + 52) ≤ value) :
    exponent ≤ place value := by
  have hvalue : 0 < value := lt_of_lt_of_le (by positivity) hle
  have hlog : exponent + 52 ≤ Int.log 2 value :=
    (Int.zpow_le_iff_le_log one_lt_two hvalue).mp (by exact_mod_cast hle)
  rw [place]
  omega

/-! ## The nearest number -/

/-- How often the last place fits into the nearest number. -/
def places (value : ℚ) : Nat :=
  nearestWhole (value / 2 ^ place value)

/-- The number that the format holds nearest to the rational, if numbers had no greatest
exponent; zero below zero. -/
def nearest (value : ℚ) : ℚ :=
  places value * 2 ^ place value

theorem nearest_nonneg (value : ℚ) : 0 ≤ nearest value := by
  rw [nearest]
  positivity

theorem nearest_of_nonpos {value : ℚ} (hvalue : value ≤ 0) : nearest value = 0 := by
  have hnonpos : value / 2 ^ place value ≤ 0 :=
    div_nonpos_of_nonpos_of_nonneg hvalue (by positivity)
  rw [nearest, places, nearestWhole_of_nonpos hnonpos, Nat.cast_zero, zero_mul]

theorem places_le (value : ℚ) : places value ≤ 2 ^ 53 := by
  have hplaces : value / 2 ^ place value ≤ ((2 ^ 53 : Nat) : ℚ) := by
    rw [div_le_iff₀ (by positivity), Nat.cast_pow, Nat.cast_ofNat, ← zpow_natCast,
      ← zpow_add₀ two_ne_zero, add_comm]
    exact (lt_zpow_place value).le
  have hmono := nearestWhole_mono hplaces
  rwa [nearestWhole_natCast] at hmono

theorem le_places {value : ℚ} (hvalue : 0 < value) (hplace : place value ≠ -1074) :
    2 ^ 52 ≤ places value := by
  have hplaces : ((2 ^ 52 : Nat) : ℚ) ≤ value / 2 ^ place value := by
    rw [le_div_iff₀ (by positivity), Nat.cast_pow, Nat.cast_ofNat, ← zpow_natCast,
      ← zpow_add₀ two_ne_zero, add_comm]
    exact zpow_place_le hvalue hplace
  have hmono := nearestWhole_mono hplaces
  rwa [nearestWhole_natCast] at hmono

/-- Rounding respects the order. -/
theorem nearest_mono : Monotone nearest := by
  intro left right hle
  rcases le_or_gt left 0 with hnonpos | hpositive
  · rw [nearest_of_nonpos hnonpos]
    exact nearest_nonneg right
  · rcases (place_mono hpositive hle).lt_or_eq with hless | hequal
    · -- The greater number has more places than the smaller one can fill.
      have hplace : place right ≠ -1074 := by
        have hleast : -1074 ≤ place left := Int.le_max_left _ _
        omega
      have hleft : (places left : ℚ) ≤ 2 ^ (53 : Int) := by exact_mod_cast places_le left
      have hright : (2 : ℚ) ^ (52 : Int) ≤ places right := by
        exact_mod_cast le_places (hpositive.trans_le hle) hplace
      calc
        nearest left ≤ 2 ^ (53 : Int) * 2 ^ place left :=
          mul_le_mul_of_nonneg_right hleft (by positivity)
        _ = 2 ^ (53 + place left) := (zpow_add₀ two_ne_zero _ _).symm
        _ ≤ 2 ^ (52 + place right) := zpow_le_zpow_right₀ one_le_two (by omega)
        _ = 2 ^ (52 : Int) * 2 ^ place right := zpow_add₀ two_ne_zero _ _
        _ ≤ nearest right := mul_le_mul_of_nonneg_right hright (by positivity)
    · rw [nearest, nearest, places, places, hequal]
      have hscaled : left / 2 ^ place right ≤ right / 2 ^ place right :=
        div_le_div_of_nonneg_right hle (by positivity)
      exact mul_le_mul_of_nonneg_right (by exact_mod_cast nearestWhole_mono hscaled)
        (by positivity)

/-- Rounding misses its argument by half a unit of the last place at most. -/
theorem abs_nearest_sub_le {value : ℚ} (hvalue : 0 ≤ value) :
    |nearest value - value| ≤ 2 ^ place value / 2 := by
  have hpower : (0 : ℚ) < 2 ^ place value := by positivity
  have hclose := abs_nearestWhole_sub_le (div_nonneg hvalue hpower.le)
  have hsplit : nearest value - value =
      (nearestWhole (value / 2 ^ place value) - value / 2 ^ place value) * 2 ^ place value := by
    rw [sub_mul, div_mul_cancel₀ _ hpower.ne', nearest, places]
  rw [hsplit, abs_mul, abs_of_pos hpower]
  calc
    _ ≤ 1 / 2 * 2 ^ place value := mul_le_mul_of_nonneg_right hclose hpower.le
    _ = 2 ^ place value / 2 := by ring

/-! ## What the format can hold -/

/-- The format can hold the rational, if numbers had no greatest exponent. -/
def IsHeld (value : ℚ) : Prop :=
  ∃ (significand : Nat) (exponent : Int),
    value = significand * 2 ^ exponent ∧ significand ≤ 2 ^ 53 ∧ -1074 ≤ exponent

theorem isHeld_nearest (value : ℚ) : IsHeld (nearest value) :=
  ⟨places value, place value, rfl, places_le value, Int.le_max_left _ _⟩

theorem isHeld_natCast {value : Nat} (hvalue : value ≤ 2 ^ 53) : IsHeld value :=
  ⟨value, 0, by rw [zpow_zero, mul_one], hvalue, by decide⟩

theorem isHeld_two_pow {exponent : Int} (hleast : -1074 ≤ exponent) :
    IsHeld (2 ^ exponent) :=
  ⟨1, exponent, by rw [Nat.cast_one, one_mul], by decide, hleast⟩

/-- What the format can hold is a whole number of its last places. -/
theorem IsHeld.exists_places {value : ℚ} (hheld : IsHeld value) :
    ∃ count : Nat, value = count * 2 ^ place value := by
  obtain ⟨significand, exponent, rfl, hsignificand, hleast⟩ := hheld
  rcases Nat.eq_zero_or_pos significand with rfl | hpositive
  · exact ⟨0, by simp⟩
  have hcast : (0 : ℚ) < significand := by exact_mod_cast hpositive
  have hlimit : (significand : ℚ) ≤ 2 ^ (53 : Int) := by exact_mod_cast hsignificand
  have hpower : (0 : ℚ) < 2 ^ exponent := by positivity
  rcases le_or_gt (place (significand * 2 ^ exponent)) exponent with hle | hgreater
  · refine ⟨significand * 2 ^ (exponent - place (significand * 2 ^ exponent)).toNat, ?_⟩
    rw [Nat.cast_mul, Nat.cast_pow, Nat.cast_ofNat, ← zpow_natCast, Int.toNat_of_nonneg (by omega),
      mul_assoc, ← zpow_add₀ two_ne_zero, Int.sub_add_cancel]
  · -- Only a carry into the next place is left.
    have hvalue := zpow_place_le (mul_pos hcast hpower) (by omega)
    have hbound : (2 : ℚ) ^ (place (significand * 2 ^ exponent) + 52) ≤ 2 ^ (53 + exponent) := by
      rw [zpow_add₀ two_ne_zero 53]
      exact hvalue.trans (mul_le_mul_of_nonneg_right hlimit hpower.le)
    have hnext : place (significand * 2 ^ exponent) = exponent + 1 := by
      have hexponents := (zpow_le_zpow_iff_right₀ (one_lt_two (α := ℚ))).mp hbound
      omega
    rw [hnext, Int.add_assoc, add_comm exponent, zpow_add₀ two_ne_zero,
      mul_le_mul_iff_left₀ hpower] at hvalue
    refine ⟨2 ^ 52, ?_⟩
    have hfull : (significand : ℚ) = 2 ^ (53 : Int) := le_antisymm hlimit hvalue
    rw [hnext, hfull, Nat.cast_pow, Nat.cast_ofNat, ← zpow_natCast, ← zpow_add₀ two_ne_zero,
      ← zpow_add₀ two_ne_zero]
    congr 1
    omega

/-- What the format can hold is not changed. -/
theorem IsHeld.nearest_eq {value : ℚ} (hheld : IsHeld value) : nearest value = value := by
  obtain ⟨count, hcount⟩ := hheld.exists_places
  have hscaled : value / 2 ^ place value = count := by
    rw [div_eq_iff (by positivity)]
    exact hcount
  rw [nearest, places, hscaled, nearestWhole_natCast, ← hcount]

/-- Rounding does not go below a number of the format. -/
theorem IsHeld.le_nearest {bound value : ℚ} (hheld : IsHeld bound) (hle : bound ≤ value) :
    bound ≤ nearest value := by
  rw [← hheld.nearest_eq]
  exact nearest_mono hle

/-- Rounding does not go above a number of the format. -/
theorem IsHeld.nearest_le {bound value : ℚ} (hheld : IsHeld bound) (hle : value ≤ bound) :
    nearest value ≤ bound := by
  rw [← hheld.nearest_eq]
  exact nearest_mono hle

/-! ## Neighbours -/

/-- What is added to a great number is lost if it is below one. -/
theorem IsHeld.nearest_add {base part : ℚ} (hheld : IsHeld base) (hgreat : 2 ^ (53 : Int) ≤ base)
    (hnonneg : 0 ≤ part) (hless : part < 1) : nearest (base + part) = base := by
  obtain ⟨count, hcount⟩ := hheld.exists_places
  have hbase : 0 < base := lt_of_lt_of_le (by positivity) hgreat
  have hpower : (0 : ℚ) < 2 ^ place base := by positivity
  have hleast : 1 ≤ place base := le_place_of_le hgreat
  have hunit : (2 : ℚ) ≤ 2 ^ place base := by
    have hpowers := zpow_le_zpow_right₀ (one_le_two (α := ℚ)) hleast
    rwa [zpow_one] at hpowers
  have hroom : count + 1 ≤ 2 ^ 53 := by
    have hbits : (count : ℚ) * 2 ^ place base < 2 ^ (53 : Int) * 2 ^ place base := by
      rw [← hcount, ← zpow_add₀ two_ne_zero, add_comm]
      exact lt_zpow_place base
    exact_mod_cast (mul_lt_mul_iff_left₀ hpower).mp hbits
  have hplace : place (base + part) = place base := by
    apply le_antisymm
    · apply place_le_of_lt (by linarith) _ (Int.le_max_left _ _)
      have hcast : ((count : ℚ) + 1) ≤ 2 ^ (53 : Int) := by exact_mod_cast hroom
      calc
        base + part < (count + 1) * 2 ^ place base := by linarith
        _ ≤ 2 ^ (53 : Int) * 2 ^ place base := mul_le_mul_of_nonneg_right hcast hpower.le
        _ = 2 ^ (place base + 53) := by rw [← zpow_add₀ two_ne_zero, add_comm]
    · exact place_mono hbase (by linarith)
  have hscaled : (base + part) / 2 ^ place base = count + part / 2 ^ place base := by
    rw [add_div, div_eq_iff hpower.ne' |>.mpr hcount]
  have hpart : part / 2 ^ place base < 1 / 2 := by
    rw [div_lt_div_iff₀ hpower two_pos]
    linarith
  have hpartNonneg : 0 ≤ part / 2 ^ place base := div_nonneg hnonneg hpower.le
  have hplaces : places (base + part) = count := by
    rw [places, hplace, hscaled]
    exact le_antisymm (nearestWhole_le (by linarith)) (le_nearestWhole (by linarith))
  rw [nearest, hplaces, hplace, ← hcount]

/-- The least number of the format above one. -/
theorem IsHeld.next_le {value : ℚ} (hheld : IsHeld value) (hvalue : 1 < value) :
    1 + 2 ^ (-52 : Int) ≤ value := by
  obtain ⟨count, hcount⟩ := hheld.exists_places
  have hplace : -52 ≤ place value := le_place_of_le (by simpa using hvalue.le)
  have hunit : (0 : ℚ) < 2 ^ (-52 : Int) := by positivity
  -- Above one the last place is a multiple of the one of one.
  have hmultiple : value = (count * 2 ^ (place value + 52).toNat : Nat) * 2 ^ (-52 : Int) := by
    rw [Nat.cast_mul, Nat.cast_pow, Nat.cast_ofNat, ← zpow_natCast,
      Int.toNat_of_nonneg (by omega), mul_assoc, ← zpow_add₀ two_ne_zero, Int.add_neg_cancel_right]
    exact hcount
  have hone : (1 : ℚ) = (2 ^ 52 : Nat) * 2 ^ (-52 : Int) := by norm_num
  generalize count * 2 ^ (place value + 52).toNat = units at hmultiple
  rw [hmultiple, hone, mul_lt_mul_iff_left₀ hunit, Nat.cast_lt] at hvalue
  calc
    (1 : ℚ) + 2 ^ (-52 : Int) = (2 ^ 52 + 1 : Nat) * 2 ^ (-52 : Int) := by norm_num
    _ ≤ units * 2 ^ (-52 : Int) := mul_le_mul_of_nonneg_right (by exact_mod_cast hvalue) hunit.le
    _ = value := hmultiple.symm

/-- A factor that is greater than one takes a number to the next one at least. -/
theorem add_zpow_place_le_nearest_mul {value factor : ℚ} (hvalue : 0 < value)
    (hplace : place value ≠ -1074) (hfactor : 1 + 2 ^ (-52 : Int) ≤ factor) :
    nearest value + 2 ^ place value ≤ nearest (nearest value * factor) := by
  have hpower : (0 : ℚ) < 2 ^ place value := by positivity
  have hlow : (2 : ℚ) ^ (52 : Int) ≤ places value := by exact_mod_cast le_places hvalue hplace
  have hleast : -1074 ≤ place value := Int.le_max_left _ _
  have hproduct : nearest value + places value * 2 ^ (-52 : Int) * 2 ^ place value ≤
      nearest value * factor := by
    calc
      _ = nearest value * (1 + 2 ^ (-52 : Int)) := by
        rw [nearest]
        ring
      _ ≤ nearest value * factor := mul_le_mul_of_nonneg_left hfactor (nearest_nonneg value)
  rcases Nat.lt_or_eq_of_le (places_le value) with hless | hfull
  · have hheld : IsHeld ((places value + 1 : Nat) * 2 ^ place value) :=
      ⟨_, _, rfl, hless, hleast⟩
    have hnext : nearest value + 2 ^ place value = (places value + 1 : Nat) * 2 ^ place value := by
      rw [nearest]
      push_cast
      ring
    rw [hnext]
    apply hheld.le_nearest
    rw [← hnext]
    refine le_trans (add_le_add_right ?_ _) hproduct
    have hone : (1 : ℚ) ≤ places value * 2 ^ (-52 : Int) := by
      rw [zpow_neg, ← div_eq_mul_inv, one_le_div (by positivity)]
      exact hlow
    exact le_mul_of_one_le_left hpower.le hone
  · -- All places are filled, so the next number has a place less.
    have hplaces : (places value : ℚ) = 2 ^ (53 : Int) := by exact_mod_cast hfull
    have hheld : IsHeld ((2 ^ 52 + 1 : Nat) * 2 ^ (place value + 1)) :=
      ⟨_, _, rfl, by decide, by omega⟩
    have hnext : ((2 ^ 52 + 1 : Nat) : ℚ) * 2 ^ (place value + 1) =
        nearest value + places value * 2 ^ (-52 : Int) * 2 ^ place value := by
      rw [nearest, hplaces, zpow_add₀ two_ne_zero]
      norm_num
      ring
    refine le_trans ?_ (hheld.le_nearest (hnext.trans_le hproduct))
    rw [hnext, hplaces, ← zpow_add₀ two_ne_zero]
    exact add_le_add_right (le_mul_of_one_le_left hpower.le (by norm_num)) _

end Binary64

end LogRelay
