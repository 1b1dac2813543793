import LogRelay.Duration.Basic
import LogRelay.Proofs.Number.Arithmetic

/-!
# Spans in seconds and back

A span becomes seconds by rounding its whole seconds, its fraction and their sum.  A longer
span never comes to fewer seconds, and a span below two to the 23rd seconds comes back from
its seconds as it was.  Longer spans need not come back as long.
-/

namespace LogRelay.Duration

open Binary64

/-! ## Seconds -/

/-- The fraction of a second that the nanoseconds behind the last whole one are rounded to. -/
def fraction (nanos : Nat) : ℚ :=
  nearest ((nanos % nanosPerSecond : Nat) / (nanosPerSecond : Nat))

/-- The whole seconds and the fraction together, before the sum is rounded. -/
def roundedParts (nanos : Nat) : ℚ :=
  nearest (nanos / nanosPerSecond : Nat) + fraction nanos

/-- The seconds that a span of that many nanoseconds comes to. -/
def secondsOf (nanos : Nat) : ℚ :=
  nearest (roundedParts nanos)

theorem fraction_nonneg (nanos : Nat) : 0 ≤ fraction nanos :=
  nearest_nonneg _

theorem remainder_le (nanos : Nat) :
    ((nanos % nanosPerSecond : Nat) : ℚ) / (nanosPerSecond : Nat) ≤ 1 - 2 ^ (-30 : Int) := by
  have hrest : nanos % nanosPerSecond ≤ 999999999 := by
    simp only [nanosPerSecond]
    omega
  have hcast : ((nanos % nanosPerSecond : Nat) : ℚ) ≤ 999999999 := by exact_mod_cast hrest
  rw [div_le_iff₀ (by norm_num [nanosPerSecond])]
  refine hcast.trans ?_
  norm_num [nanosPerSecond]

/-- The fraction is not rounded up to a whole second. -/
theorem fraction_lt_one (nanos : Nat) : fraction nanos < 1 := by
  have hheld : IsHeld (1 - 2 ^ (-30 : Int)) := ⟨2 ^ 30 - 1, -30, by norm_num, by decide, by decide⟩
  refine (hheld.nearest_le (remainder_le nanos)).trans_lt ?_
  norm_num

theorem abs_fraction_sub_le (nanos : Nat) :
    |fraction nanos - (nanos % nanosPerSecond : Nat) / (nanosPerSecond : Nat)| ≤
      2 ^ (-54 : Int) := by
  rcases Nat.eq_zero_or_pos (nanos % nanosPerSecond) with hzero | hpositive
  · rw [fraction, hzero, Nat.cast_zero, zero_div, nearest_of_nonpos le_rfl, sub_zero, abs_zero]
    positivity
  · have hnanos : (0 : ℚ) < (nanos % nanosPerSecond : Nat) := by exact_mod_cast hpositive
    have hratio : (0 : ℚ) < (nanos % nanosPerSecond : Nat) / (nanosPerSecond : Nat) :=
      div_pos hnanos (by norm_num [nanosPerSecond])
    have hless : ((nanos % nanosPerSecond : Nat) : ℚ) / (nanosPerSecond : Nat) <
        2 ^ (-53 + 53 : Int) := by
      refine (remainder_le nanos).trans_lt ?_
      norm_num
    calc
      _ ≤ 2 ^ place _ / 2 := abs_nearest_sub_le hratio.le
      _ ≤ 2 ^ (-53 : Int) / 2 := by
        gcongr
        · exact one_le_two
        · exact place_le_of_lt hratio hless (by decide)
      _ = 2 ^ (-54 : Int) := by norm_num

theorem roundedParts_le {nanos bits : Nat} (hnanos : nanos ≤ 2 ^ bits * nanosPerSecond) :
    roundedParts nanos ≤ 2 ^ (bits + 1) := by
  have hwhole : nanos / nanosPerSecond ≤ 2 ^ bits :=
    Nat.div_le_of_le_mul (by rwa [Nat.mul_comm])
  have hheld : IsHeld (2 ^ bits) := by
    rw [← zpow_natCast]
    exact isHeld_two_pow (by omega)
  have hone : (1 : ℚ) ≤ 2 ^ bits := one_le_pow₀ one_le_two
  calc
    roundedParts nanos ≤ 2 ^ bits + 1 :=
      add_le_add (hheld.nearest_le (by exact_mod_cast hwhole)) (fraction_lt_one nanos).le
    _ ≤ 2 ^ (bits + 1) := by
      rw [pow_succ]
      linarith

theorem secondsOf_le {nanos bits : Nat} (hnanos : nanos ≤ 2 ^ bits * nanosPerSecond) :
    secondsOf nanos ≤ 2 ^ (bits + 1) := by
  have hheld : IsHeld (2 ^ (bits + 1)) := by
    rw [← zpow_natCast]
    exact isHeld_two_pow (by omega)
  exact hheld.nearest_le (roundedParts_le hnanos)

theorem le_range (duration : Duration) : duration.nanos ≤ 2 ^ 64 * nanosPerSecond :=
  duration.inRange.le

theorem standsFor_seconds (duration : Duration) :
    duration.seconds.StandsFor (secondsOf duration.nanos) := by
  have hsize : ((duration.nanos / nanosPerSecond : Nat) : ℚ) ≤ 2 ^ 64 := by
    have hwhole : duration.nanos / nanosPerSecond ≤ 2 ^ 64 :=
      Nat.div_le_of_le_mul (by rw [Nat.mul_comm]; exact duration.le_range)
    exact_mod_cast hwhole
  have hwhole := (isRounded_ofNat (duration.nanos / nanosPerSecond)).standsFor
    (hsize.trans (two_pow_le (by decide)))
  have hrest : (ofNat (duration.nanos % nanosPerSecond)).StandsFor
      (duration.nanos % nanosPerSecond : Nat) := by
    apply standsFor_ofNat
    simp only [nanosPerSecond]
    omega
  have hsecond : (ofNat nanosPerSecond).StandsFor nanosPerSecond := standsFor_ofNat (by decide)
  have hone : (1 : ℚ) - 2 ^ (-30 : Int) ≤ 2 ^ 0 := by norm_num
  have hfraction := (hrest.div hsecond (by norm_num [nanosPerSecond])).standsFor
    ((remainder_le duration.nanos).trans (hone.trans (two_pow_le (by decide))))
  exact (hwhole.add hfraction).standsFor
    ((roundedParts_le duration.le_range).trans (two_pow_le (by decide)))

/-! ## Order -/

theorem roundedParts_mono_of_div_eq {left right : Nat} (hle : left ≤ right)
    (hdiv : left / nanosPerSecond = right / nanosPerSecond) :
    roundedParts left ≤ roundedParts right := by
  have hrest : left % nanosPerSecond ≤ right % nanosPerSecond := by
    have hleft := Nat.div_add_mod left nanosPerSecond
    have hright := Nat.div_add_mod right nanosPerSecond
    rw [hdiv] at hleft
    omega
  have hfraction : fraction left ≤ fraction right := by
    apply nearest_mono
    gcongr
  rw [roundedParts, roundedParts, hdiv]
  exact add_le_add_right hfraction _

/-- A longer span does not come to fewer seconds. -/
theorem secondsOf_mono : Monotone secondsOf := by
  intro left right hle
  rcases Nat.lt_or_eq_of_le (Nat.div_le_div_right (c := nanosPerSecond) hle) with hless | hequal
  · have hright : nearest (right / nanosPerSecond : Nat) ≤ roundedParts right :=
      le_add_of_nonneg_right (fraction_nonneg right)
    rcases Nat.lt_or_ge (left / nanosPerSecond) (2 ^ 53) with hsmall | hgreat
    · -- Whole seconds are exact, and the fraction stays below the next one.
      apply nearest_mono
      have hnext : ((left / nanosPerSecond + 1 : Nat) : ℚ) ≤ (right / nanosPerSecond : Nat) := by
        exact_mod_cast hless
      calc
        roundedParts left = (left / nanosPerSecond : Nat) + fraction left := by
          rw [roundedParts, (isHeld_natCast hsmall.le).nearest_eq]
        _ ≤ (left / nanosPerSecond + 1 : Nat) := by
          rw [Nat.cast_add, Nat.cast_one]
          exact add_le_add_right (fraction_lt_one left).le _
        _ ≤ nearest (right / nanosPerSecond : Nat) := (isHeld_natCast hsmall).le_nearest hnext
        _ ≤ roundedParts right := hright
    · -- The fraction is lost beside whole seconds of more than 53 bits.
      have hbits : (2 : ℚ) ^ (53 : Int) ≤ (left / nanosPerSecond : Nat) := by exact_mod_cast hgreat
      have hheld : IsHeld (2 ^ (53 : Int)) := isHeld_two_pow (by decide)
      have hleft : secondsOf left = nearest (left / nanosPerSecond : Nat) :=
        (isHeld_nearest _).nearest_add (hheld.le_nearest hbits) (fraction_nonneg left)
          (fraction_lt_one left)
      have hdiv : ((left / nanosPerSecond : Nat) : ℚ) ≤ (right / nanosPerSecond : Nat) := by
        exact_mod_cast hless.le
      rw [hleft, ← (isHeld_nearest _).nearest_eq]
      exact nearest_mono ((nearest_mono hdiv).trans hright)
  · exact nearest_mono (roundedParts_mono_of_div_eq hle hequal)

/-! ## The way back -/

theorem ofSeconds?_eq {number : Binary64} {value : ℚ} (hnumber : number.StandsFor value) :
    ofSeconds? number = ofNanos? (nearestWhole (value * nanosPerSecond)) := by
  obtain ⟨finite, rfl, hsign, rfl⟩ := hnumber.exists_finite
  have hpositive : (finite.negative && !finite.isZero) = false := by
    have hzero : finite.negative = true → finite.isZero = true := by
      intro hnegative
      rw [isZero_iff, magnitude_eq, hsign hnegative, Nat.cast_zero, zero_div]
    cases hnegative : finite.negative with
    | false => rfl
    | true => rw [hzero hnegative]; rfl
  rw [ofSeconds?, hpositive, if_neg Bool.false_ne_true]
  change ofNanos? (roundHalfEven (finite.ratio.1 * nanosPerSecond) finite.ratio.2) = _
  rw [roundHalfEven_eq finite.ratio_den_pos, Nat.cast_mul, div_mul_eq_mul_div]

/-- The whole nanoseconds of the seconds that a span comes to. -/
def backNanos (nanos : Nat) : Nat :=
  nearestWhole (secondsOf nanos * nanosPerSecond)

theorem ofSeconds?_seconds (duration : Duration) :
    ofSeconds? duration.seconds = ofNanos? (backNanos duration.nanos) :=
  ofSeconds?_eq (standsFor_seconds duration)

theorem backNanos_le {nanos bits : Nat} (hnanos : nanos ≤ 2 ^ bits * nanosPerSecond) :
    backNanos nanos ≤ 2 ^ (bits + 1) * nanosPerSecond := by
  have hseconds : secondsOf nanos * nanosPerSecond ≤ (2 ^ (bits + 1) * nanosPerSecond : Nat) := by
    rw [Nat.cast_mul, Nat.cast_pow, Nat.cast_ofNat]
    exact mul_le_mul_of_nonneg_right (secondsOf_le hnanos) (Nat.cast_nonneg _)
  have hmono := nearestWhole_mono hseconds
  rwa [nearestWhole_natCast] at hmono

theorem backNanos_mono : Monotone backNanos := by
  intro left right hle
  apply nearestWhole_mono
  gcongr
  exact secondsOf_mono hle

theorem le_roundedParts {nanos : Nat} (hpositive : 0 < nanos) :
    2 ^ (-30 : Int) ≤ roundedParts nanos := by
  have hheld : IsHeld (2 ^ (-30 : Int)) := isHeld_two_pow (by decide)
  rcases Nat.eq_zero_or_pos (nanos / nanosPerSecond) with hzero | hwhole
  · have hrest : 1 ≤ nanos % nanosPerSecond := by
      have hsplit := Nat.div_add_mod nanos nanosPerSecond
      rw [hzero] at hsplit
      omega
    have hcast : (1 : ℚ) ≤ (nanos % nanosPerSecond : Nat) := by exact_mod_cast hrest
    have hratio : (2 : ℚ) ^ (-30 : Int) ≤
        (nanos % nanosPerSecond : Nat) / (nanosPerSecond : Nat) := by
      rw [le_div_iff₀ (by norm_num [nanosPerSecond])]
      refine le_trans ?_ hcast
      norm_num [nanosPerSecond]
    exact (hheld.le_nearest hratio).trans (le_add_of_nonneg_left (nearest_nonneg _))
  · have hcast : (1 : ℚ) ≤ (nanos / nanosPerSecond : Nat) := by exact_mod_cast hwhole
    have hsmall : (2 : ℚ) ^ (-30 : Int) ≤ 1 := by norm_num
    exact (hheld.le_nearest (hsmall.trans hcast)).trans
      (le_add_of_nonneg_right (fraction_nonneg nanos))

/-- The nanoseconds as seconds, without any rounding. -/
theorem div_nanosPerSecond (nanos : Nat) : (nanos : ℚ) / (nanosPerSecond : Nat) =
    (nanos / nanosPerSecond : Nat) + (nanos % nanosPerSecond : Nat) / (nanosPerSecond : Nat) := by
  have hsecond : ((nanosPerSecond : Nat) : ℚ) ≠ 0 := by norm_num [nanosPerSecond]
  have hsplit : (nanos : ℚ) = (nanosPerSecond : Nat) * (nanos / nanosPerSecond : Nat) +
      (nanos % nanosPerSecond : Nat) := by
    exact_mod_cast (Nat.div_add_mod nanos nanosPerSecond).symm
  rw [add_div' _ _ _ hsecond, div_left_inj' hsecond]
  linarith

theorem secondsOf_zero : secondsOf 0 = 0 := by
  simp [secondsOf, roundedParts, fraction, nearest_of_nonpos]

/-- A span of less than two to the 23rd seconds comes back from its seconds as it was. -/
theorem backNanos_eq {nanos : Nat} (hshort : nanos < 8388608 * nanosPerSecond) :
    backNanos nanos = nanos := by
  rcases Nat.eq_zero_or_pos nanos with rfl | hpositive
  · rw [backNanos, secondsOf_zero, zero_mul, nearestWhole_of_nonpos le_rfl]
  have hwhole : nanos / nanosPerSecond < 8388608 := Nat.div_lt_of_lt_mul (by rwa [Nat.mul_comm])
  have hfraction := abs_le.mp (abs_fraction_sub_le nanos)
  have hparts : roundedParts nanos = (nanos / nanosPerSecond : Nat) + fraction nanos := by
    rw [roundedParts, (isHeld_natCast (by omega)).nearest_eq]
  have hplace : place (roundedParts nanos) ≤ -30 := by
    have hcast : ((nanos / nanosPerSecond : Nat) : ℚ) + 1 ≤ 8388608 := by exact_mod_cast hwhole
    have hseconds : (8388608 : ℚ) ≤ 2 ^ (-30 + 53 : Int) := by norm_num
    apply place_le_of_lt (lt_of_lt_of_le (by positivity) (le_roundedParts hpositive)) _ (by decide)
    rw [hparts]
    linarith [fraction_lt_one nanos]
  have hsum := abs_le.mp ((abs_nearest_sub_le (le_trans (by positivity)
    (le_roundedParts hpositive))).trans (div_le_div_of_nonneg_right
      (zpow_le_zpow_right₀ one_le_two hplace) zero_le_two))
  have hexact := div_nanosPerSecond nanos
  rw [div_eq_iff (by norm_num [nanosPerSecond])] at hexact
  rw [← secondsOf, hparts] at hsum
  norm_num [nanosPerSecond] at hsum hfraction hexact
  rw [backNanos]
  apply le_antisymm
  · apply nearestWhole_le
    norm_num [nanosPerSecond]
    linarith
  · apply le_nearestWhole
    norm_num [nanosPerSecond]
    linarith

/-- The whole seconds are missed by half a unit of the last place of the sum at most. -/
theorem sub_le_nearest_whole (nanos : Nat) :
    ((nanos / nanosPerSecond : Nat) : ℚ) - 2 ^ place (roundedParts nanos) / 2 ≤
      nearest (nanos / nanosPerSecond : Nat) := by
  rcases Nat.eq_zero_or_pos (nanos / nanosPerSecond) with hzero | hwhole
  · have hunit : (0 : ℚ) ≤ 2 ^ place (roundedParts nanos) / 2 := by positivity
    rw [hzero, Nat.cast_zero, zero_sub]
    exact (neg_nonpos.mpr hunit).trans (nearest_nonneg _)
  · have hone : (1 : ℚ) ≤ (nanos / nanosPerSecond : Nat) := by exact_mod_cast hwhole
    have hpositive : (0 : ℚ) < (nanos / nanosPerSecond : Nat) := one_pos.trans_le hone
    have hleast : -52 ≤ place (nanos / nanosPerSecond : Nat) := le_place_of_le (by simpa using hone)
    have hplace : place (nanos / nanosPerSecond : Nat) ≤ place (roundedParts nanos) := by
      apply le_place_of_le
      have hheld : IsHeld (2 ^ (place (nanos / nanosPerSecond : Nat) + 52)) :=
        isHeld_two_pow (by omega)
      exact (hheld.le_nearest (zpow_place_le hpositive (by omega))).trans
        (le_add_of_nonneg_right (fraction_nonneg nanos))
    have hclose := (abs_le.mp (abs_nearest_sub_le hpositive.le)).1
    have hpowers : (2 : ℚ) ^ place (nanos / nanosPerSecond : Nat) ≤
        2 ^ place (roundedParts nanos) :=
      zpow_le_zpow_right₀ one_le_two hplace
    linarith

/-- The seconds of a span times a factor that is greater than one are no shorter span. -/
theorem le_nearestWhole_secondsOf_mul (nanos : Nat) {factor : ℚ}
    (hfactor : 1 + 2 ^ (-52 : Int) ≤ factor) :
    nanos ≤ nearestWhole (nearest (secondsOf nanos * factor) * nanosPerSecond) := by
  rcases Nat.eq_zero_or_pos nanos with rfl | hpositive
  · exact Nat.zero_le _
  have hparts := le_roundedParts hpositive
  have hpartsPos : 0 < roundedParts nanos := lt_of_lt_of_le (by positivity) hparts
  have hnormal : place (roundedParts nanos) ≠ -1074 := by
    have hleast : -82 ≤ place (roundedParts nanos) := le_place_of_le hparts
    omega
  have hnext := add_zpow_place_le_nearest_mul hpartsPos hnormal hfactor
  have hsum := (abs_le.mp (abs_nearest_sub_le hpartsPos.le)).1
  have hwhole := sub_le_nearest_whole nanos
  have hfraction := (abs_le.mp (abs_fraction_sub_le nanos)).1
  have hsplit : roundedParts nanos =
      nearest (nanos / nanosPerSecond : Nat) + fraction nanos := rfl
  have hexact := div_nanosPerSecond nanos
  have hseconds : (nanos : ℚ) / (nanosPerSecond : Nat) - 2 ^ (-54 : Int) ≤
      nearest (secondsOf nanos * factor) := by
    rw [secondsOf]
    linarith
  apply le_nearestWhole
  norm_num [nanosPerSecond] at hseconds ⊢
  linarith

end LogRelay.Duration
