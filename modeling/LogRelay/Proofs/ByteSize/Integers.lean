import LogRelay.Config.Validation
import LogRelay.Proofs.ByteSize.Grammar
import LogRelay.Proofs.Number.Arithmetic

/-!
# Sizes of whole numbers

A size that is written as an integer of at most 53 bits is exact, whatever its unit: the
integer, the unit and their product are numbers of the format.  A product beyond the greatest
size is cut to it and does not wrap around.
-/

namespace LogRelay

namespace ByteSize

open Text

theorem Scale.exponent_le (scale : Option Scale) : Scale.exponent scale ≤ 50 := by
  rcases scale with _ | scale
  · decide
  · cases scale <;> decide

/-- An integer of at most 53 bits times a power of two that is not too great. -/
theorem toNatSaturating_mul {number : Binary64} {count exponent : Nat}
    (hnumber : number.StandsFor count) (hcount : count ≤ 2 ^ 53) (hexponent : exponent ≤ 50) :
    (number * Binary64.ofNat (powerOfTwo exponent)).toNatSaturating limit =
      min limit (count * 2 ^ exponent) := by
  have hunit : (Binary64.ofNat (powerOfTwo exponent)).StandsFor (2 ^ exponent : Nat) :=
    Binary64.standsFor_ofNat (Nat.pow_le_pow_right two_pos (by omega))
  have hheld : Binary64.IsHeld ((count : ℚ) * (2 ^ exponent : Nat)) :=
    ⟨count, exponent, by rw [Nat.cast_pow, Nat.cast_ofNat, zpow_natCast], hcount, by omega⟩
  have hsmall : (count : ℚ) * (2 ^ exponent : Nat) ≤ 2 ^ (1000 : Int) := by
    have hproduct : count * 2 ^ exponent ≤ 2 ^ 53 * 2 ^ 50 :=
      Nat.mul_le_mul hcount (Nat.pow_le_pow_right two_pos hexponent)
    calc
      (count : ℚ) * (2 ^ exponent : Nat) ≤ 2 ^ (103 : Int) := by exact_mod_cast hproduct
      _ ≤ 2 ^ (1000 : Int) := zpow_le_zpow_right₀ one_le_two (by decide)
  have hproduct := (hnumber.mul hunit).exact hheld hsmall
  rw [hproduct.toNatSaturating, ← Nat.cast_mul, Nat.floor_natCast]

end ByteSize

namespace Config

open ByteSize

/-- A size that is an integer of at most 53 bits, with leading zeros or not, times its unit:
the exact product, and the greatest size if the product is beyond it. -/
theorem parseSize_of_integer {digits : List Char} {scale : Option Scale} {text : String}
    (hsome : digits ≠ []) (hdigits : AreDigits digits)
    (hbits : Nat.ofDigitChars 10 digits 0 ≤ 2 ^ 53) (hspells : Spells digits scale text.toList) :
    parseSize text =
      .ok (min (Nat.ofDigitChars 10 digits 0 * 2 ^ Scale.exponent scale) (2 ^ 64 - 1)) := by
  obtain ⟨value, hvalue, hparse⟩ := hspells.exists_parse?
  rw [number?_of_digits hsome hdigits, Text.digitsValue_eq] at hvalue
  cases hvalue
  have hsize := toNatSaturating_mul (Binary64.standsFor_ofDecimal hbits) hbits
    (Scale.exponent_le scale)
  rw [parseSize, hparse, hsize, Nat.min_comm]
  rfl

/-- The greatest odd integer of 53 bits in kibibytes, and a product of 104 bits. -/
theorem parseSize_of_long_integers :
    parseSize " 009007199254740991 KiB" = .ok 9223372036854774784 ∧
      parseSize "9007199254740992P" = .ok 18446744073709551615 := by
  have hnone : Text.IsBlankText [] := List.forall_mem_nil _
  have hspace : Text.IsBlankText [' '] := List.forall_mem_singleton.mpr rfl
  have hodd : AreDigits "009007199254740991".toList := List.all_eq_true.mp (by decide)
  have hpower : AreDigits "9007199254740992".toList := List.all_eq_true.mp (by decide)
  have hkilo : IsScale (some .kilo) ['K'] := Or.inr rfl
  have hpeta : IsScale (some .peta) ['P'] := Or.inr rfl
  have hbinary : MayBe 'i' ['i'] := Or.inr (Or.inl rfl)
  have hbytes : MayBe 'b' ['B'] := Or.inr (Or.inr rfl)
  have hlong : IsUnit (some .kilo) ['K', 'i', 'B'] := .letters hkilo hbinary hbytes
  have hshort : IsUnit (some .peta) ['P'] := .letters hpeta (Or.inl rfl) (Or.inl rfl)
  have hspaced : Spells "009007199254740991".toList (some .kilo)
      " 009007199254740991 KiB".toList :=
    .parts hspace (.whole (by decide) hodd) hspace hlong hnone
  have hplain : Spells "9007199254740992".toList (some .peta) "9007199254740992P".toList :=
    .parts hnone (.whole (by decide) hpower) hnone hshort hnone
  constructor
  · rw [parseSize_of_integer (by decide) hodd (by decide +kernel) hspaced]
    exact congrArg Except.ok (by decide +kernel)
  · rw [parseSize_of_integer (by decide) hpower (by decide +kernel) hplain]
    exact congrArg Except.ok (by decide +kernel)

end Config

end LogRelay
