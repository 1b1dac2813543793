/-!
# Rounding ratios

Powers of two and of ten, a ratio of two natural numbers rounded to a whole
number, and its binary order of magnitude.
-/

namespace LogRelay

def powerOfTwo (exponent : Nat) : Nat :=
  Nat.pow 2 exponent

def powerOfTen (exponent : Nat) : Nat :=
  Nat.pow 10 exponent

theorem powerOfTwo_pos (exponent : Nat) : 0 < powerOfTwo exponent :=
  Nat.pow_pos (by decide)

/-- The whole number nearest to `num / den`; a tie goes to the even one. -/
def roundHalfEven (num den : Nat) : Nat :=
  let quotient := num / den
  let twice := 2 * (num % den)
  if twice < den then quotient
  else if den < twice then quotient + 1
  else quotient + quotient % 2

/-- `num * 2 ^ shift / den` as a numerator and a denominator. -/
def scaleByPowerOfTwo (num den : Nat) (shift : Int) : Nat × Nat :=
  if 0 ≤ shift then (num * powerOfTwo shift.toNat, den)
  else (num, den * powerOfTwo (-shift).toNat)

/-- The exponent of the greatest power of two that is not above `num / den`. -/
def floorLog2 (num den : Nat) : Int :=
  let guess : Int := (num.log2 : Int) - (den.log2 : Int)
  let (scaledNum, scaledDen) := scaleByPowerOfTwo num den (-guess)
  if scaledNum < scaledDen then guess - 1 else guess

end LogRelay
