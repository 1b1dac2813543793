import LogRelay.Number.Rounding

/-!
# Double precision numbers

The numbers of the 64-bit binary format.  Every operation is the exact result
in the rationals followed by one rounding to nearest, ties to even.
-/

namespace LogRelay

/-- The weight of the highest of the 53 bits of a significand. -/
def leadingBit : Nat := 4503599627370496

/-- A significand and an exponent that the format can hold: 53 bits, of which
the highest is set unless the exponent is the least one. -/
def Canonical (significand : Nat) (exponent : Int) : Prop :=
  significand < 2 * leadingBit ∧ -1074 ≤ exponent ∧ exponent ≤ 971 ∧
    (leadingBit ≤ significand ∨ exponent = -1074)

instance (significand : Nat) (exponent : Int) : Decidable (Canonical significand exponent) := by
  unfold Canonical
  infer_instance

/-- The number `significand * 2 ^ exponent`, with a sign; zero has one too. -/
structure FiniteBinary where
  negative : Bool
  significand : Nat
  exponent : Int
  canonical : Canonical significand exponent
  deriving DecidableEq, Repr

inductive Binary64 where
  | nan
  | infinite (negative : Bool)
  | finite (number : FiniteBinary)
  deriving DecidableEq, Repr

namespace FiniteBinary

/-- The magnitude as a ratio. -/
def ratio (number : FiniteBinary) : Nat × Nat :=
  scaleByPowerOfTwo number.significand 1 number.exponent

def isZero (number : FiniteBinary) : Bool :=
  number.significand = 0

end FiniteBinary

namespace Binary64

def zero (negative : Bool) : Binary64 :=
  .finite ⟨negative, 0, -1074, by decide⟩

instance : Inhabited Binary64 := ⟨zero false⟩

/-- The number nearest to `num / den`.  What no exponent can hold is infinite. -/
def round (negative : Bool) (num den : Nat) : Binary64 :=
  if num = 0 then zero negative
  else
    let exponent := max (-1074) (floorLog2 num den - 52)
    let (scaledNum, scaledDen) := scaleByPowerOfTwo num den (-exponent)
    let significand := roundHalfEven scaledNum scaledDen
    let (significand, exponent) :=
      if significand = 2 * leadingBit then (leadingBit, exponent + 1)
      else (significand, exponent)
    if hcanonical : Canonical significand exponent then
      .finite ⟨negative, significand, exponent, hcanonical⟩
    else .infinite negative

def ofNat (value : Nat) : Binary64 :=
  round false value 1

def one : Binary64 := ofNat 1

/-- The number nearest to `digits * 10 ^ exponent`.  Exponents that are out of
all proportion are decided without computing the power. -/
def ofDecimal (negative : Bool) (digits : Nat) (exponent : Int) : Binary64 :=
  if digits = 0 then zero negative
  else if 400 < exponent then .infinite negative
  else if exponent < -(400 + (digits.log2 : Int)) then zero negative
  else if 0 ≤ exponent then round negative (digits * powerOfTen exponent.toNat) 1
  else round negative digits (powerOfTen (-exponent).toNat)

def isNaN : Binary64 → Bool
  | .nan => true
  | _ => false

def negative : Binary64 → Bool
  | .nan => false
  | .infinite negative => negative
  | .finite number => number.negative

/-- The sum of two magnitudes with signs; an exact zero is positive unless both
parts are negative. -/
def addFinite (left right : FiniteBinary) : Binary64 :=
  let (leftNum, leftDen) := left.ratio
  let (rightNum, rightDen) := right.ratio
  let den := leftDen * rightDen
  let leftNum := leftNum * rightDen
  let rightNum := rightNum * leftDen
  if left.negative = right.negative then round left.negative (leftNum + rightNum) den
  else if leftNum = rightNum then zero false
  else if rightNum < leftNum then round left.negative (leftNum - rightNum) den
  else round right.negative (rightNum - leftNum) den

def add : Binary64 → Binary64 → Binary64
  | .nan, _ => .nan
  | _, .nan => .nan
  | .infinite left, .infinite right => if left = right then .infinite left else .nan
  | .infinite left, .finite _ => .infinite left
  | .finite _, .infinite right => .infinite right
  | .finite left, .finite right => addFinite left right

def mul : Binary64 → Binary64 → Binary64
  | .nan, _ => .nan
  | _, .nan => .nan
  | .infinite left, .infinite right => .infinite (left != right)
  | .infinite left, .finite right =>
    if right.isZero then .nan else .infinite (left != right.negative)
  | .finite left, .infinite right =>
    if left.isZero then .nan else .infinite (left.negative != right)
  | .finite left, .finite right =>
    let (leftNum, leftDen) := left.ratio
    let (rightNum, rightDen) := right.ratio
    round (left.negative != right.negative) (leftNum * rightNum) (leftDen * rightDen)

def div : Binary64 → Binary64 → Binary64
  | .nan, _ => .nan
  | _, .nan => .nan
  | .infinite _, .infinite _ => .nan
  | .infinite left, .finite right => .infinite (left != right.negative)
  | .finite left, .infinite right => zero (left.negative != right)
  | .finite left, .finite right =>
    if right.isZero then
      if left.isZero then .nan else .infinite (left.negative != right.negative)
    else
      let (leftNum, leftDen) := left.ratio
      let (rightNum, rightDen) := right.ratio
      round (left.negative != right.negative) (leftNum * rightDen) (leftDen * rightNum)

instance : Add Binary64 := ⟨add⟩
instance : Mul Binary64 := ⟨mul⟩
instance : Div Binary64 := ⟨div⟩

def neg : Binary64 → Binary64
  | .nan => .nan
  | .infinite negative => .infinite (!negative)
  | .finite number => .finite { number with negative := !number.negative }

/-- Whether the magnitude on the left is below the one on the right. -/
def magnitudeLt (left right : FiniteBinary) : Bool :=
  let (leftNum, leftDen) := left.ratio
  let (rightNum, rightDen) := right.ratio
  leftNum * rightDen < rightNum * leftDen

/-- The order of the numbers.  NaN is below nothing and above nothing, and the
two zeros are equal. -/
def lt : Binary64 → Binary64 → Bool
  | .nan, _ => false
  | _, .nan => false
  | .infinite left, .infinite right => left && !right
  | .infinite left, .finite _ => left
  | .finite _, .infinite right => !right
  | .finite left, .finite right =>
    match left.negative, right.negative with
    | false, false => magnitudeLt left right
    | true, true => magnitudeLt right left
    | true, false => !(left.isZero && right.isZero)
    | false, true => false

/-- At most: both are numbers and the right one is not below the left one. -/
def le (left right : Binary64) : Bool :=
  !left.isNaN && !right.isNaN && !lt right left

/-- The greater of the two; NaN gives way to a number. -/
def max (left right : Binary64) : Binary64 :=
  if left.isNaN then right else if lt left right then right else left

/-- The nearest number between the bounds; NaN stays NaN. -/
def clamp (number low high : Binary64) : Binary64 :=
  if lt number low then low else if lt high number then high else number

/-- The whole part, cut off at zero and at `limit`; NaN counts as zero. -/
def toNatSaturating (limit : Nat) : Binary64 → Nat
  | .nan => 0
  | .infinite negative => if negative then 0 else limit
  | .finite number =>
    if number.negative then 0
    else
      let (num, den) := number.ratio
      min limit (num / den)

def signBit (negative : Bool) : Nat :=
  if negative then 0x8000000000000000 else 0

/-- The 64 bits: sign, eleven bits of exponent, 52 bits of fraction. -/
def toBits : Binary64 → Nat
  | .nan => 0x7ff8000000000000
  | .infinite negative => signBit negative + 0x7ff * leadingBit
  | .finite number =>
    signBit number.negative +
      if number.significand < leadingBit then number.significand
      else (number.exponent + 1075).toNat * leadingBit + (number.significand - leadingBit)

end Binary64

end LogRelay
