import LogRelay.Document
import LogRelay.Text.Characters

/-!
# JSON values
-/

namespace LogRelay

/-- A number as it is written: `-12.5e3` has the digits `12` before the point,
`5` behind it, and the exponent 3. -/
structure JsonNumber where
  negative : Bool
  whole : List Char
  fraction : Option (List Char)
  exponent : Option Int
  deriving DecidableEq, Repr, Inhabited

/-- The text of a string; there is none if it holds half of a surrogate pair. -/
abbrev JsonString := Option String

inductive JsonValue where
  | null
  | truth (value : Bool)
  | number (number : JsonNumber)
  | string (text : JsonString)
  | array (items : List JsonValue)
  | object (members : List (JsonString × JsonValue))
  deriving Repr, Inhabited

namespace JsonNumber

/-- A whole number that is not negative. -/
def ofNat (value : Nat) : JsonNumber :=
  ⟨false, Nat.toDigits 10 value, none, none⟩

/-- Digits are taken into a significand while it fits 64 bits; also says how
many of them were taken and which digits are left. -/
def takeDigits (significand : Nat) : List Char → Nat × Nat × List Char
  | [] => (significand, 0, [])
  | digit :: rest =>
    let next := significand * 10 + Text.digitValue digit
    if next < UInt64.size then
      let (significand, taken, left) := takeDigits next rest
      (significand, taken + 1, left)
    else (significand, 0, digit :: rest)

/-- Significand and decimal exponent.  Digits that do not fit count only by
their place. -/
def parts (number : JsonNumber) : Nat × Int :=
  let (significand, _, left) := takeDigits 0 number.whole
  let (significand, taken, _) := takeDigits significand (number.fraction.getD [])
  (significand, (left.length : Int) - (taken : Int))

def powerOfTen (exponent : Nat) : Binary64 :=
  Binary64.ofDecimal false 1 exponent

/-- Divides by powers of ten of at most 308 places, one after the other. -/
def divideByPower : (fuel : Nat) → Binary64 → Nat → Binary64
  | 0, value, _ => value
  | fuel + 1, value, exponent =>
    if exponent ≤ 308 then value / powerOfTen exponent
    else if value = Binary64.zero false then value
    else divideByPower fuel (value / powerOfTen 308) (exponent - 308)

/-- The significand is rounded, and so is its product with a power of ten or its
quotient by one; there is no number beyond the range. -/
def scale? (significand : Nat) (exponent : Int) : Option Binary64 :=
  let value := Binary64.ofNat significand
  if 0 ≤ exponent then
    if exponent ≤ 308 then
      match value * powerOfTen exponent.toNat with
      | .infinite _ => none
      | product => some product
    else if significand = 0 then some value
    else none
  else some (divideByPower (exponent.natAbs / 308 + 1) value exponent.natAbs)

/-- Exponents have 32 bits with a sign. -/
def exponentLimit : Nat := 0x80000000

/-- An exponent of more than 31 bits: nothing or too much. -/
def isHugeExponent (exponent : Int) : Bool :=
  exponentLimit ≤ exponent.natAbs

/-- The sum, cut off at 32 bits with a sign. -/
def addExponents (left right : Int) : Int :=
  max (-(exponentLimit : Int)) (min ((exponentLimit : Int) - 1) (left + right))

def toBinary64? (number : JsonNumber) : Option Binary64 := do
  let (significand, exponent) := number.parts
  let value ←
    match number.exponent with
    | none => scale? significand exponent
    | some power =>
      if isHugeExponent power then
        if significand ≠ 0 ∧ 0 < power then none else some (Binary64.zero false)
      else scale? significand (addExponents exponent power)
  return if number.negative then value.neg else value

/-- Numbers without point and exponent are integers as far as 64 bits go; minus
zero is not an integer. -/
def toDocument (number : JsonNumber) : Document :=
  let value : Int := Text.digitsValue number.whole
  let isInteger : Bool := number.fraction.isNone && number.exponent.isNone
  if isInteger && !number.negative && value < UInt64.size then .integer value
  else if isInteger && number.negative && 0 < value && value ≤ Document.signedLimit then .integer (-value)
  else
    match number.toBinary64? with
    | some value => .number value
    | none => .meaningless

end JsonNumber

namespace JsonValue

def stringDocument : JsonString → Document
  | some text => .text text
  | none => .meaningless

mutual

def toDocument : JsonValue → Document
  | null => .null
  | truth value => .truth value
  | number literal => literal.toDocument
  | string text => stringDocument text
  | array items => .list (itemDocuments items)
  | object members =>
    match memberDocuments members with
    | some entries => .table entries
    | none => .meaningless

def itemDocuments : List JsonValue → List Document
  | [] => []
  | item :: rest => item.toDocument :: itemDocuments rest

/-- An object with a meaningless key is meaningless. -/
def memberDocuments : List (JsonString × JsonValue) → Option (List (String × Document))
  | [] => some []
  | member :: rest => do
    let entry ← memberDocument member
    return entry :: (← memberDocuments rest)

def memberDocument : JsonString × JsonValue → Option (String × Document)
  | (some key, value) => some (key, value.toDocument)
  | (none, _) => none

end

end JsonValue

end LogRelay
