import LogRelay.Number.Binary64
import LogRelay.Text.Characters

/-!
# Sizes in bytes

A size is written as a decimal number and an optional binary unit, such as
`512k`, `1.5 MiB` or `1024`.
-/

namespace LogRelay.ByteSize

open Text

/-- The greatest size; greater ones are cut to it. -/
def limit : Nat := UInt64.size - 1

def isNumberChar (character : Char) : Bool :=
  isDigit character || character = '.'

/-- Digits with at most one point among them and at least one digit. -/
def number? (text : List Char) : Option Binary64 :=
  let whole := text.takeWhile isDigit
  match text.dropWhile isDigit with
  | [] => if whole.isEmpty then none else some (Binary64.ofDecimal false (digitsValue whole) 0)
  | point :: fraction =>
    if point = '.' ∧ fraction.all isDigit ∧ ¬(whole.isEmpty ∧ fraction.isEmpty) then
      some (Binary64.ofDecimal false (digitsValue (whole ++ fraction)) (-(fraction.length : Int)))
    else none

/-- The text without one letter at its end, if it ends in that letter. -/
def dropLetter (letter : Char) (text : List Char) : List Char :=
  if text.getLast? = some letter then text.dropLast else text

/-- The power of two that a unit stands for: a letter, then `i`, then `b`, each
of which may be missing, in either case. -/
def unitExponent? (unit : List Char) : Option Nat :=
  match dropLetter 'i' (dropLetter 'b' (unit.map Char.toLower)) with
  | [] => some 0
  | ['k'] => some 10
  | ['m'] => some 20
  | ['g'] => some 30
  | ['t'] => some 40
  | ['p'] => some 50
  | _ => none

/-- The number of bytes that the text denotes, cut off at `limit`. -/
def parse? (text : List Char) : Option Nat := do
  let trimmed := trim text
  let number ← number? (trimmed.takeWhile isNumberChar)
  let exponent ← unitExponent? (trim (trimmed.dropWhile isNumberChar))
  return (number * Binary64.ofNat (powerOfTwo exponent)).toNatSaturating limit

end LogRelay.ByteSize
