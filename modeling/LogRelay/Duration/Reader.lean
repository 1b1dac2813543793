import LogRelay.Duration.Basic
import LogRelay.Text.Characters
import LogRelay.Text.Quoted

/-!
# Reading a duration

A duration is written as spans such as `1h 30m` or `2.5s`: a number, perhaps
with decimals, and a unit.  Blanks may stand between and inside the numbers.
A lone `0` needs no unit.
-/

namespace LogRelay.Duration

open Text

/-- Why a text is no duration.  Offsets count bytes. -/
inductive Fault where
  | empty
  | numberExpected (offset : Nat)
  | invalidCharacter (offset : Nat)
  | unitNeeded (number : Nat)
  | unknownUnit (unit : String)
  | notRepresentable
  /-- The nanoseconds come to exactly one second more than the seconds can hold. -/
  | carryOverflow
  deriving DecidableEq, Repr

namespace Fault

def message : Fault → String
  | empty => "value was empty"
  | numberExpected offset => "expected number at " ++ toString offset
  | invalidCharacter offset => "invalid character at " ++ toString offset
  | unitNeeded number =>
    "time unit needed, for example " ++ toString number ++ "sec or " ++ toString number ++ "ms"
  | unknownUnit unit =>
    "unknown time unit " ++ quote unit ++ ", supported units: ns, us/µs, ms, sec, min, hours, " ++
      "days, weeks, months, years (and few variations)"
  | notRepresentable =>
    "number is too large or cannot be represented without a lack of precision " ++
      "(values below 1ns are not supported)"
  | carryOverflow => "overflow in the sum of the spans"

end Fault

/-- The length of a unit in nanoseconds. -/
def unitNanos? (unit : String) : Option Nat :=
  if ["nanos", "nsec", "ns"].contains unit then some 1
  else if ["usec", "us", "µs"].contains unit then some 1000
  else if ["millis", "msec", "ms"].contains unit then some nanosPerMilli
  else if ["seconds", "second", "secs", "sec", "s"].contains unit then some nanosPerSecond
  else if ["minutes", "minute", "min", "mins", "m"].contains unit then some (60 * nanosPerSecond)
  else if ["hours", "hour", "hr", "hrs", "h"].contains unit then some (3600 * nanosPerSecond)
  else if ["days", "day", "d"].contains unit then some (86400 * nanosPerSecond)
  else if ["weeks", "week", "wk", "wks", "w"].contains unit then some (604800 * nanosPerSecond)
  else if ["months", "month", "M"].contains unit then some (2630016 * nanosPerSecond)
  else if ["years", "year", "yr", "yrs", "y"].contains unit then some (31557600 * nanosPerSecond)
  else none

/-- The letters that units are made of. -/
def isUnitLetter (character : Char) : Bool :=
  ('a' ≤ character && character ≤ 'z') || ('A' ≤ character && character ≤ 'Z') || character = 'µ'

/-- All intermediate numbers have to fit 64 bits. -/
def fit (value : Nat) : Except Fault Nat :=
  if value < UInt64.size then .ok value else .error .notRepresentable

def divideExactly (value divisor : Nat) : Except Fault Nat :=
  if value % divisor = 0 then .ok (value / divisor) else .error .notRepresentable

/-- The digits behind a point, as the numerator over a power of ten. -/
structure Fraction where
  numerator : Nat
  denominator : Nat
  deriving DecidableEq, Repr

/-- Seconds and nanoseconds are summed apart; the nanoseconds of the sum are
moved into the seconds when there are enough of them. -/
def accumulate (total : Duration) (seconds nanos : Nat) : Except Fault Duration := do
  let nanos ← fit (total.nanos % nanosPerSecond + nanos)
  let carried := if nanosPerSecond < nanos then nanos / nanosPerSecond else 0
  let nanos := if nanosPerSecond < nanos then nanos % nanosPerSecond else nanos
  let seconds ← fit (seconds + carried)
  let seconds ← fit (total.nanos / nanosPerSecond + seconds)
  match ofNanos? (seconds * nanosPerSecond + nanos) with
  | some sum => return sum
  | none => throw .carryOverflow

/-- Adds `number` units.  Units of a second and more count in whole seconds. -/
def addWhole (total : Duration) (unit number : Nat) : Except Fault Duration := do
  if unit < nanosPerSecond then accumulate total 0 (← fit (number * unit))
  else accumulate total (← fit (number * (unit / nanosPerSecond))) 0

/-- Adds a fraction of a unit, which has to be a whole number of nanoseconds,
and of seconds for units longer than a minute. -/
def addFraction (total : Duration) (unit : Nat) (fraction : Fraction) : Except Fault Duration := do
  if unit = 1 then throw .notRepresentable
  else if unit ≤ 60 * nanosPerSecond then
    let nanos ← divideExactly (← fit (fraction.numerator * unit)) fraction.denominator
    accumulate total 0 nanos
  else
    let seconds ← fit (fraction.numerator * (unit / nanosPerSecond))
    accumulate total (← divideExactly seconds fraction.denominator) 0

def addSpan (total : Duration) (number : Nat) (fraction : Option Fraction) (unit : List Char) :
    Except Fault Duration := do
  if unit.isEmpty then throw (.unitNeeded number)
  match unitNanos? (String.ofList unit) with
  | none => throw (.unknownUnit (String.ofList unit))
  | some length =>
    let total ← addWhole total length number
    match fraction with
    | none => return total
    | some fraction => addFraction total length fraction

/-- What is being read.  `mark` is the offset that a mistake is reported at, and
the letters of a unit are held in reverse. -/
inductive Stage where
  | beforeNumber (mark : Nat)
  | whole (number : Nat)
  | decimals (number : Nat) (fraction : Fraction) (mark : Nat)
  | unit (number : Nat) (fraction : Option Fraction) (letters : List Char)
  deriving DecidableEq, Repr

/-- The sum of the spans so far, if there are any, and what is being read. -/
structure Progress where
  total : Option Duration
  stage : Stage
  deriving DecidableEq, Repr

namespace Progress

def start : Progress := ⟨none, .beforeNumber 0⟩

def sum (progress : Progress) : Duration :=
  progress.total.getD zero

/-- Reads the character that begins at `offset`. -/
def read (progress : Progress) (offset : Nat) (character : Char) : Except Fault Progress := do
  let next := offset + character.utf8Size
  match progress.stage with
  | .beforeNumber mark =>
    if isDigit character then return ⟨progress.total, .whole (digitValue character)⟩
    else if isBlank character then return progress
    else throw (.numberExpected mark)
  | .whole number =>
    if isDigit character then
      return ⟨progress.total, .whole (← fit (number * 10 + digitValue character))⟩
    else if isBlank character then return progress
    else if isUnitLetter character then return ⟨progress.total, .unit number none [character]⟩
    else if character = '.' then return ⟨progress.total, .decimals number ⟨0, 1⟩ offset⟩
    else throw (.invalidCharacter offset)
  | .decimals number fraction mark =>
    if isDigit character then
      let denominator ← fit (fraction.denominator * 10)
      let numerator ← fit (fraction.numerator * 10 + digitValue character)
      return ⟨progress.total, .decimals number ⟨numerator, denominator⟩ next⟩
    else if isBlank character then return ⟨progress.total, .decimals number fraction next⟩
    else if isUnitLetter character ∧ fraction.denominator ≠ 1 then
      return ⟨progress.total, .unit number (some fraction) [character]⟩
    else throw (.invalidCharacter mark)
  | .unit number fraction letters =>
    if isDigit character then
      let total ← addSpan progress.sum number fraction letters.reverse
      return ⟨some total, .whole (digitValue character)⟩
    else if isBlank character then
      let total ← addSpan progress.sum number fraction letters.reverse
      return ⟨some total, .beforeNumber next⟩
    else if isUnitLetter character then
      return ⟨progress.total, .unit number fraction (character :: letters)⟩
    else throw (.invalidCharacter offset)

def finish (progress : Progress) : Except Fault Duration :=
  match progress.stage with
  | .beforeNumber _ =>
    match progress.total with
    | none => .error .empty
    | some total => .ok total
  | .whole number => addSpan progress.sum number none []
  | .decimals number fraction mark =>
    if fraction.denominator = 1 then .error (.invalidCharacter mark)
    else addSpan progress.sum number (some fraction) []
  | .unit number fraction letters => addSpan progress.sum number fraction letters.reverse

/-- Reads all characters from `offset` on. -/
def readAll (progress : Progress) (offset : Nat) : List Char → Except Fault Duration
  | [] => progress.finish
  | character :: rest => do
    let progress ← progress.read offset character
    readAll progress (offset + character.utf8Size) rest

end Progress

/-- The duration that a text denotes; blanks around it do not count. -/
def parse (text : List Char) : Except Fault Duration :=
  let trimmed := trim text
  if trimmed = ['0'] then .ok zero else Progress.start.readAll 0 trimmed

end LogRelay.Duration
