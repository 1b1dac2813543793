import LogRelay.Text.Characters

/-!
# Timestamps

Moments of coordinated universal time and their RFC 3339 notation in the
proleptic Gregorian calendar.
-/

namespace LogRelay

/-- Seconds since the start of 1970 and nanoseconds within the second.  A
second that a leap second follows goes on to two thousand million. -/
structure Timestamp where
  seconds : Int
  nanos : Nat
  deriving DecidableEq, Repr, Inhabited

namespace Timestamp

open Text

/-- The moment that many milliseconds later. -/
def addMillis (time : Timestamp) (ms : Nat) : Timestamp :=
  let nanos := time.nanos + ms * 1000000
  ⟨time.seconds + (nanos / 1000000000 : Nat), nanos % 1000000000⟩

structure Date where
  year : Int
  month : Nat
  day : Nat
  deriving DecidableEq, Repr

/-- The date of a day counted from the first of March of the year zero.  Years
that begin in March put the leap day at their end, so that the length of every
month before it is known: five months from March on have 153 days. -/
def dateOfDay (day : Int) : Date :=
  let era := Int.fdiv day 146097
  let dayOfEra := (Int.fmod day 146097).toNat
  let yearOfEra := (dayOfEra - dayOfEra / 1460 + dayOfEra / 36524 - dayOfEra / 146096) / 365
  let dayOfYear := dayOfEra - (365 * yearOfEra + yearOfEra / 4 - yearOfEra / 100)
  let monthFromMarch := (5 * dayOfYear + 2) / 153
  let dayOfMonth := dayOfYear - (153 * monthFromMarch + 2) / 5 + 1
  let month := if monthFromMarch < 10 then monthFromMarch + 3 else monthFromMarch - 9
  let year : Int := (yearOfEra : Int) + era * 400 + (if month ≤ 2 then 1 else 0)
  ⟨year, month, dayOfMonth⟩

/-- The first of January 1970, counted from the first of March of the year zero. -/
def epochDay : Int := 719468

/-- Years outside of four digits carry a sign. -/
def yearDigits (year : Int) : List Char :=
  if 0 ≤ year ∧ year ≤ 9999 then padded 4 year.toNat
  else if year < 0 then '-' :: padded 4 (-year).toNat
  else '+' :: padded 4 year.toNat

/-- No decimals, three, six or nine: the fewest that show the nanoseconds. -/
def fractionDigits (nanos : Nat) : List Char :=
  if nanos = 0 then []
  else if nanos % 1000000 = 0 then '.' :: padded 3 (nanos / 1000000)
  else if nanos % 1000 = 0 then '.' :: padded 6 (nanos / 1000)
  else '.' :: padded 9 nanos

/-- Date, time of day and `Z`; a leap second is the sixtieth of its minute. -/
def rfc3339 (time : Timestamp) : List Char :=
  let date := dateOfDay (Int.fdiv time.seconds 86400 + epochDay)
  let secondOfDay := (Int.fmod time.seconds 86400).toNat
  let leap := if time.nanos < 1000000000 then 0 else 1
  let nanos := time.nanos - leap * 1000000000
  yearDigits date.year ++ '-' :: padded 2 date.month ++ '-' :: padded 2 date.day ++
    'T' :: padded 2 (secondOfDay / 3600) ++ ':' :: padded 2 (secondOfDay / 60 % 60) ++
    ':' :: padded 2 (secondOfDay % 60 + leap) ++ fractionDigits nanos ++ ['Z']

end Timestamp

end LogRelay
