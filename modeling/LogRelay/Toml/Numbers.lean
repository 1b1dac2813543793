import LogRelay.Document
import LogRelay.Toml.Strings

/-!
# Numbers and dates of TOML
-/

namespace LogRelay.Toml

open Text

/-- What trying to read something comes to: it is there, something else is, or
it has begun and is wrong. -/
inductive Attempt (α : Type) where
  | found (result : α) (rest : List Char)
  | absent
  | wrong

/-! ## Dates and times -/

/-- A number of exactly that many digits, within bounds. -/
def fixedDigits? (count low high : Nat) (text : List Char) : Option (Nat × List Char) :=
  let digits := text.take count
  let value := digitsValue digits
  if digits.length = count ∧ digits.all isDigit ∧ low ≤ value ∧ value ≤ high then
    some (value, text.drop count)
  else none

def expect? (character : Char) : List Char → Option (List Char)
  | first :: rest => if first = character then some rest else none
  | [] => none

def daysOfMonth (year month : Nat) : Nat :=
  if month = 2 then
    if year % 4 = 0 ∧ (year % 100 ≠ 0 ∨ year % 400 = 0) then 29 else 28
  else if month = 4 ∨ month = 6 ∨ month = 9 ∨ month = 11 then 30
  else 31

/-- Month and day behind the year and its dash. -/
def monthAndDay? (year : Nat) (text : List Char) : Option (List Char) := do
  let (month, rest) ← fixedDigits? 2 1 12 text
  let rest ← expect? '-' rest
  let (day, rest) ← fixedDigits? 2 1 31 rest
  if day ≤ daysOfMonth year month then some rest else none

def fractionOfSecond (text : List Char) : List Char :=
  match text with
  | '.' :: digit :: rest => if isDigit digit then rest.dropWhile isDigit else text
  | _ => text

/-- Minutes and seconds behind the hour and its colon. -/
def minutesAndSeconds? (text : List Char) : Option (List Char) := do
  let (_, rest) ← fixedDigits? 2 0 59 text
  let rest ← expect? ':' rest
  let (_, rest) ← fixedDigits? 2 0 60 rest
  return fractionOfSecond rest

def timeOfDay (text : List Char) : Attempt Unit :=
  match fixedDigits? 2 0 23 text with
  | some (_, ':' :: rest) =>
    match minutesAndSeconds? rest with
    | some rest => .found () rest
    | none => .wrong
  | _ => .absent

def hoursAndMinutes? (text : List Char) : Option (List Char) := do
  let (_, rest) ← fixedDigits? 2 0 23 text
  let rest ← expect? ':' rest
  let (_, rest) ← fixedDigits? 2 0 59 rest
  return rest

/-- The offset from universal time, which may be missing. -/
def offset? (text : List Char) : Option (List Char) :=
  match text with
  | 'Z' :: rest => some rest
  | 'z' :: rest => some rest
  | '+' :: rest => hoursAndMinutes? rest
  | '-' :: rest => hoursAndMinutes? rest
  | _ => some text

/-- A time of day behind a date, which may be missing. -/
def timeBehindDate (text : List Char) : Attempt Unit :=
  match text with
  | mark :: rest =>
    if mark = 'T' ∨ mark = 't' ∨ mark = ' ' then
      match timeOfDay rest with
      | .found _ rest =>
        match offset? rest with
        | some rest => .found () rest
        | none => .wrong
      | .absent => .found () text
      | .wrong => .wrong
    else .found () text
  | [] => .found () text

/-- A date, a time, or both. -/
def moment (text : List Char) : Attempt Unit :=
  match fixedDigits? 4 0 9999 text with
  | some (year, '-' :: rest) =>
    match monthAndDay? year rest with
    | some rest => timeBehindDate rest
    | none => .wrong
  | _ => timeOfDay text

/-! ## Numbers -/

/-- Digits with single underscores between them. -/
def digitRun? (isDigit : Char → Bool) : (fuel : Nat) → List Char → Option (List Char × List Char)
  | 0, _ => none
  | _ + 1, [] => none
  | fuel + 1, digit :: rest =>
    if isDigit digit then
      match rest with
      | '_' :: rest => (digitRun? isDigit fuel rest).map fun (digits, rest) => (digit :: digits, rest)
      | next :: _ =>
        if isDigit next then
          (digitRun? isDigit fuel rest).map fun (digits, rest) => (digit :: digits, rest)
        else some ([digit], rest)
      | [] => some ([digit], [])
    else none

def digits? (text : List Char) : Option (List Char × List Char) :=
  digitRun? isDigit (text.length + 1) text

/-- The sign and the text behind it; no sign is a plus. -/
def sign : List Char → Bool × List Char
  | '-' :: rest => (true, rest)
  | '+' :: rest => (false, rest)
  | text => (false, text)

/-- The digits of a decimal integer: zero alone, or any that do not begin with it. -/
def wholeDigits : List Char → Attempt (List Char)
  | '0' :: rest => .found ['0'] rest
  | digit :: rest =>
    if isDigit digit then
      match digits? (digit :: rest) with
      | some (digits, rest) => .found digits rest
      | none => .wrong
    else .absent
  | [] => .absent

/-- The exponent behind its mark. -/
def exponent? (text : List Char) : Option (Int × List Char) := do
  let (negative, rest) := sign text
  let (digits, rest) ← digits? rest
  let value : Int := digitsValue digits
  return (if negative then -value else value, rest)

/-- Point and fraction, exponent, or both, behind the digits of a number. -/
def floatTail? (text : List Char) : Option (List Char × Int × List Char) := do
  match text with
  | '.' :: rest =>
    let (fraction, rest) ← digits? rest
    match rest with
    | mark :: behind =>
      if mark = 'e' ∨ mark = 'E' then
        let (exponent, rest) ← exponent? behind
        return (fraction, exponent, rest)
      else return (fraction, 0, rest)
    | [] => return (fraction, 0, [])
  | _ :: rest =>
    let (exponent, rest) ← exponent? rest
    return ([], exponent, rest)
  | [] => none

def isFloatMark : List Char → Bool
  | '.' :: _ => true
  | 'e' :: _ => true
  | 'E' :: _ => true
  | _ => false

/-- A number beyond the greatest one is refused; beyond the least one it is
infinite. -/
def float? (negative : Bool) (whole : List Char) (tail : List Char) :
    Option (Document × List Char) := do
  let (fraction, exponent, rest) ← floatTail? tail
  let value :=
    Binary64.ofDecimal negative (digitsValue (whole ++ fraction)) (exponent - fraction.length)
  if value = .infinite false then none else some (.number value, rest)

/-- Integers have 64 bits with a sign. -/
def integer? (negative : Bool) (value : Nat) (rest : List Char) : Option (Document × List Char) :=
  if negative then
    if value ≤ Document.signedLimit then some (.integer (-(value : Int)), rest) else none
  else if value < Document.signedLimit then some (.integer value, rest)
  else none

/-- An integer in a base that is a power of two, behind its mark. -/
def basedInteger? (base : Nat) (text : List Char) : Option (Document × List Char) := do
  let isBaseDigit (character : Char) : Bool :=
    match hexValue? character with
    | some value => value < base
    | none => false
  let (digits, rest) ← digitRun? isBaseDigit (text.length + 1) text
  let value := digits.foldl (fun value digit => value * base + (hexValue? digit).getD 0) 0
  integer? false value rest

/-- Infinity and NaN, behind the sign. -/
def special? (negative : Bool) : List Char → Option (Document × List Char)
  | 'i' :: 'n' :: 'f' :: rest => some (.number (.infinite negative), rest)
  | 'n' :: 'a' :: 'n' :: rest => some (.number .nan, rest)
  | _ => none

def number? (text : List Char) : Option (Document × List Char) :=
  match text with
  | '0' :: 'x' :: rest => basedInteger? 16 rest
  | '0' :: 'o' :: rest => basedInteger? 8 rest
  | '0' :: 'b' :: rest => basedInteger? 2 rest
  | _ =>
    let (negative, unsigned) := sign text
    match wholeDigits unsigned with
    | .found digits rest =>
      if isFloatMark rest then float? negative digits rest
      else integer? negative (digitsValue digits) rest
    | .absent => special? negative unsigned
    | .wrong => none

/-- A date, a time or a number. -/
def momentOrNumber? (text : List Char) : Option (Document × List Char) :=
  match moment text with
  | .found _ rest => some (.moment, rest)
  | .absent => number? text
  | .wrong => none

end LogRelay.Toml
