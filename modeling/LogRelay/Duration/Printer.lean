import LogRelay.Duration.Basic
import LogRelay.Text.Characters

/-!
# Showing a duration

The greatest unit that leaves a whole part is used, and as many decimals as
the span has.
-/

namespace LogRelay.Duration

/-- The digits behind the point, without zeros at the end. -/
def fractionDigits (width fraction : Nat) : List Char :=
  ((Text.padded width fraction).reverse.dropWhile (· = '0')).reverse

/-- A number of units; one unit is `10 ^ width` nanoseconds. -/
def showIn (width : Nat) (unit : String) (nanos : Nat) : String :=
  let whole := toString (nanos / powerOfTen width)
  match fractionDigits width (nanos % powerOfTen width) with
  | [] => whole ++ unit
  | digits => whole ++ "." ++ String.ofList digits ++ unit

def text (duration : Duration) : String :=
  if nanosPerSecond ≤ duration.nanos then showIn 9 "s" duration.nanos
  else if nanosPerMilli ≤ duration.nanos then showIn 6 "ms" duration.nanos
  else if 1000 ≤ duration.nanos then showIn 3 "µs" duration.nanos
  else showIn 0 "ns" duration.nanos

end LogRelay.Duration
