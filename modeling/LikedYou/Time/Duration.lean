import LikedYou.Decimal.Numeral

/-!
# Lengths of time

A length of time is counted in nanoseconds. A message gives it in the largest unit of which it has at
least one, from seconds down to nanoseconds, with a fraction that loses nothing and has no zeros at
its end.
-/

namespace LikedYou.Time

/-- Lengths of time are counted in nanoseconds. -/
abbrev Duration := Nat

namespace Duration

def ofSeconds (n : Nat) : Duration := n * 1000000000
def ofMillis (n : Nat) : Duration := n * 1000000

/-- The whole milliseconds in a length of time. -/
def millis (d : Duration) : Nat := d / 1000000

/-- The units above the nanosecond, the largest first: which power of ten of nanoseconds they are,
and how they are written. -/
def units : List (Nat × String) := [(9, "s"), (6, "ms"), (3, "µs")]

/-- A length of time counted in units of `10 ^ places` nanoseconds. -/
def inUnit (places : Nat) (d : Duration) : List Char :=
  let whole := Decimal.digits (d / Nat.pow 10 places)
  let fraction :=
    ((Decimal.padded places (d % Nat.pow 10 places)).reverse.dropWhile (· = '0')).reverse
  if fraction.isEmpty then whole else whole ++ '.' :: fraction

/-- How a message gives a length of time. -/
def describe (d : Duration) : String :=
  match units.find? fun unit => Nat.pow 10 unit.1 ≤ d with
  | some (places, sign) => String.ofList (inUnit places d) ++ sign
  | none => String.ofList (Decimal.digits d) ++ "ns"

end Duration

end LikedYou.Time
