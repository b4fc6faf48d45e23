/-!
# The calendar

The proleptic Gregorian calendar: every fourth year is a leap year, of the hundredth years only
every fourth, in both directions and with a year 0. Days are numbered from 1 January 1970, which is
day 0.

## From the number of a day to its date

The year is guessed from the mean length of a year, 146097 days in 400 years, and the guess is off
by at most one year. The month is found by taking the lengths of the months off one by one.
-/

namespace LikedYou.Time

/-- A day of the calendar. -/
structure Date where
  year : Int
  month : Nat
  day : Nat
  deriving DecidableEq, Repr

/-- Whether a year has a 29 February. -/
def isLeapYear (year : Int) : Bool := year % 4 = 0 && (year % 100 ≠ 0 || year % 400 = 0)

/-- The lengths of the months of a year, from January on. -/
def monthLengths (year : Int) : List Nat :=
  [31, if isLeapYear year then 29 else 28, 31, 30, 31, 30, 31, 31, 30, 31, 30, 31]

/-- The days from 1 January of year 1 to 1 January of `year`. -/
def daysBeforeYear (year : Int) : Int :=
  let past := year - 1
  365 * past + past / 4 - past / 100 + past / 400

/-- The days from 1 January of year 1 to 1 January 1970. -/
def epochDay : Int := 719162

/-- Whether the calendar has this day. -/
def Date.isValid (d : Date) : Bool :=
  1 ≤ d.month && 1 ≤ d.day &&
    match (monthLengths d.year)[d.month - 1]? with
    | some length => d.day ≤ length
    | none => false

/-- The number of a day. -/
def Date.toDay (d : Date) : Int :=
  let past : Nat := ((monthLengths d.year).take (d.month - 1)).foldl (· + ·) 0
  daysBeforeYear d.year + past + (d.day : Int) - 1 - epochDay

/-- The year in which the `n`-th day after 1 January of year 1 lies. -/
def yearOfDay (n : Int) : Int :=
  let guess := n * 400 / 146097 + 1
  if n < daysBeforeYear guess then guess - 1
  else if daysBeforeYear (guess + 1) ≤ n then guess + 1
  else guess

/-- The month, from `month` on, in which the `n`-th day lies, and its day in that month. -/
def monthOfDay (month n : Nat) : List Nat → Nat × Nat
  | [] => (month, n + 1)
  | length :: lengths =>
    if n < length then (month, n + 1) else monthOfDay (month + 1) (n - length) lengths

/-- The date of the day with a given number. -/
def Date.ofDay (day : Int) : Date :=
  let n := day + epochDay
  let year := yearOfDay n
  let (month, dayOfMonth) := monthOfDay 1 (n - daysBeforeYear year).toNat (monthLengths year)
  ⟨year, month, dayOfMonth⟩

end LikedYou.Time
