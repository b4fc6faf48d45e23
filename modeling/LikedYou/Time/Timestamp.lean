import LikedYou.Time.Calendar

/-!
# Points in time

A timestamp counts whole seconds from the beginning of 1970 and the nanoseconds since then. The
seconds are rounded down, so a timestamp before 1970 has negative seconds and nanoseconds that are
not. A leap second is the second before it with 10^9 nanoseconds and more.
-/

namespace LikedYou.Time

/-- A point in time. -/
structure Timestamp where
  seconds : Int64
  nanos : Nat
  deriving DecidableEq, Repr, Inhabited

namespace Timestamp

/-- Whether `a` is earlier than `b`: by its seconds, and by its nanoseconds in the same second. -/
def before (a b : Timestamp) : Bool :=
  a.seconds.toInt < b.seconds.toInt ||
    (a.seconds.toInt = b.seconds.toInt && a.nanos < b.nanos)

/-- The years that can be told. -/
def firstYear : Int := -262143

@[inherit_doc firstYear] def lastYear : Int := 262142

/-- The first and the last second of the years that can be told. -/
def firstSecond : Int := Date.toDay ⟨firstYear, 1, 1⟩ * 86400

@[inherit_doc firstSecond] def lastSecond : Int := Date.toDay ⟨lastYear + 1, 1, 1⟩ * 86400 - 1

/-- Whether a second lies in the years that can be told. -/
def inRange (seconds : Int) : Bool := firstSecond ≤ seconds && seconds ≤ lastSecond

end Timestamp

end LikedYou.Time
