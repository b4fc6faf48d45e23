import LikedYou.Fault
import LikedYou.Time.Timestamp

/-!
# Clocks

A clock shows two things: the time of day, which decides about timestamps and about what is stored
durably, and how long it has been running, which decides about what is kept in memory.

The time of day can be set to anything, but it can only be read from the beginning of 1970 to the end
of the last year that can be told. Reading it at any other time is a breakdown.
-/

namespace LikedYou.Time

/-- What a clock shows: nanoseconds since the beginning of 1970, and since some time before anything
was asked. -/
structure Clock where
  wall : Int
  running : Duration
  deriving DecidableEq, Repr

namespace Clock

/-- A clock that shows a given millisecond and has been running for some time. -/
def start (millis : Int) (running : Duration) : Clock := ⟨millis * 1000000, running⟩

/-- The clock after a length of time. -/
def advance (c : Clock) (d : Duration) : Clock := ⟨c.wall + d, c.running + d⟩

/-- The nanoseconds since the beginning of 1970. -/
def read (c : Clock) : Except Breakdown Nat :=
  if c.wall < 0 then .error (.beforeEpoch c.wall.natAbs)
  else if Timestamp.lastSecond < c.wall / 1000000000 then .error .beyondCalendar
  else .ok c.wall.toNat

theorem read_eq_ok_iff {c : Clock} {n : Nat} :
    c.read = .ok n ↔
      0 ≤ c.wall ∧ c.wall / 1000000000 ≤ Timestamp.lastSecond ∧ c.wall.toNat = n := by
  unfold read
  split
  · next h => exact ⟨(by cases ·), fun hr => absurd hr.1 (Int.not_le.mpr h)⟩
  · next h =>
    split
    · next h' => exact ⟨(by cases ·), fun hr => absurd hr.2.1 (Int.not_le.mpr h')⟩
    · next h' =>
      refine ⟨fun hr => ?_, fun hr => congrArg Except.ok hr.2.2⟩
      cases hr
      exact ⟨Int.not_lt.mp h, Int.not_lt.mp h', rfl⟩

/-- The current point in time. -/
def now (c : Clock) : Except Breakdown Timestamp :=
  c.read.map fun n => ⟨Int64.ofNat (n / 1000000000), n % 1000000000⟩

/-- The current millisecond. -/
def millis (c : Clock) : Except Breakdown Int64 := c.read.map fun n => Int64.ofNat (n / 1000000)

end Clock

end LikedYou.Time
