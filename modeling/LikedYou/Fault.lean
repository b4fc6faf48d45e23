import LikedYou.Time.Duration

/-!
# What can go wrong

A storage fault is what a store or a cache reports. A fault is what becomes of a request that cannot
be answered: the caller made a mistake, which is noticed before any store or cache is asked, or the
storage failed.

A breakdown is no answer at all. It ends whatever is being done, and what was asked for it; only a
write that nobody waits for breaks down by itself.
-/

namespace LikedYou

/-- What a store or a cache reports. -/
inductive StorageFault where
  | unavailable (reason : String)
  | query (reason : String)
  | serialization (reason : String)
  deriving DecidableEq, Repr

/-- The wording of a storage fault. -/
def StorageFault.message : StorageFault → String
  | unavailable reason => s!"Storage unavailable: {reason}"
  | query reason => s!"Query failed: {reason}"
  | serialization reason => s!"Serialization failed: {reason}"

/-- What ends all that is being done. -/
inductive Breakdown where
  /-- The clock was read so long before the beginning of 1970. -/
  | beforeEpoch (early : Time.Duration)
  /-- The clock was read in a year that cannot be told. -/
  | beyondCalendar
  /-- A time of expiry is later than the running clock can tell. -/
  | beyondClock
  /-- Room was asked for that no memory has. -/
  | noRoom
  deriving DecidableEq, Repr

/-- The wording of a breakdown. -/
def Breakdown.message : Breakdown → String
  | beforeEpoch early =>
    s!"system time before Unix epoch: SystemTimeError({early.describe})"
  | beyondCalendar => "called `Option::unwrap()` on a `None` value"
  | beyondClock => "overflow when adding duration to instant"
  | noRoom => "capacity overflow"

/-- Why an operation of a store or a cache that depends on the time has no result. -/
inductive OperationFault where
  | storage (fault : StorageFault)
  | breakdown (b : Breakdown)
  deriving DecidableEq, Repr

/-- Why a request cannot be answered. -/
inductive Fault where
  /-- The pagination token is none that was handed out. -/
  | invalidToken (reason : String)
  | missingField (field : String)
  /-- Actor and recipient of a decision are one user. -/
  | sameUser
  | storage (fault : StorageFault)
  /-- The decision was recorded, but whether it is mutual could not be told. -/
  | mutualCheck (fault : StorageFault)
  deriving DecidableEq, Repr

namespace Fault

/-- The wording of a fault. -/
def message : Fault → String
  | invalidToken reason => s!"Invalid pagination token: {reason}"
  | missingField field => s!"Required field missing: {field}"
  | sameUser => "Actor and recipient cannot be the same user"
  | storage fault => s!"Storage unavailable: {fault.message}"
  | mutualCheck fault => s!"Mutual like check failed: {fault.message}"

/-- Whether the caller made a mistake. -/
def isCallers : Fault → Bool
  | invalidToken _ | missingField _ | sameUser => true
  | storage _ | mutualCheck _ => false

end Fault

end LikedYou
