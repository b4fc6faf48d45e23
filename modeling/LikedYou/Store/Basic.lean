import LikedYou.Page
import LikedYou.Query
import LikedYou.Time.Clock

/-!
# Decision stores

A decision store holds, for each ordered pair of users, the last decision of the one about the other,
and answers questions about who liked a recipient. Any operation may fail.

Operations take the store and give it back, changed or not, also when they fail.
-/

namespace LikedYou

/-- A decision store whose state is of type `σ`. -/
class DecisionStore (σ : Type) where
  /-- A page of the likers of a recipient, newest first. -/
  likers (listing : Listing) (recipient : String) (bounds : PageBounds) (store : σ) :
    Except StorageFault Page × σ
  /-- The number of likes of a recipient. -/
  count (recipient : String) (store : σ) : Except StorageFault UInt64 × σ
  /-- Record a decision, in place of the last one about the same pair. -/
  record (actor recipient : String) (liked : Bool) (clock : Time.Clock) (store : σ) :
    Except OperationFault Unit × σ
  /-- Whether two users like each other. -/
  areMutual (actor recipient : String) (store : σ) : Except StorageFault Bool × σ
  /-- Whether the store can be reached. -/
  check (store : σ) : Except StorageFault Unit × σ

end LikedYou
