import LikedYou.PageBounds
import LikedYou.Query
import LikedYou.Sql.Statement

/-!
# Queries for pages of likers

A page is found by the second of the last like before it, never by counting rows. A query has a
list of conditions on the rows and a limit; its text is made from those, and the parameters stand at
the places that the text mentions, in order.
-/

namespace LikedYou.Sql

/-- A condition on a row. Places are counted from one. -/
inductive Condition where
  /-- The recipient is the parameter at `place`. -/
  | recipientIs (place : Nat)
  | liked
  /-- The recipient has not decided about the actor. -/
  | undecided
  /-- The second of the row is below the parameter at `place`. -/
  | before (place : Nat)
  deriving DecidableEq, Repr

/-- A selection of rows, newest first, as many as the parameter at `limit` tells. -/
structure Select where
  conditions : List Condition
  limit : Nat
  deriving DecidableEq, Repr

/-! ## Text -/

/-- A condition as text. -/
def Condition.text : Condition → String
  | recipientIs place => s!"d.recipient_user_id = ${place}"
  | liked => "d.liked_recipient = TRUE"
  | undecided =>
    "NOT EXISTS (SELECT 1 FROM decisions r " ++
    "WHERE r.actor_user_id = d.recipient_user_id AND r.recipient_user_id = d.actor_user_id)"
  | before place => s!"EXTRACT(EPOCH FROM d.created_at)::bigint < ${place}"

/-- A selection as text. -/
def Select.text (s : Select) : String :=
  "SELECT d.actor_user_id, EXTRACT(EPOCH FROM d.created_at)::bigint AS timestamp " ++
  "FROM decisions d WHERE " ++ " AND ".intercalate (s.conditions.map Condition.text) ++
  s!" ORDER BY d.created_at DESC LIMIT ${s.limit}"

/-! ## The query for a page -/

/-- The selection for a page. It depends on the listing, and on whether there is a bound. -/
def keysetSelect (listing : Listing) (bounded : Bool) : Select where
  conditions :=
    [.recipientIs 1, .liked] ++ (if listing = .undecided then [.undecided] else []) ++
      (if bounded then [.before 2] else [])
  limit := if bounded then 3 else 2

/-- The parameters for a page. -/
def keysetParams (recipient : String) (bounds : PageBounds) : List Param :=
  .text recipient :: (bounds.before.toList.map .bigint ++ [.bigint bounds.fetchSize])

/-- The statement for a page. -/
def keyset (listing : Listing) (recipient : String) (bounds : PageBounds) : Statement :=
  ⟨(keysetSelect listing bounds.before.isSome).text, keysetParams recipient bounds⟩

end LikedYou.Sql
