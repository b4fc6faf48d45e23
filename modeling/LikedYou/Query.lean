/-!
# Queries and their cache keys

There are two lists of likers, of everyone and of those that the recipient has not decided on yet,
and the number of likes. The answer to a query is cached under a key that spells the query out. A
token holds no colon, so the parts of a key can be told apart although a user may have any name.
-/

namespace LikedYou

/-- Which likers are listed. -/
inductive Listing where
  /-- Everyone who liked the recipient. -/
  | everyone
  /-- Those on whom the recipient has not decided yet. -/
  | undecided
  deriving DecidableEq, Repr

/-- A question about a recipient. -/
inductive Query where
  /-- The page of a list where `token` stands. -/
  | list (listing : Listing) (recipient token : String)
  /-- The number of likes. -/
  | count (recipient : String)
  deriving DecidableEq, Repr

/-- The word for a listing in cache keys. -/
def Listing.word : Listing → String
  | everyone => "likers"
  | undecided => "newlikers"

/-- The key under which the answer to a query is cached. -/
def Query.key : Query → String
  | list listing recipient token => s!"{listing.word}:{recipient}:{token}"
  | count recipient => s!"likerscount:{recipient}"

end LikedYou
