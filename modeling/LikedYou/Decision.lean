import LikedYou.Json.Document

/-!
# Decisions

A decision says that one user, the actor, liked or passed another one, the recipient, and when. For
an ordered pair of users only the last decision counts.

A liker is what the recipient is shown of a like: who, and in which second.
-/

namespace LikedYou

/-- What an actor decided about a recipient, and when. -/
structure Verdict where
  liked : Bool
  createdAt : Time.Timestamp
  deriving DecidableEq, Repr

/-- A decision of `actor` about `recipient`. -/
structure Decision where
  actor : String
  recipient : String
  liked : Bool
  createdAt : Time.Timestamp
  deriving DecidableEq, Repr

/-- A user who liked the recipient, and the second of the like. -/
structure Liker where
  actor : String
  timestamp : Int64
  deriving DecidableEq, Repr, Inhabited

namespace Decision

/-- The second in which a decision was made, rounded down. -/
def epoch (d : Decision) : Int64 := d.createdAt.seconds

/-- The decision as its recipient sees it. -/
def toLiker (d : Decision) : Liker := ⟨d.actor, d.epoch⟩

end Decision

/-! ## Documents -/

instance : Json.Document Decision where
  shape := .record "Decision" <|
    .cons (.required "actor_user_id") .text <|
    .cons (.required "recipient_user_id") .text <|
    .cons (.required "liked_recipient") .flag <|
    .cons (.required "created_at") .time .nil
  toData d := (d.actor, d.recipient, d.liked, d.createdAt, ())
  ofData := fun (actor, recipient, liked, createdAt, ()) => ⟨actor, recipient, liked, createdAt⟩

instance : Json.Document Liker where
  shape := .record "Liker" <|
    .cons (.required "actor_id") .text <|
    .cons (.required "timestamp") .int64 .nil
  toData l := (l.actor, l.timestamp, ())
  ofData := fun (actor, timestamp, ()) => ⟨actor, timestamp⟩

end LikedYou
