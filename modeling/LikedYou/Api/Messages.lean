import LikedYou.Page

/-!
# Requests and replies

The fields of a request have default values: a missing user is the empty one, which is refused with
a message of its own, and a missing token is the beginning of a list. A list reply is also what is
cached for its query.
-/

namespace LikedYou.Api

/-! ## Requests -/

/-- Ask for a page of a list. -/
structure ListRequest where
  recipient : String
  paginationToken : Option String
  deriving DecidableEq, Repr

/-- The token of a request, which is empty if none is given. -/
def ListRequest.token (r : ListRequest) : String := r.paginationToken.getD ""

/-- Ask for the number of likes. -/
structure CountRequest where
  recipient : String
  deriving DecidableEq, Repr

/-- Record a decision. -/
structure PutRequest where
  actor : String
  recipient : String
  liked : Bool
  deriving DecidableEq, Repr

instance : Json.Document ListRequest where
  shape := .record "ListLikedYouRequest" <|
    .cons (.withDefault "recipient_user_id") .text <|
    .cons (.ifAny "pagination_token") (.option .text) .nil
  toData r := (r.recipient, r.paginationToken, ())
  ofData := fun (recipient, paginationToken, ()) => ⟨recipient, paginationToken⟩

instance : Json.Document CountRequest where
  shape := .record "CountLikedYouRequest" <| .cons (.withDefault "recipient_user_id") .text .nil
  toData r := (r.recipient, ())
  ofData := fun (recipient, ()) => ⟨recipient⟩

instance : Json.Document PutRequest where
  shape := .record "PutDecisionRequest" <|
    .cons (.withDefault "actor_user_id") .text <|
    .cons (.withDefault "recipient_user_id") .text <|
    .cons (.withDefault "liked_recipient") .flag .nil
  toData r := (r.actor, r.recipient, r.liked, ())
  ofData := fun (actor, recipient, liked, ()) => ⟨actor, recipient, liked⟩

/-! ## Replies -/

/-- A liker as callers see him. -/
structure LikerReply where
  actor : String
  unixTimestamp : UInt64
  deriving DecidableEq, Repr

/-- A page as callers see it. -/
structure ListReply where
  likers : List LikerReply
  nextToken : Option String
  deriving DecidableEq, Repr

/-- The number of likes. -/
structure CountReply where
  count : UInt64
  deriving DecidableEq, Repr

/-- Whether a decision completed a mutual like. -/
structure PutReply where
  mutualLikes : Bool
  deriving DecidableEq, Repr

instance : Json.Document LikerReply where
  shape := .record "LikerResponse" <|
    .cons (.required "actor_id") .text <|
    .cons (.required "unix_timestamp") .uint64 .nil
  toData l := (l.actor, l.unixTimestamp, ())
  ofData := fun (actor, unixTimestamp, ()) => ⟨actor, unixTimestamp⟩

instance : Json.Document ListReply where
  shape := .record "ListLikedYouResponse" <|
    .cons (.required "likers") (.list (Json.Document.shape LikerReply)) <|
    .cons (.ifAny "next_pagination_token") (.option .text) .nil
  toData r := (r.likers.map Json.Document.toData, r.nextToken, ())
  ofData := fun (likers, nextToken, ()) => ⟨likers.map Json.Document.ofData, nextToken⟩
  ofData_toData r := congrArg (ListReply.mk · r.nextToken) (Json.map_ofData_toData r.likers)
  toData_ofData := fun (likers, nextToken, ()) =>
    congrArg (·, nextToken, ()) (Json.map_toData_ofData (α := LikerReply) likers)

instance : Json.Document CountReply where
  shape := .record "CountLikedYouResponse" <| .cons (.required "count") .uint64 .nil
  toData r := (r.count, ())
  ofData := fun (count, ()) => ⟨count⟩

instance : Json.Document PutReply where
  shape := .record "PutDecisionResponse" <| .cons (.required "mutual_likes") .flag .nil
  toData r := (r.mutualLikes, ())
  ofData := fun (mutualLikes, ()) => ⟨mutualLikes⟩

/-! ## Replies from pages -/

/-- A liker as callers see him: a like before 1970 is shown at its beginning. -/
def LikerReply.ofLiker (l : Liker) : LikerReply := ⟨l.actor, UInt64.ofNat l.timestamp.toInt.toNat⟩

/-- A page as callers see it. -/
def ListReply.ofPage (p : Page) : ListReply := ⟨p.likers.map .ofLiker, p.next⟩

end LikedYou.Api
