import LikedYou.Api.Error
import LikedYou.Api.Service

/-!
# Handling requests

A request is checked before the service sees it: users have to be named, and nobody decides about
himself. What goes wrong is told as an error at the boundary, with a message that is fixed by the
operation where the storage failed.
-/

namespace LikedYou.Api

/-- A field that must not be empty. -/
def require (field value : String) : Except Fault Unit :=
  if value.isEmpty then .error (.missingField field) else .ok ()

/-- A decision names an actor and a recipient, and these are two users. -/
def PutRequest.validate (r : PutRequest) : Except Fault Unit :=
  match require "actor_user_id" r.actor with
  | .error f => .error f
  | .ok () =>
    match require "recipient_user_id" r.recipient with
    | .error f => .error f
    | .ok () => if r.actor = r.recipient then .error .sameUser else .ok ()

/-- What is said when the storage failed to give a list. -/
def listFailure : Listing → String
  | .everyone => "failed to get likers"
  | .undecided => "failed to get new likers"

@[inherit_doc listFailure] def countFailure : String := "failed to count likers"

/-- What is said when the storage failed to record a decision. -/
def putFailure : String := "failed to create decision"

namespace Service

variable {σ κ : Type} [DecisionStore σ] [Cache κ]

/-- Answer a request for a page of a list. -/
def handleList (listing : Listing) (r : ListRequest) (clock : Time.Clock) (s : Service σ κ) :
    Except Breakdown (Except Error ListReply × Service σ κ) :=
  match require "recipient_user_id" r.recipient with
  | .error f => .ok (.error (.ofFault (listFailure listing) f), s)
  | .ok () => do
    let (answer, s) ← s.list listing r.recipient r.token clock
    return (answer.mapError (.ofFault (listFailure listing)), s)

/-- Answer a request for the number of likes. -/
def handleCount (r : CountRequest) (clock : Time.Clock) (s : Service σ κ) :
    Except Breakdown (Except Error CountReply × Service σ κ) :=
  match require "recipient_user_id" r.recipient with
  | .error f => .ok (.error (.ofFault countFailure f), s)
  | .ok () => do
    let (answer, s) ← s.count r.recipient clock
    return ((answer.map CountReply.mk).mapError (.ofFault countFailure), s)

omit [Cache κ] in
/-- Answer a request to record a decision. -/
def handlePut (r : PutRequest) (clock : Time.Clock) (s : Service σ κ) :
    Except Breakdown (Except Error PutReply × Service σ κ) :=
  match r.validate with
  | .error f => .ok (.error (.ofFault putFailure f), s)
  | .ok () => do
    let (answer, s) ← s.decide r.actor r.recipient r.liked clock
    return ((answer.map PutReply.mk).mapError (.ofFault putFailure), s)

end Service

end LikedYou.Api
