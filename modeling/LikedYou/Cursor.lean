import LikedYou.Base64
import LikedYou.Fault
import LikedYou.Json.Document

/-!
# Cursors

A cursor is where a caller stands in a list of likers: the second of the last like seen, and the
size of the pages asked for. The caller keeps it as a token, which is the URL-safe base64 text of the
cursor's JSON document. The empty token stands for the beginning.

Any size can be written into a cursor. What is made of a size that is not positive is decided where
a page is bounded, not here.
-/

namespace LikedYou

/-- The second of the last like on a page, and the size of the pages. -/
structure Cursor where
  lastCreatedAt : Int64
  limit : Int32
  deriving DecidableEq, Repr

instance : Json.Document Cursor where
  shape := .record "Cursor" <|
    .cons (.required "last_created_at") .int64 <|
    .cons (.required "limit") .int32 .nil
  toData c := (c.lastCreatedAt, c.limit, ())
  ofData := fun (lastCreatedAt, limit, ()) => ⟨lastCreatedAt, limit⟩

namespace Cursor

/-- The token of a cursor. -/
def token (c : Cursor) : String := String.ofList (Base64.encode (Utf8.encode (Json.encode c)))

/-- The cursor of a token, if the token is not empty. -/
def ofToken (token : String) : Except Fault (Option Cursor) :=
  if token.isEmpty then .ok none
  else
    match Base64.decode (Utf8.ofString token) with
    | .error f => .error (.invalidToken s!"not base64: {f.message}")
    | .ok bs =>
      match Json.decode bs with
      | .error f => .error (.invalidToken s!"not a cursor: {f.message bs}")
      | .ok c => .ok (some c)

end Cursor

end LikedYou
