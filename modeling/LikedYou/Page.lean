import LikedYou.Decision
import LikedYou.PageBounds

/-!
# Pages of likers

A page is made from the rows that were fetched for it, newest first. When there are more than fit,
the page keeps those that do and carries the token of the last one of them.
-/

namespace LikedYou

/-- Some likers, and the token of the next page if there is one. -/
structure Page where
  likers : List Liker
  next : Option String
  deriving DecidableEq, Repr

instance : Json.Document Page where
  shape := .record "LikersPage" <|
    .cons (.required "likers") (.list (Json.Document.shape Liker)) <|
    .cons (.required "next_token") (.option .text) .nil
  toData p := (p.likers.map Json.Document.toData, p.next, ())
  ofData := fun (likers, next, ()) => ⟨likers.map Json.Document.ofData, next⟩
  ofData_toData p := congrArg (Page.mk · p.next) (Json.map_ofData_toData p.likers)
  toData_ofData := fun (likers, next, ()) =>
    congrArg (·, next, ()) (Json.map_toData_ofData (α := Liker) likers)

/-- The page made from rows that were fetched for it. -/
def Page.assemble (rows : List Liker) (bounds : PageBounds) : Page :=
  if rows.length ≤ bounds.size then ⟨rows, none⟩
  else
    let likers := rows.take bounds.size
    ⟨likers, likers.getLast?.map fun last => (bounds.cursorAfter last.timestamp).token⟩

end LikedYou
