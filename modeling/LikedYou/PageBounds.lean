import LikedYou.Cursor

/-!
# The bounds of a page

A page holds the newest likes that are older than a given second, as many as fit. Its size is always
positive: a size that is not is replaced by the default.

One row more than fits on the page is fetched, to learn whether another page follows.
-/

namespace LikedYou

/-- Which rows a page may hold, and how many. -/
structure PageBounds where
  /-- Only likes before this second are on the page. -/
  before : Option Int64
  limit : Int32
  limit_pos : 0 < limit.toInt := by decide
  deriving DecidableEq

namespace PageBounds

/-- The size of a page where none is given. -/
def defaultLimit : Int32 := 20

/-- A page of the given size, or of the default size if that is not positive. -/
def sized (before : Option Int64) (limit : Int32) : PageBounds :=
  if h : 0 < limit.toInt then ⟨before, limit, h⟩ else { before, limit := defaultLimit }

/-- The first page, with the given size. -/
def first (limit : Int32) : PageBounds := sized none limit

/-- The page where a cursor stands, or the first page of the default size. -/
def ofCursor : Option Cursor → PageBounds
  | none => { before := none, limit := defaultLimit }
  | some c => sized (some c.lastCreatedAt) c.limit

/-- The page where a token stands. -/
def ofToken (token : String) : Except Fault PageBounds := (Cursor.ofToken token).map ofCursor

/-- How many rows are on a full page. -/
def size (page : PageBounds) : Nat := page.limit.toInt.toNat

/-- How many rows are fetched. -/
def fetchSize (page : PageBounds) : Int64 := page.limit.toInt64 + 1

/-- Where one stands after a like of the given second. -/
def cursorAfter (page : PageBounds) (second : Int64) : Cursor := ⟨second, page.limit⟩

end PageBounds

end LikedYou
