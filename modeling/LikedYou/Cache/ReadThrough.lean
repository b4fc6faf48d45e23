import LikedYou.Cache.Basic
import LikedYou.Query

/-!
# Reading through a cache

Answers to queries are looked up in a cache first. A fault of the cache, or a text that is no answer,
counts as a miss. What was fetched instead is given back to the cache by a write that nobody waits
for: it stays pending until it is run, at some later time. Whether it succeeds, fails or breaks down
is not noticed.
-/

namespace LikedYou

/-- How long answers are kept. -/
structure Ttls where
  likers : Time.Duration
  newLikers : Time.Duration
  count : Time.Duration
  deriving DecidableEq, Repr

namespace Ttls

/-- How long answers are kept if nothing else is set. -/
def default : Ttls := ⟨.ofSeconds 30, .ofSeconds 20, .ofSeconds 15⟩

/-- How long the answer to a query is kept. -/
def of (ttls : Ttls) : Query → Time.Duration
  | .list .everyone .. => ttls.likers
  | .list .undecided .. => ttls.newLikers
  | .count _ => ttls.count

end Ttls

/-- A write that nobody waits for. -/
structure PendingWrite where
  key : String
  value : String
  ttl : Time.Duration
  deriving DecidableEq, Repr

/-- A cache for answers, with the writes that are pending, the oldest first. -/
structure ReadThrough (κ : Type) where
  backend : κ
  ttls : Ttls
  pending : List PendingWrite

namespace ReadThrough

variable {κ : Type} [Cache κ]

/-- The answer to a query if the cache has it. -/
def lookup (α : Type) [Json.Document α] (query : Query) (clock : Time.Clock) (c : ReadThrough κ) :
    Except Breakdown (Option α × ReadThrough κ) :=
  match Cache.getJson α query.key clock c.backend with
  | (.ok found, backend) => .ok (found, { c with backend })
  | (.error (.storage _), backend) => .ok (none, { c with backend })
  | (.error (.breakdown b), _) => .error b

omit [Cache κ] in
/-- Leave a text to be kept as the answer to a query. -/
def repopulate (query : Query) (value : String) (c : ReadThrough κ) : ReadThrough κ :=
  { c with pending := c.pending ++ [⟨query.key, value, c.ttls.of query⟩] }

omit [Cache κ] in
/-- Leave a value to be kept as the answer to a query. -/
def repopulateJson {α : Type} [Json.Document α] (query : Query) (answer : α) (c : ReadThrough κ) :
    ReadThrough κ :=
  c.repopulate query (Json.encodeString answer)

/-- Run a write. Whether it succeeds is not noticed. -/
def runWrite (clock : Time.Clock) (c : ReadThrough κ) (w : PendingWrite) : ReadThrough κ :=
  { c with backend := (Cache.set w.key w.value w.ttl clock c.backend).2 }

/-- Run all pending writes, in order. -/
def settle (clock : Time.Clock) (c : ReadThrough κ) : ReadThrough κ :=
  c.pending.foldl (runWrite clock) { c with pending := [] }

end ReadThrough

end LikedYou
