import Std.Data.ExtTreeMap
import LikedYou.Store.Basic

/-!
# The decision relation

The last verdict for each ordered pair of users, kept in memory. Two relations are equal when they
hold the same verdicts; in which order these were recorded does not matter.

A list of likers is sorted by the full time of the likes, newest first, and by the actor where times
are equal, while a page is bounded by whole seconds.
-/

namespace LikedYou

/-- An ordered pair of users. -/
structure Pair where
  actor : String
  recipient : String
  deriving DecidableEq, Repr

namespace Pair

instance : Ord Pair := ⟨compareLex (compareOn actor) (compareOn recipient)⟩

instance : Std.TransOrd Pair :=
  inferInstanceAs (Std.TransCmp (compareLex (compareOn actor) (compareOn recipient)))

instance : Std.LawfulEqOrd Pair where
  eq_of_compare {a b} h := by
    obtain ⟨h1, h2⟩ := compareLex_eq_eq.mp h
    cases a
    cases b
    cases Std.LawfulEqOrd.eq_of_compare h1
    cases Std.LawfulEqOrd.eq_of_compare h2
    rfl

end Pair

/-- The last verdict for each ordered pair. -/
structure Relation where
  verdicts : Std.ExtTreeMap Pair Verdict

namespace Relation

/-- Nobody has decided anything. -/
def empty : Relation := ⟨∅⟩

/-! ## Single decisions -/

/-- The last verdict of `actor` about `recipient`. -/
def verdict? (r : Relation) (actor recipient : String) : Option Verdict :=
  r.verdicts[Pair.mk actor recipient]?

/-- The last decision of `actor` about `recipient`. -/
def decision? (r : Relation) (actor recipient : String) : Option Decision :=
  (r.verdict? actor recipient).map fun v => ⟨actor, recipient, v.liked, v.createdAt⟩

/-- Whether `actor` has decided about `recipient`. -/
def decided (r : Relation) (actor recipient : String) : Bool :=
  (r.verdict? actor recipient).isSome

/-- Whether the last decision of `actor` about `recipient` is a like. -/
def likes (r : Relation) (actor recipient : String) : Bool :=
  (r.verdict? actor recipient).any (·.liked)

/-- Whether two users like each other. -/
def areMutual (r : Relation) (a b : String) : Bool := r.likes a b && r.likes b a

/-- Record a decision made at a given time. -/
def record (r : Relation) (actor recipient : String) (liked : Bool) (time : Time.Timestamp) :
    Relation :=
  ⟨r.verdicts.insert ⟨actor, recipient⟩ ⟨liked, time⟩⟩

/-- Record a decision made now. -/
def recordNow (r : Relation) (actor recipient : String) (liked : Bool) (clock : Time.Clock) :
    Except Breakdown Relation :=
  clock.now.map (r.record actor recipient liked)

/-- How many pairs have a decision. -/
def size (r : Relation) : Nat := r.verdicts.size

/-- All decisions. -/
def decisions (r : Relation) : List Decision :=
  r.verdicts.toList.map fun (pair, v) => ⟨pair.actor, pair.recipient, v.liked, v.createdAt⟩

theorem verdict?_record (r : Relation) (a b a' b' : String) (liked : Bool)
    (time : Time.Timestamp) :
    (r.record a b liked time).verdict? a' b' =
      if a' = a ∧ b' = b then some ⟨liked, time⟩ else r.verdict? a' b' := by
  simp only [verdict?, record, Std.ExtTreeMap.getElem?_insert, Std.compare_eq_iff_eq, Pair.mk.injEq]
  simp only [eq_comm]

/-! ## Lists of likers -/

/-- Whether a decision is a like of `recipient` that belongs into a list below a bound. -/
def matching (r : Relation) (listing : Listing) (recipient : String) (before : Option Int64)
    (d : Decision) : Bool :=
  d.recipient = recipient && d.liked && before.all (d.epoch < ·) &&
    (listing = .everyone || !r.decided recipient d.actor)

/-- Whether `a` may stand before `b` in a list: newer, or as new and first by the actor. -/
def newestFirst (a b : Decision) : Bool :=
  b.createdAt.before a.createdAt ||
    (a.createdAt = b.createdAt && a.actor ≤ b.actor)

/-- The list of likes of `recipient` below a bound. -/
def listed (r : Relation) (listing : Listing) (recipient : String) (before : Option Int64) :
    List Decision :=
  (r.decisions.filter (r.matching listing recipient before)).mergeSort newestFirst

/-- A page of likers of `recipient`. -/
def page (r : Relation) (listing : Listing) (recipient : String) (bounds : PageBounds) : Page :=
  Page.assemble
    (((r.listed listing recipient bounds.before).take (bounds.size + 1)).map Decision.toLiker)
    bounds

/-- The number of likes of `recipient`. -/
def count (r : Relation) (recipient : String) : Nat :=
  r.decisions.countP fun d => d.recipient = recipient && d.liked

end Relation

/-! ## As a store -/

instance : DecisionStore Relation where
  likers listing recipient bounds r := (.ok (r.page listing recipient bounds), r)
  count recipient r := (.ok (UInt64.ofNat (r.count recipient)), r)
  record actor recipient liked clock r :=
    match r.recordNow actor recipient liked clock with
    | .ok r => (.ok (), r)
    | .error b => (.error (.breakdown b), r)
  areMutual actor recipient r := (.ok (r.areMutual actor recipient), r)
  check r := (.ok (), r)

end LikedYou
