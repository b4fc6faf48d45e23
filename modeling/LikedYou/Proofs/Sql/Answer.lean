import LikedYou.Proofs.Paging.Listed
import LikedYou.Proofs.Sql.Reading
import LikedYou.Store.Postgres
import Mathlib.Data.List.Forall2

/-!
# What a selection asks of a relation

* `Sql.Statement.IsAnsweredBy` — whether a table answers a statement on a relation as its text reads
* `Relation.Spaced` — whether likes of one recipient are at different whole seconds
* `Sql.isListing_of_matching` — then the decisions that a query for a page matches are a list of likers
* `Sql.likersOf_eq` — and the likers are read from a table that shows them

What is answered is said of the text and the parameters alone. Where likes are as old as each other, and
where a time is halfway between two seconds, it is left open which way the database goes.
-/

namespace LikedYou

namespace Sql

/-! ## Answers -/

/-- The parameter at a place. Places are counted from one. -/
def paramAt? (params : List Param) : Nat → Option Param
  | 0 => none
  | place + 1 => params[place]?

/-- Whether `n` is a point in time in seconds, rounded to the nearest one. -/
def IsEpoch (t : Time.Timestamp) (n : Int) : Prop :=
  2 * t.nanos - 1000000000 ≤ 2 * (n - t.seconds.toInt) * 1000000000 ∧
    2 * (n - t.seconds.toInt) * 1000000000 ≤ 2 * t.nanos + 1000000000

theorem isEpoch_iff {t : Time.Timestamp} {n : Int} (h : t.nanos = 0) :
    IsEpoch t n ↔ n = t.seconds.toInt := by
  rw [IsEpoch, h]
  omega

/-- Whether a condition holds of a decision. -/
def Condition.Holds (r : Relation) (params : List Param) (d : Decision) : Condition → Prop
  | recipientIs place => paramAt? params place = some (.text d.recipient)
  | liked => d.liked = true
  | undecided => ¬ ∃ e ∈ r.decisions, e.actor = d.recipient ∧ e.recipient = d.actor
  | before place => ∃ second bound, IsEpoch d.createdAt second ∧
    paramAt? params place = some (.bigint bound) ∧ second < bound.toInt

/-- Whether some decisions are those of which all conditions hold, newest first. -/
structure Select.Matching (s : Select) (r : Relation) (params : List Param) (all : List Decision) :
    Prop where
  nodup : all.Nodup
  mem_iff : ∀ d, d ∈ all ↔ d ∈ r.decisions ∧ ∀ c ∈ s.conditions, c.Holds r params d
  newestFirst : all.Pairwise fun a b => a.createdAt.before b.createdAt = false

/-- Whether a row shows the actor and the second of a decision. -/
def Shows (d : Decision) (row : List Cell) : Prop :=
  ∃ second, IsEpoch d.createdAt second ∧ row = [.text (Utf8.ofString d.actor), .int second]

/-- Whether a table answers a selection: it shows the decisions that match, as many as the limit
allows. -/
structure Select.Answers (s : Select) (r : Relation) (params : List Param) (t : Table) : Prop where
  columns : t.columns = [.text, .int8]
  rows : ∃ all limit, s.Matching r params all ∧ paramAt? params s.limit = some (.bigint limit) ∧
    0 ≤ limit ∧ List.Forall₂ Shows (all.take limit.toInt.toNat) t.rows

/-- Whether a table answers a statement as its text reads. -/
def Statement.IsAnsweredBy (statement : Statement) (r : Relation) (t : Table) : Prop :=
  ∃ s, Select.read? statement.text = some s ∧ s.Answers r statement.params t

end Sql

/-! ## Likes at different seconds -/

/-- Whether all times are whole seconds, and no two likes of one recipient are at the same time. -/
structure Relation.Spaced (r : Relation) : Prop where
  whole : ∀ d ∈ r.decisions, d.createdAt.nanos = 0
  distinct : ∀ d ∈ r.decisions, ∀ e ∈ r.decisions, d.liked = true → e.liked = true →
    d.recipient = e.recipient → d.createdAt = e.createdAt → d = e

namespace Sql

variable {r : Relation} {listing : Listing} {recipient : String} {bounds : PageBounds}
  {all : List Decision}

/-- The places of a query for a page are those of its parameters. -/
theorem places_keyset (listing : Listing) (recipient : String) (bounds : PageBounds) :
    places (keyset listing recipient bounds).text =
      List.range' 1 (keyset listing recipient bounds).params.length := by
  rw [keyset, Select.places_text]
  simp only [keysetParams]
  cases listing with
  | everyone =>
    cases bounds.before with
    | none => rfl
    | some second => rfl
  | undecided =>
    cases bounds.before with
    | none => rfl
    | some second => rfl

/-- A query for a page reads as what it was made of. -/
theorem read?_keyset (listing : Listing) (recipient : String) (bounds : PageBounds) :
    Select.read? (keyset listing recipient bounds).text =
      some (keysetSelect listing bounds.before.isSome) :=
  Select.read?_text (List.cons_ne_nil _ _)

theorem holds_before_iff {d : Decision} (hwhole : d.createdAt.nanos = 0) {params : List Param}
    {place : Nat} {bound : Int64} (hbound : paramAt? params place = some (.bigint bound)) :
    (Condition.before place).Holds r params d ↔ d.epoch < bound := by
  simp only [Condition.Holds, isEpoch_iff hwhole, hbound, Int64.lt_iff_toInt_lt]
  constructor
  · rintro ⟨_, _, rfl, heq, hlt⟩
    cases heq
    exact hlt
  · intro hlt
    exact ⟨_, bound, rfl, rfl, hlt⟩

theorem holds_undecided_iff {d : Decision} {params : List Param} :
    Condition.undecided.Holds r params d ↔ r.verdict? d.recipient d.actor = none := by
  rw [Condition.Holds, Option.eq_none_iff_forall_ne_some]
  constructor
  · intro hnone v hv
    exact hnone ⟨⟨d.recipient, d.actor, v.liked, v.createdAt⟩, Relation.mem_decisions.mpr hv, rfl, rfl⟩
  · rintro hnone ⟨e, he, hactor, hrecipient⟩
    have hv := Relation.mem_decisions.mp he
    rw [hactor, hrecipient] at hv
    exact hnone _ hv

/-- What the conditions of a query for a page say. -/
theorem forall_holds_iff {d : Decision} (hwhole : d.createdAt.nanos = 0) :
    (∀ c ∈ (keysetSelect listing bounds.before.isSome).conditions,
      c.Holds r (keysetParams recipient bounds) d) ↔
    d.recipient = recipient ∧ d.liked = true ∧
      (listing = .everyone ∨ r.verdict? recipient d.actor = none) ∧
      ∀ second, bounds.before = some second → d.epoch < second := by
  have hrecipient : (Condition.recipientIs 1).Holds r (keysetParams recipient bounds) d ↔
      d.recipient = recipient := by
    simp only [Condition.Holds, paramAt?, keysetParams, List.getElem?_cons_zero,
      Option.some.injEq, Param.text.injEq, eq_comm]
  have hundecided : (∀ c ∈ if listing = .undecided then [Condition.undecided] else [],
      c.Holds r (keysetParams recipient bounds) d) ↔
      (listing = .everyone ∨ r.verdict? d.recipient d.actor = none) := by
    cases listing with
    | everyone => exact iff_of_true nofun (Or.inl rfl)
    | undecided => simp [holds_undecided_iff]
  have hbefore : (∀ c ∈ if bounds.before.isSome then [Condition.before 2] else [],
      c.Holds r (keysetParams recipient bounds) d) ↔
      ∀ second, bounds.before = some second → d.epoch < second := by
    cases hbound : bounds.before with
    | none => exact iff_of_true nofun nofun
    | some bound =>
      have hparam : paramAt? (keysetParams recipient bounds) 2 = some (.bigint bound) := by
        rw [keysetParams, hbound]
        rfl
      simp [holds_before_iff hwhole hparam]
  rw [keysetSelect, List.forall_mem_append, List.forall_mem_append, List.forall_mem_cons,
    List.forall_mem_singleton, hrecipient, hundecided, hbefore]
  constructor
  · rintro ⟨⟨⟨rfl, hliked⟩, hlisting⟩, hsecond⟩
    exact ⟨rfl, hliked, hlisting, hsecond⟩
  · rintro ⟨rfl, hliked, hlisting, hsecond⟩
    exact ⟨⟨⟨rfl, hliked⟩, hlisting⟩, hsecond⟩

/-- **The decisions that a query for a page matches are a list of likers**, if likes of one recipient are
at different whole seconds. -/
theorem isListing_of_matching (hspaced : r.Spaced)
    (h : (keysetSelect listing bounds.before.isSome).Matching r (keysetParams recipient bounds) all) :
    r.IsListing listing recipient bounds.before all := by
  have hmem : ∀ d, d ∈ all ↔ d ∈ r.decisions ∧ d.recipient = recipient ∧ d.liked = true ∧
      (listing = .everyone ∨ r.verdict? recipient d.actor = none) ∧
      ∀ second, bounds.before = some second → d.epoch < second := fun d => by
    rw [h.mem_iff]
    exact and_congr_right fun hd => forall_holds_iff (hspaced.whole d hd)
  refine ⟨fun d => ?_, ?_⟩
  · rw [hmem, Relation.mem_decisions]
    constructor
    · rintro ⟨hd, rfl, hliked, hlisting, hsecond⟩
      exact ⟨rfl, hliked, ⟨hliked ▸ hd, hlisting⟩, hsecond⟩
    · rintro ⟨rfl, hliked, ⟨hd, hlisting⟩, hsecond⟩
      exact ⟨hliked ▸ hd, rfl, hliked, hlisting, hsecond⟩
  · refine (h.newestFirst.and h.nodup).imp_of_mem fun {a b} ha hb hab => ?_
    obtain ⟨hold, hne⟩ := hab
    obtain ⟨had, har, hal, -⟩ := (hmem a).mp ha
    obtain ⟨hbd, hbr, hbl, -⟩ := (hmem b).mp hb
    -- two likes are not at the same time, so the later one is newer
    rcases a.createdAt.before_trichotomy b.createdAt with hlt | heq | hlt
    · rw [hold] at hlt
      cases hlt
    · exact absurd (hspaced.distinct a had b hbd hal hbl (har.trans hbr.symm) heq) hne
    · exact Or.inl hlt

/-- A list of likers is what a query for a page matches. -/
theorem matching_listed (hspaced : r.Spaced) (listing : Listing) (recipient : String)
    (bounds : PageBounds) :
    (keysetSelect listing bounds.before.isSome).Matching r (keysetParams recipient bounds)
      (r.listed listing recipient bounds.before) := by
  have hlisting := r.isListing_listed listing recipient bounds.before
  refine ⟨hlisting.nodup, fun d => ?_, hlisting.sorted.imp fun {a b} hab => ?_⟩
  · rw [Relation.listed, List.mem_mergeSort, List.mem_filter]
    refine and_congr_right fun hd => ?_
    rw [Relation.matching_iff hd, forall_holds_iff (hspaced.whole d hd)]
    have hverdict := Relation.mem_decisions.mp hd
    constructor
    · rintro ⟨rfl, hliked, ⟨-, hlisting⟩, hsecond⟩
      exact ⟨rfl, hliked, hlisting, hsecond⟩
    · rintro ⟨rfl, hliked, hlisting, hsecond⟩
      exact ⟨rfl, hliked, ⟨hliked ▸ hverdict, hlisting⟩, hsecond⟩
  · rw [← Bool.not_eq_true]
    intro hba
    exact a.not_precedes_self (hab.trans (Or.inl hba))

/-- **The likers are read from a table that shows them.** -/
theorem likersOf_eq {t : Table} {rows : List Decision} (hcolumns : t.columns = [.text, .int8])
    (hwhole : ∀ d ∈ rows, d.createdAt.nanos = 0) (hrows : List.Forall₂ Shows rows t.rows) :
    Postgres.likersOf t = .ok (rows.map Decision.toLiker) := by
  unfold Postgres.likersOf
  generalize t.rows = shown at hrows
  induction hrows with
  | nil => rfl
  | @cons d row rows shown hshows hrows ih =>
    obtain ⟨hd, hrest⟩ := List.forall_mem_cons.mp hwhole
    obtain ⟨second, hsecond, rfl⟩ := hshows
    rw [isEpoch_iff hd] at hsecond
    subst hsecond
    have htext : t.text [.text (Utf8.ofString d.actor), .int d.createdAt.seconds.toInt] 0 =
        .ok d.actor := by
      simp [Table.text, Table.cell, hcolumns, Utf8.toString_ofString]
    have hbigint : t.bigint [.text (Utf8.ofString d.actor), .int d.createdAt.seconds.toInt] 1 =
        .ok d.epoch := by
      simp [Table.bigint, Table.cell, hcolumns, Decision.epoch]
    rw [List.mapM_cons, ih hrest, htext, hbigint]
    rfl

/-- One row more is fetched than fits on a page. -/
theorem toInt_fetchSize (bounds : PageBounds) : bounds.fetchSize.toInt = bounds.size + 1 := by
  have hpos := bounds.limit_pos
  have hlt := bounds.limit.toInt_lt
  rw [PageBounds.fetchSize, PageBounds.size, Int64.toInt_add, Int32.toInt_toInt64, Int64.toInt_one,
    Int.bmod_eq_of_le (by omega) (by omega)]
  omega

theorem paramAt?_limit (listing : Listing) (recipient : String) (bounds : PageBounds) :
    paramAt? (keysetParams recipient bounds) (keysetSelect listing bounds.before.isSome).limit =
      some (.bigint bounds.fetchSize) := by
  unfold keysetParams keysetSelect
  cases bounds.before with
  | none => rfl
  | some second => rfl

/-! ## Tables -/

/-- A table that shows some decisions. -/
def tableOf (rows : List Decision) : Table :=
  ⟨[.text, .int8], rows.map fun d => [.text (Utf8.ofString d.actor), .int d.epoch.toInt]⟩

/-- Where likes of one recipient are at different whole seconds, every query for a page has an answer. -/
theorem isAnsweredBy_tableOf (hspaced : r.Spaced) (listing : Listing) (recipient : String)
    (bounds : PageBounds) : (keyset listing recipient bounds).IsAnsweredBy r
      (tableOf ((r.listed listing recipient bounds.before).take (bounds.size + 1))) := by
  have hfetch := toInt_fetchSize bounds
  have hmatching := matching_listed hspaced listing recipient bounds
  refine ⟨_, read?_keyset listing recipient bounds, rfl, _, _, hmatching,
    paramAt?_limit listing recipient bounds, ?_, ?_⟩
  · rw [Int64.le_iff_toInt_le, hfetch, Int64.toInt_zero]
    omega
  · have hsize : bounds.fetchSize.toInt.toNat = bounds.size + 1 := by omega
    rw [hsize, tableOf, List.forall₂_map_right_iff, List.forall₂_same]
    intro d hd
    have hwhole := hspaced.whole d ((hmatching.mem_iff d).mp (List.mem_of_mem_take hd)).1
    exact ⟨_, (isEpoch_iff hwhole).mpr rfl, rfl⟩

end Sql

end LikedYou
