import LikedYou.Proofs.Paging.Order
import LikedYou.Proofs.Paging.Token

/-!
# What a list of likers holds

* `Relation.isListing_listed` — a list holds the likes that match, newest first
* `Relation.IsListing.unique` — and that determines it
* `Relation.IsListing.page_cases` — a page that is followed by another one cuts the list after its
  last like, and the next page begins at the first like of an earlier second

The order within a list is that of full times, and the bound of a page is a second. What ties the
two together is that along the list the seconds never increase.
-/

namespace LikedYou.Relation

variable {r : Relation} {listing : Listing} {recipient : String} {before : Option Int64}
  {rows : List Decision}

/-! ## Decisions -/

theorem mem_decisions {d : Decision} :
    d ∈ r.decisions ↔ r.verdict? d.actor d.recipient = some ⟨d.liked, d.createdAt⟩ := by
  rw [decisions, verdict?, ← Std.ExtTreeMap.mem_toList_iff_getElem?_eq_some, List.mem_map]
  constructor
  · rintro ⟨⟨pair, v⟩, hmem, rfl⟩
    exact hmem
  · intro hmem
    exact ⟨_, hmem, rfl⟩

theorem pairwise_decisions (r : Relation) :
    r.decisions.Pairwise fun a b => a.recipient = b.recipient → a.actor ≠ b.actor := by
  rw [decisions, List.pairwise_map]
  refine r.verdicts.distinct_keys_toList.imp ?_
  rintro ⟨⟨a, b⟩, v⟩ ⟨⟨a', b'⟩, v'⟩ hne hrecipient hactor
  cases hrecipient
  cases hactor
  exact hne Std.ReflCmp.compare_self

/-! ## Lists -/

/-- Whether `actor` belongs into a list of likers of `recipient`, by a like of a given time. -/
def Matches (r : Relation) (listing : Listing) (recipient actor : String)
    (time : Time.Timestamp) : Prop :=
  r.verdict? actor recipient = some ⟨true, time⟩ ∧
    (listing = .everyone ∨ r.verdict? recipient actor = none)

/-- Whether `rows` are the likes of `recipient` below a bound, newest first. -/
structure IsListing (r : Relation) (listing : Listing) (recipient : String)
    (before : Option Int64) (rows : List Decision) : Prop where
  mem_iff : ∀ d, d ∈ rows ↔ d.recipient = recipient ∧ d.liked = true ∧
    r.Matches listing recipient d.actor d.createdAt ∧
      ∀ second, before = some second → d.epoch < second
  sorted : rows.Pairwise Decision.Precedes

theorem matching_iff {d : Decision} (hd : d ∈ r.decisions) :
    r.matching listing recipient before d = true ↔
      d.recipient = recipient ∧ d.liked = true ∧
        r.Matches listing recipient d.actor d.createdAt ∧
          ∀ second, before = some second → d.epoch < second := by
  rw [mem_decisions] at hd
  have hbefore : before.all (d.epoch < ·) = true ↔
      ∀ second, before = some second → d.epoch < second := by
    cases before <;> simp
  simp only [matching, Matches, Bool.and_eq_true, Bool.or_eq_true, decide_eq_true_eq, hbefore,
    decided, Bool.not_eq_true', Option.isSome_eq_false_iff, Option.isNone_iff_eq_none]
  constructor
  · rintro ⟨⟨⟨rfl, hliked⟩, hsecond⟩, hlisting⟩
    exact ⟨rfl, hliked, ⟨hliked ▸ hd, hlisting⟩, hsecond⟩
  · rintro ⟨hrecipient, hliked, ⟨-, hlisting⟩, hsecond⟩
    exact ⟨⟨⟨hrecipient, hliked⟩, hsecond⟩, hlisting⟩

/-- **A list holds the likes that match, newest first.** -/
theorem isListing_listed (r : Relation) (listing : Listing) (recipient : String)
    (before : Option Int64) :
    r.IsListing listing recipient before (r.listed listing recipient before) := by
  refine ⟨fun d => ?_, ?_⟩
  · rw [listed, List.mem_mergeSort, List.mem_filter]
    constructor
    · rintro ⟨hd, hmatching⟩
      exact (matching_iff hd).mp hmatching
    · rintro ⟨rfl, hliked, hmatches, hsecond⟩
      have hd : d ∈ r.decisions := mem_decisions.mpr (hliked ▸ hmatches.1)
      exact ⟨hd, (matching_iff hd).mpr ⟨rfl, hliked, hmatches, hsecond⟩⟩
  · -- sorting leaves ties only between rows of one actor, and there are none in a list
    have hsorted := List.pairwise_mergeSort newestFirst_trans newestFirst_total
      (r.decisions.filter (r.matching listing recipient before))
    have hactors : (r.listed listing recipient before).Pairwise fun a b => a.actor ≠ b.actor := by
      refine List.Pairwise.perm ?_ (List.mergeSort_perm _ _).symm fun h => h.symm
      have hpairs := (r.pairwise_decisions.sublist List.filter_sublist :
        (r.decisions.filter (r.matching listing recipient before)).Pairwise _)
      refine hpairs.imp_of_mem fun {a b} ha hb hne => hne ?_
      obtain ⟨ha, hmatching⟩ := List.mem_filter.mp ha
      obtain ⟨hb, hmatching'⟩ := List.mem_filter.mp hb
      rw [((matching_iff ha).mp hmatching).1, ((matching_iff hb).mp hmatching').1]
    refine hsorted.imp₂ (fun a b h hne => ?_) hactors
    rcases newestFirst_iff.mp h with h | ⟨-, h⟩
    · exact h
    · exact absurd h hne

namespace IsListing

theorem nodup (h : r.IsListing listing recipient before rows) : rows.Nodup :=
  h.sorted.imp fun {a b} hab he => a.not_precedes_self (by rw [← he] at hab; exact hab)

/-- An actor stands in a list once. -/
theorem nodup_actors (h : r.IsListing listing recipient before rows) :
    (rows.map Decision.actor).Nodup := by
  rw [List.Nodup, List.pairwise_map]
  refine h.nodup.imp_of_mem fun {a b} ha hb hne hactor => hne ?_
  obtain ⟨har, hal, ⟨hav, -⟩, -⟩ := (h.mem_iff a).mp ha
  obtain ⟨hbr, hbl, ⟨hbv, -⟩, -⟩ := (h.mem_iff b).mp hb
  rw [hactor, hbv] at hav
  cases a
  cases b
  cases hactor
  cases har
  cases hbr
  cases hal
  cases hbl
  cases hav
  rfl

/-- Those who belong into a list are the actors of its rows. -/
theorem matches_iff (h : r.IsListing listing recipient none rows) {actor : String} :
    (∃ time, r.Matches listing recipient actor time) ↔ actor ∈ rows.map Decision.actor := by
  rw [List.mem_map]
  constructor
  · rintro ⟨time, hmatches⟩
    exact ⟨⟨actor, recipient, true, time⟩, (h.mem_iff _).mpr ⟨rfl, rfl, hmatches, nofun⟩, rfl⟩
  · rintro ⟨d, hd, rfl⟩
    exact ⟨_, ((h.mem_iff d).mp hd).2.2.1⟩

/-- **The likes that match and their order determine a list.** -/
theorem unique {rows' : List Decision} (h : r.IsListing listing recipient before rows)
    (h' : r.IsListing listing recipient before rows') : rows = rows' := by
  refine List.Perm.eq_of_pairwise ?_ h.sorted h'.sorted ?_
  · intro a b _ _ hab hba
    exact absurd (hab.trans hba) a.not_precedes_self
  · rw [List.perm_ext_iff_of_nodup h.nodup h'.nodup]
    intro d
    rw [h.mem_iff, h'.mem_iff]

theorem listed_eq (h : r.IsListing listing recipient before rows) :
    r.listed listing recipient before = rows :=
  (r.isListing_listed listing recipient before).unique h

/-- The part of a list below an earlier second. -/
theorem filter_epoch (h : r.IsListing listing recipient before rows) {second : Int64}
    (hsecond : ∀ bound, before = some bound → second ≤ bound) :
    r.IsListing listing recipient (some second) (rows.filter (·.epoch < second)) := by
  refine ⟨fun d => ?_, h.sorted.sublist List.filter_sublist⟩
  rw [List.mem_filter, decide_eq_true_eq, h.mem_iff]
  constructor
  · rintro ⟨⟨hrecipient, hliked, hmatches, -⟩, hlt⟩
    exact ⟨hrecipient, hliked, hmatches, by rintro _ ⟨⟩; exact hlt⟩
  · rintro ⟨hrecipient, hliked, hmatches, hlt⟩
    refine ⟨⟨hrecipient, hliked, hmatches, fun bound hbound => ?_⟩, hlt second rfl⟩
    exact Int64.lt_of_lt_of_le (hlt second rfl) (hsecond bound hbound)

end IsListing

/-! ## Pages -/

/-- The likes from a second on stand before those below it. -/
theorem filter_append_filter (h : rows.Pairwise Decision.Precedes) (second : Int64) :
    rows.filter (¬ ·.epoch < second) ++ rows.filter (·.epoch < second) = rows := by
  induction rows with
  | nil => rfl
  | cons d rows ih =>
    obtain ⟨hd, hrows⟩ := List.pairwise_cons.mp h
    by_cases hlt : d.epoch < second
    · -- along the list seconds never increase, so all rows from here on are below
      have hall : ∀ d' ∈ rows, d'.epoch < second := fun d' hd' =>
        Int64.lt_of_le_of_lt (hd d' hd').epoch_le hlt
      rw [List.filter_eq_nil_iff.mpr, List.nil_append, List.filter_eq_self.mpr]
      · simpa [hlt] using hall
      · simpa using ⟨hlt, hall⟩
    · rw [List.filter_cons_of_pos (by simpa using hlt),
        List.filter_cons_of_neg (by simpa using hlt), List.cons_append, ih hrows]

/-- The last row of some rows comes after all the others. -/
theorem eq_or_precedes_last {last d : Decision} (h : rows.Pairwise Decision.Precedes)
    (hlast : rows.getLast? = some last) (hd : d ∈ rows) : d = last ∨ d.Precedes last := by
  obtain ⟨front, rfl⟩ := List.getLast?_eq_some_iff.mp hlast
  rcases List.mem_append.mp hd with hd | hd
  · exact Or.inr ((List.pairwise_append.mp h).2.2 d hd last List.mem_cons_self)
  · exact Or.inl (List.mem_singleton.mp hd)

/-- After some rows come those of the second of their last one, and then the list below it. -/
theorem IsListing.split {taken back : List Decision} {last : Decision}
    (h : r.IsListing listing recipient before (taken ++ back))
    (hlast : taken.getLast? = some last) :
    ∃ skipped next, back = skipped ++ next ∧ (∀ d ∈ skipped, d.epoch = last.epoch) ∧
      r.IsListing listing recipient (some last.epoch) next := by
  obtain ⟨htaken, hback, hcross⟩ := List.pairwise_append.mp h.sorted
  have hmem : last ∈ taken := List.mem_of_getLast? hlast
  refine ⟨_, _, (filter_append_filter hback last.epoch).symm, fun d hd => ?_, ?_⟩
  · obtain ⟨hd, hnot⟩ := List.mem_filter.mp hd
    exact Int64.le_antisymm (hcross last hmem d hd).epoch_le (Int64.not_lt.mp (by simpa using hnot))
  · have hsecond : ∀ bound, before = some bound → last.epoch ≤ bound := fun bound hbound =>
      Int64.le_of_lt (((h.mem_iff last).mp (List.mem_append_left _ hmem)).2.2.2 bound hbound)
    -- the last of the rows taken has their earliest second
    have hnone : taken.filter (·.epoch < last.epoch) = [] := by
      rw [List.filter_eq_nil_iff]
      intro d hd
      rw [decide_eq_true_eq, Int64.not_lt]
      rcases eq_or_precedes_last htaken hlast hd with rfl | hprec
      · exact Int64.le_refl _
      · exact hprec.epoch_le
    have hnext := h.filter_epoch hsecond
    rwa [List.filter_append, hnone, List.nil_append] at hnext

/-- **The two ways in which a page is made of a list**: it takes all of it, or it takes as much as
fits and has the token of the list below the second of the last like that it took. -/
theorem IsListing.page_cases {bounds : PageBounds}
    (h : r.IsListing listing recipient bounds.before rows) :
    (rows.length ≤ bounds.size ∧
      r.page listing recipient bounds = ⟨rows.map Decision.toLiker, none⟩) ∨
    ∃ taken last skipped next, rows = taken ++ (skipped ++ next) ∧ taken.length = bounds.size ∧
      taken.getLast? = some last ∧ skipped ++ next ≠ [] ∧ (∀ d ∈ skipped, d.epoch = last.epoch) ∧
      r.IsListing listing recipient (some last.epoch) next ∧
      r.page listing recipient bounds =
        ⟨taken.map Decision.toLiker, some (bounds.cursorAfter last.epoch).token⟩ := by
  have hsize := bounds.size_pos
  by_cases hlen : rows.length ≤ bounds.size
  · refine Or.inl ⟨hlen, ?_⟩
    rw [page, h.listed_eq, List.take_of_length_le (by omega), Page.assemble, List.length_map,
      if_pos hlen]
  · have hfull : (rows.take bounds.size).length = bounds.size := by
      rw [List.length_take]
      omega
    obtain ⟨last, hlast⟩ : ∃ last, (rows.take bounds.size).getLast? = some last :=
      Option.isSome_iff_exists.mp (List.getLast?_isSome.mpr (List.ne_nil_of_length_pos (by omega)))
    rw [← List.take_append_drop bounds.size rows] at h
    obtain ⟨skipped, next, hback, hskipped, hnext⟩ := h.split hlast
    rw [List.take_append_drop] at h
    refine Or.inr ⟨_, last, skipped, next, ?_, hfull, hlast, ?_, hskipped, hnext, ?_⟩
    · rw [← hback, List.take_append_drop]
    · rw [← hback, Ne, List.drop_eq_nil_iff]
      exact hlen
    · -- one more row is fetched than fits on the page, and cut off again
      rw [page, h.listed_eq, Page.assemble, List.length_map, List.length_take, if_neg (by omega),
        ← List.map_take, List.take_take, Nat.min_eq_left (Nat.le_succ _)]
      simp only [List.getLast?_map, hlast]
      rfl

end LikedYou.Relation
