import LikedYou.Proofs.Paging.Walk
import Mathlib.Data.List.Nodup
import Mathlib.Data.List.Perm.Subperm

/-!
# What a walk delivers

* `Relation.walk_account` — what is delivered by a walk from any page on, and what is not
* `Relation.all_delivered_iff` — when a walk from the first page on delivers everyone
* `Relation.not_all_delivered` — that it does not always do so: when a page ends between two likes
  of one second, the second one of them is on no page
-/

namespace LikedYou

/-- The likers on some pages. -/
def delivered (pages : List Page) : List Liker := pages.flatMap Page.likers

namespace Relation

variable {r : Relation} {listing : Listing} {recipient : String} {before : Option Int64}
  {rows : List Decision} {pages : List Page} {parts : List (List Decision)}

/-! ## Pages and the rows on them -/

theorem delivered_eq_of_map_likers
    (h : pages.map Page.likers = parts.map (List.map Decision.toLiker)) :
    delivered pages = parts.flatten.map Decision.toLiker := by
  rw [delivered, List.flatMap_def, h, List.map_flatten]

theorem map_likers_dropLast
    (h : pages.map Page.likers = parts.map (List.map Decision.toLiker)) :
    pages.dropLast.map Page.likers = parts.dropLast.map (List.map Decision.toLiker) := by
  rw [List.map_dropLast, h, List.map_dropLast]

/-- On a list, a liker tells the row. -/
theorem IsListing.toLiker_inj (h : r.IsListing listing recipient before rows) {a b : Decision}
    (ha : a ∈ rows) (hb : b ∈ rows) (hab : a.toLiker = b.toLiker) : a = b :=
  List.inj_on_of_nodup_map h.nodup_actors ha hb (congrArg Liker.actor hab)

theorem IsListing.toLiker_mem_delivered (h : r.IsListing listing recipient before rows)
    (hsub : parts.flatten.Sublist rows)
    (hmap : pages.map Page.likers = parts.map (List.map Decision.toLiker)) {d : Decision}
    (hd : d ∈ rows) : d.toLiker ∈ delivered pages ↔ d ∈ parts.flatten := by
  rw [delivered_eq_of_map_likers hmap, List.mem_map]
  constructor
  · rintro ⟨e, he, hde⟩
    exact h.toLiker_inj (hsub.subset he) hd hde ▸ he
  · intro hd
    exact ⟨d, hd, rfl⟩

/-! ## The account of a walk -/

/-- What the pages of a walk have of a list. -/
structure Account (bounds : PageBounds) (rows : List Decision) (pages : List Page) : Prop where
  /-- Up to the last page, each page is full, and its token tells the second of its last liker and
  the size of the pages. -/
  full : ∀ page ∈ pages.dropLast, page.likers.length = bounds.size ∧
    ∃ last token, page.likers.getLast? = some last ∧ page.next = some token ∧
      Cursor.ofToken token = .ok (some ⟨last.timestamp, bounds.limit⟩)
  /-- What is delivered stands in the list, in the same order. -/
  sublist : (delivered pages).Sublist (rows.map Decision.toLiker)
  /-- Nobody is delivered twice. -/
  nodup : ((delivered pages).map Liker.actor).Nodup
  /-- What is missing comes after the last liker of a page that is not the last page, in the same
  second. -/
  missing_iff : ∀ d ∈ rows, d.toLiker ∉ delivered pages ↔
    ∃ page ∈ pages.dropLast, ∃ last ∈ rows, page.likers.getLast? = some last.toLiker ∧
      last.Precedes d ∧ last.epoch = d.epoch
  /-- If the likes are of different seconds, all are delivered, on as few pages as can be. -/
  complete : (rows.map Decision.epoch).Nodup → delivered pages = rows.map Decision.toLiker ∧
    pages.length = max 1 ((rows.length + bounds.size - 1) / bounds.size)

theorem IsListing.missing_iff (h : r.IsListing listing recipient before rows) {size : Nat}
    (hdealt : Dealt size rows parts)
    (hmap : pages.map Page.likers = parts.map (List.map Decision.toLiker)) {d : Decision}
    (hd : d ∈ rows) :
    d.toLiker ∉ delivered pages ↔
      ∃ page ∈ pages.dropLast, ∃ last ∈ rows, page.likers.getLast? = some last.toLiker ∧
        last.Precedes d ∧ last.epoch = d.epoch := by
  have hin : ∀ part ∈ parts.dropLast, ∀ last, part.getLast? = some last → last ∈ rows := by
    intro part hpart last hlast
    exact hdealt.sublist.subset (List.mem_flatten.mpr
      ⟨part, (List.dropLast_sublist parts).subset hpart, List.mem_of_getLast? hlast⟩)
  have hdrop := map_likers_dropLast hmap
  rw [h.toLiker_mem_delivered hdealt.sublist hmap hd, hdealt.not_mem_iff h.sorted hd]
  constructor
  · rintro ⟨part, hpart, last, hlast, hafter⟩
    have hpart' : part.map Decision.toLiker ∈ pages.dropLast.map Page.likers :=
      hdrop ▸ List.mem_map_of_mem hpart
    obtain ⟨page, hpage, hlikers⟩ := List.mem_map.mp hpart'
    refine ⟨page, hpage, last, hin part hpart last hlast, ?_, hafter⟩
    rw [hlikers, List.getLast?_map, hlast]
    rfl
  · rintro ⟨page, hpage, last, hlastmem, hlast, hafter⟩
    have hpage' : page.likers ∈ parts.dropLast.map (List.map Decision.toLiker) :=
      hdrop ▸ List.mem_map_of_mem hpage
    obtain ⟨part, hpart, hlikers⟩ := List.mem_map.mp hpage'
    rw [← hlikers, List.getLast?_map, Option.map_eq_some_iff] at hlast
    obtain ⟨last', hlast', heq⟩ := hlast
    obtain rfl := h.toLiker_inj (hin part hpart last' hlast') hlastmem heq
    exact ⟨part, hpart, last', hlast', hafter⟩

theorem separated_of_nodup {size : Nat} (hsize : 0 < size) (h : (rows.map Decision.epoch).Nodup) :
    Dealt.Separated size rows := by
  intro k hk he
  have hpos : 0 < (k + 1) * size := Nat.mul_pos (Nat.succ_pos k) hsize
  rw [← List.getElem?_map, ← List.getElem?_map] at he
  have hindex := (List.getElem?_inj (by rw [List.length_map]; omega) h).mp he
  omega

/-- **What a walk delivers.** From any page on, following the tokens comes to an end in one way, and
the pages give this account of the list below the bound of the first of them. -/
theorem walk_account (r : Relation) (listing : Listing) (recipient : String) (bounds : PageBounds) :
    ∃ rows pages, r.IsListing listing recipient bounds.before rows ∧
      r.Walk listing recipient bounds pages ∧
      (∀ pages', r.Walk listing recipient bounds pages' → pages' = pages) ∧
      Account bounds rows pages := by
  have h := r.isListing_listed listing recipient bounds.before
  obtain ⟨pages, parts, hwalk, hdealt, hmap⟩ := exists_walk h
  have hdelivered := delivered_eq_of_map_likers hmap
  have hsublist : (delivered pages).Sublist
      ((r.listed listing recipient bounds.before).map Decision.toLiker) := by
    rw [hdelivered]
    exact hdealt.sublist.map _
  refine ⟨_, pages, h, hwalk, fun pages' hwalk' => hwalk'.unique hwalk, ?_, hsublist, ?_,
    fun d hd => h.missing_iff hdealt hmap hd, fun hnodup => ?_⟩
  · intro page hpage
    obtain ⟨hlength, last, hlast, hnext⟩ := hwalk.full hpage
    exact ⟨hlength, last, _, hlast, hnext, Cursor.ofToken_token _⟩
  · have hactors := h.nodup_actors
    refine List.Nodup.sublist (hsublist.map Liker.actor) ?_
    rwa [List.map_map]
  · have hall := (hdealt.flatten_eq_iff bounds.size_pos).mpr
      (separated_of_nodup bounds.size_pos hnodup)
    have hlength := congrArg List.length hmap
    rw [List.length_map, List.length_map] at hlength
    rw [hdelivered, hall, hlength]
    exact ⟨rfl, hdealt.length_parts bounds.size_pos hall⟩

/-! ## When everyone is delivered -/

/-- If every actor of a list is delivered, all rows were dealt out. -/
theorem IsListing.flatten_eq_of_actors (h : r.IsListing listing recipient before rows)
    (hsub : parts.flatten.Sublist rows)
    (hactors : ∀ actor ∈ rows.map Decision.actor, actor ∈ parts.flatten.map Decision.actor) :
    parts.flatten = rows := by
  have hrows : rows ⊆ parts.flatten := by
    -- an actor stands in the list once, so the row delivered for him is this one
    intro d hd
    obtain ⟨e, he, hactor⟩ := List.mem_map.mp (hactors _ (List.mem_map_of_mem hd))
    exact List.inj_on_of_nodup_map h.nodup_actors (hsub.subset he) hd hactor ▸ he
  exact hsub.eq_of_length_le (h.nodup.subperm hrows).length_le

/-- What a walk from the first page on has of a list: everyone if no page ends between two likes of
one second, and only then. -/
theorem IsListing.exists_walk_first (h : r.IsListing listing recipient none rows) (limit : Int32) :
    ∃ pages, r.Walk listing recipient (PageBounds.first limit) pages ∧
      ((∀ actor ∈ rows.map Decision.actor, ((delivered pages).map Liker.actor).count actor = 1) ↔
        Dealt.Separated (PageBounds.first limit).size rows) := by
  have hbounds : r.IsListing listing recipient (PageBounds.first limit).before rows := by
    rwa [PageBounds.before_first]
  obtain ⟨pages, parts, hwalk, hdealt, hmap⟩ := exists_walk hbounds
  have hactors : (delivered pages).map Liker.actor = parts.flatten.map Decision.actor := by
    rw [delivered_eq_of_map_likers hmap, List.map_map]
    rfl
  refine ⟨pages, hwalk, ?_⟩
  rw [← hdealt.flatten_eq_iff (PageBounds.first limit).size_pos, hactors]
  constructor
  · intro hall
    refine h.flatten_eq_of_actors hdealt.sublist fun actor hactor => ?_
    exact List.count_pos_iff.mp (by rw [hall actor hactor]; decide)
  · intro hall actor hactor
    rw [hall]
    exact List.count_eq_one_of_mem h.nodup_actors hactor

/-- **When a walk delivers everyone.** Following the tokens from the first page on comes to an end
in one way, and delivers each of those who belong into the list exactly once if and only if no page
ends between two likes of one second. -/
theorem all_delivered_iff (r : Relation) (listing : Listing) (recipient : String) (limit : Int32) :
    ∃ rows pages, r.IsListing listing recipient none rows ∧
      r.Walk listing recipient (PageBounds.first limit) pages ∧
      (∀ pages', r.Walk listing recipient (PageBounds.first limit) pages' → pages' = pages) ∧
      ((∀ actor, (∃ time, r.Matches listing recipient actor time) →
          ((delivered pages).map Liker.actor).count actor = 1) ↔
        Dealt.Separated (PageBounds.first limit).size rows) := by
  have h := r.isListing_listed listing recipient none
  obtain ⟨pages, hwalk, hiff⟩ := h.exists_walk_first limit
  refine ⟨_, pages, h, hwalk, fun pages' hwalk' => hwalk'.unique hwalk, ?_⟩
  rw [← hiff]
  exact forall_congr' fun actor => by rw [h.matches_iff]

/-- Two likes of one second. -/
def twoLikes : Relation :=
  (empty.record "a" "R" true ⟨100, 0⟩).record "b" "R" true ⟨100, 500000000⟩

theorem isListing_twoLikes :
    twoLikes.IsListing .everyone "R" none
      [⟨"b", "R", true, ⟨100, 500000000⟩⟩, ⟨"a", "R", true, ⟨100, 0⟩⟩] := by
  have hverdict : ∀ actor time, twoLikes.verdict? actor "R" = some ⟨true, time⟩ ↔
      actor = "b" ∧ time = ⟨100, 500000000⟩ ∨ actor = "a" ∧ time = ⟨100, 0⟩ := by
    intro actor time
    rw [twoLikes, verdict?_record, verdict?_record]
    by_cases hb : actor = "b"
    · subst hb
      simp [eq_comm]
    · by_cases ha : actor = "a"
      · subst ha
        simp [eq_comm]
      · simp [ha, hb, verdict?, empty]
  refine ⟨fun d => ?_, ?_⟩
  · simp only [List.mem_cons, List.not_mem_nil, or_false, Matches, hverdict]
    constructor
    · rintro (rfl | rfl)
      · simp
      · simp
    · rintro ⟨hrecipient, hliked, ⟨h | h, -⟩, -⟩
      · cases d
        simp_all
      · cases d
        simp_all
  · refine List.pairwise_pair.mpr (Or.inl (by decide))

/-- **A liker can be on no page.** With one liker on a page, the first page ends between the two
likes, and the other one is never delivered. -/
theorem not_all_delivered :
    ¬ ∀ (r : Relation) (listing : Listing) (recipient : String) (limit : Int32) (pages : List Page),
      r.Walk listing recipient (PageBounds.first limit) pages →
        ∀ actor, (∃ time, r.Matches listing recipient actor time) →
          ((delivered pages).map Liker.actor).count actor = 1 := by
  intro hall
  obtain ⟨pages, hwalk, hiff⟩ := isListing_twoLikes.exists_walk_first 1
  have hdelivered := hall _ _ _ _ pages hwalk
  simp only [isListing_twoLikes.matches_iff] at hdelivered
  exact hiff.mp hdelivered 0 (by decide) (by decide)

end Relation

end LikedYou
