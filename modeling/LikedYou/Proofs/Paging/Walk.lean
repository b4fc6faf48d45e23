import LikedYou.Proofs.Paging.Listed

/-!
# Walking through the pages

* `Relation.Walk` — following the tokens from a page on, on a relation that does not change
* `Dealt` — how the rows of a list are dealt out on the pages of a walk
* `Relation.exists_walk` — every walk comes to an end, and deals out its list

A page takes rows until it is full. The next page begins at the first row of an earlier second, so
rows of the second of the last row are skipped. This holds for lists whatever relation they are
from, and what a walk delivers follows by induction over `Dealt`.
-/

namespace LikedYou

/-! ## Dealing out a list -/

/-- How rows are dealt out on pages of a size: up to the last page, each page is full, and the rows
that follow in the second of its last row are skipped. -/
inductive Dealt (size : Nat) : List Decision → List (List Decision) → Prop
  | last {rows : List Decision} (hfits : rows.length ≤ size) : Dealt size rows [rows]
  | more {taken skipped next : List Decision} {last : Decision} {parts : List (List Decision)}
      (hfull : taken.length = size) (hlast : taken.getLast? = some last)
      (hmore : skipped ++ next ≠ []) (hskipped : ∀ d ∈ skipped, d.epoch = last.epoch)
      (hnext : ∀ d ∈ next, d.epoch < last.epoch) (hrest : Dealt size next parts) :
      Dealt size (taken ++ (skipped ++ next)) (taken :: parts)

namespace Dealt

variable {size : Nat} {rows : List Decision} {parts : List (List Decision)}

theorem ne_nil (h : Dealt size rows parts) : parts ≠ [] := by
  cases h <;> exact List.cons_ne_nil _ _

/-- What is dealt out is what there is, in its order. -/
theorem sublist (h : Dealt size rows parts) : parts.flatten.Sublist rows := by
  induction h with
  | last => simp
  | @more taken skipped next last parts _ _ _ _ _ _ ih =>
    exact (List.Sublist.refl taken).append (ih.trans (List.sublist_append_right skipped next))

/-- **A row is skipped where it comes after the last row of a full page in the same second.** -/
theorem not_mem_iff (h : Dealt size rows parts) (hsorted : rows.Pairwise Decision.Precedes)
    {d : Decision} (hd : d ∈ rows) :
    d ∉ parts.flatten ↔
      ∃ part ∈ parts.dropLast, ∃ last, part.getLast? = some last ∧ last.Precedes d ∧
        last.epoch = d.epoch := by
  induction h with
  | last => simpa using hd
  | @more taken skipped next last parts _ hlast _ hskipped hnext hrest ih =>
    obtain ⟨htaken, hback, hcross⟩ := List.pairwise_append.mp hsorted
    obtain ⟨-, hsortednext, hcrossnext⟩ := List.pairwise_append.mp hback
    have hmem : last ∈ taken := List.mem_of_getLast? hlast
    have hlater : ∀ e ∈ parts.flatten, e ∈ next := fun e he => hrest.sublist.subset he
    rw [List.flatten_cons, List.mem_append, List.dropLast_cons_of_ne_nil hrest.ne_nil, not_or]
    rcases List.mem_append.mp hd with hd | hd
    · -- a row of this page: all full pages end with it or after it
      refine ⟨fun h => absurd hd h.1, ?_⟩
      rintro ⟨part, hpart, last', hlast', hprec, -⟩
      exfalso
      rcases List.mem_cons.mp hpart with rfl | hpart
      · obtain rfl := Option.some.inj (hlast.symm.trans hlast')
        rcases Relation.eq_or_precedes_last htaken hlast hd with rfl | hprec'
        · exact d.not_precedes_self hprec
        · exact d.not_precedes_self (hprec'.trans hprec)
      · have hin := hlater last' (List.mem_flatten.mpr
          ⟨part, (List.dropLast_sublist parts).subset hpart, List.mem_of_getLast? hlast'⟩)
        exact d.not_precedes_self ((hcross d hd last' (List.mem_append_right _ hin)).trans hprec)
    · have hout : d ∉ taken := fun h => d.not_precedes_self (hcross d h d hd)
      rcases List.mem_append.mp hd with hskip | hin
      · -- a row that is skipped after this page
        refine ⟨fun _ => ⟨taken, List.mem_cons_self, last, hlast, hcross last hmem d hd,
          (hskipped d hskip).symm⟩, fun _ => ⟨hout, fun h => ?_⟩⟩
        exact d.not_precedes_self (hcrossnext d hskip d (hlater d h))
      · -- a row of the list that the next page begins
        constructor
        · rintro ⟨-, hnot⟩
          obtain ⟨part, hpart, hrest'⟩ := (ih hsortednext hin).mp hnot
          exact ⟨part, List.mem_cons_of_mem _ hpart, hrest'⟩
        · rintro ⟨part, hpart, last', hlast', hprec, hepoch⟩
          rcases List.mem_cons.mp hpart with rfl | hpart
          · obtain rfl := Option.some.inj (hlast.symm.trans hlast')
            exact absurd (hnext d hin) (hepoch ▸ Int64.lt_irrefl)
          · exact ⟨hout, (ih hsortednext hin).mpr ⟨part, hpart, last', hlast', hprec, hepoch⟩⟩

/-- All rows are dealt out if none is skipped here and none later. -/
theorem flatten_cons_eq_iff {taken skipped next : List Decision} {parts : List (List Decision)}
    (hrest : Dealt size next parts) :
    (taken :: parts).flatten = taken ++ (skipped ++ next) ↔
      skipped = [] ∧ parts.flatten = next := by
  rw [List.flatten_cons, List.append_cancel_left_eq]
  constructor
  · intro h
    -- what is dealt out later is not more than what is left, so nothing can be skipped here
    have hlen := congrArg List.length h
    have hle := hrest.sublist.length_le
    rw [List.length_append] at hlen
    have hskipped : skipped = [] := List.length_eq_zero_iff.mp (by omega)
    exact ⟨hskipped, by rw [h, hskipped, List.nil_append]⟩
  · rintro ⟨rfl, h⟩
    exact h

/-- Whether the seconds of the rows around a boundary between full pages differ. -/
def Separated (size : Nat) (rows : List Decision) : Prop :=
  ∀ k, (k + 1) * size < rows.length →
    rows[(k + 1) * size - 1]?.map Decision.epoch ≠ rows[(k + 1) * size]?.map Decision.epoch

/-- The first boundary, and those behind it. -/
theorem separated_append_iff {taken back : List Decision} {last : Decision}
    (hfull : taken.length = size) (hlast : taken.getLast? = some last) (hsize : 0 < size) :
    Separated size (taken ++ back) ↔
      (∀ d, back.head? = some d → last.epoch ≠ d.epoch) ∧ Separated size back := by
  have hboundary : (taken ++ back)[size - 1]? = some last := by
    rw [List.getElem?_append_left (by omega), ← hfull, ← List.getLast?_eq_getElem?, hlast]
  have hfirst : (taken ++ back)[size]? = back.head? := by
    rw [List.getElem?_append_right (by omega), hfull, Nat.sub_self, List.head?_eq_getElem?]
  have hbehind : ∀ k, (k + 1 + 1) * size = (k + 1) * size + size ∧ size ≤ (k + 1) * size := fun k =>
    ⟨Nat.succ_mul _ _, Nat.le_mul_of_pos_left size (Nat.succ_pos k)⟩
  have hshift : ∀ k, (taken ++ back)[(k + 1 + 1) * size - 1]? = back[(k + 1) * size - 1]? ∧
      (taken ++ back)[(k + 1 + 1) * size]? = back[(k + 1) * size]? := by
    intro k
    obtain ⟨hmul, hle⟩ := hbehind k
    rw [List.getElem?_append_right (by omega), List.getElem?_append_right (by omega), hfull, hmul,
      Nat.add_sub_cancel, Nat.sub_right_comm, Nat.add_sub_cancel]
    exact ⟨rfl, rfl⟩
  constructor
  · intro hsep
    refine ⟨fun d hd he => ?_, fun k hk => ?_⟩
    · have hlen : 0 < back.length := List.length_pos_of_mem (List.mem_of_head? hd)
      refine hsep 0 (by rw [List.length_append]; omega) ?_
      rw [Nat.zero_add, Nat.one_mul, hboundary, hfirst, hd, Option.map_some, Option.map_some, he]
    · have hsepk := hsep (k + 1) (by rw [List.length_append, (hbehind k).1]; omega)
      rwa [(hshift k).1, (hshift k).2] at hsepk
  · rintro ⟨hhead, hsep⟩ k hk
    rw [List.length_append, hfull] at hk
    cases k with
    | zero =>
      -- the first boundary, between the last row taken and the one behind it
      rw [Nat.zero_add, Nat.one_mul] at hk ⊢
      rw [hboundary, hfirst, List.head?_eq_getElem?, List.getElem?_eq_getElem (by omega)]
      intro he
      exact hhead _ (by rw [List.head?_eq_getElem?, List.getElem?_eq_getElem]) (Option.some.inj he)
    | succ k =>
      rw [(hshift k).1, (hshift k).2]
      exact hsep k (by rw [(hbehind k).1] at hk; omega)

/-- **All rows are dealt out if and only if the boundaries of the pages separate seconds.** -/
theorem flatten_eq_iff (h : Dealt size rows parts) (hsize : 0 < size) :
    parts.flatten = rows ↔ Separated size rows := by
  induction h with
  | @last rows hfits =>
    refine iff_of_true (by simp) fun k hk => absurd hk ?_
    have : size ≤ (k + 1) * size := Nat.le_mul_of_pos_left size (Nat.succ_pos k)
    omega
  | @more taken skipped next last parts hfull hlast hmore hskipped hnext hrest ih =>
    rw [flatten_cons_eq_iff hrest, ih, separated_append_iff hfull hlast hsize]
    constructor
    · rintro ⟨rfl, hsep⟩
      rw [List.nil_append]
      refine ⟨fun d hd he => ?_, hsep⟩
      exact Int64.lt_irrefl (he ▸ hnext d (List.mem_of_head? hd))
    · rintro ⟨hhead, hsep⟩
      -- a skipped row would stand right behind the boundary, in the second of the row before it
      cases skipped with
      | nil => exact ⟨rfl, hsep⟩
      | cons d skipped =>
        exact absurd (hskipped d List.mem_cons_self).symm (hhead d rfl)

/-- How many pages there are if all rows are dealt out. -/
theorem length_parts (h : Dealt size rows parts) (hsize : 0 < size) (hall : parts.flatten = rows) :
    parts.length = max 1 ((rows.length + size - 1) / size) := by
  induction h with
  | @last rows hfits =>
    have : (rows.length + size - 1) / size ≤ 1 := by
      rw [Nat.div_le_iff_le_mul_add_pred hsize]
      omega
    rw [Nat.max_eq_left this, List.length_singleton]
  | @more taken skipped next last parts hfull _ hmore _ _ hrest ih =>
    obtain ⟨rfl, hnextall⟩ := (flatten_cons_eq_iff hrest).mp hall
    have hpos : 0 < next.length := List.length_pos_iff.mpr hmore
    have hdiv : 1 ≤ (next.length + size - 1) / size := by
      rw [Nat.le_div_iff_mul_le hsize]
      omega
    rw [List.length_cons, ih hnextall, List.nil_append, List.length_append, hfull,
      show size + next.length + size - 1 = next.length + size - 1 + size by omega,
      Nat.add_div_right _ hsize]
    omega

end Dealt

namespace Relation

variable {r : Relation} {listing : Listing} {recipient : String}

/-! ## Following tokens -/

/-- The pages that one gets by following the tokens from a page on, as long as nothing changes. -/
inductive Walk (r : Relation) (listing : Listing) (recipient : String) :
    PageBounds → List Page → Prop
  | last {bounds : PageBounds} (hnext : (r.page listing recipient bounds).next = none) :
      Walk r listing recipient bounds [r.page listing recipient bounds]
  | more {bounds bounds' : PageBounds} {token : String} {pages : List Page}
      (hnext : (r.page listing recipient bounds).next = some token)
      (htoken : PageBounds.ofToken token = .ok bounds')
      (hrest : Walk r listing recipient bounds' pages) :
      Walk r listing recipient bounds (r.page listing recipient bounds :: pages)

namespace Walk

variable {bounds : PageBounds} {pages : List Page}

theorem ne_nil (h : r.Walk listing recipient bounds pages) : pages ≠ [] := by
  cases h <;> exact List.cons_ne_nil _ _

/-- There is one walk from a page on. -/
theorem unique {pages' : List Page} (h : r.Walk listing recipient bounds pages)
    (h' : r.Walk listing recipient bounds pages') : pages = pages' := by
  induction h generalizing pages' with
  | last hnext =>
    cases h' with
    | last => rfl
    | more hnext' => rw [hnext] at hnext'; cases hnext'
  | more hnext htoken _ ih =>
    cases h' with
    | last hnext' => rw [hnext] at hnext'; cases hnext'
    | more hnext' htoken' hrest' =>
      rw [hnext] at hnext'
      cases hnext'
      rw [htoken] at htoken'
      cases htoken'
      rw [ih hrest']

/-- Up to the last page, each page of a walk is full and leads below the second of its last like. -/
theorem full (h : r.Walk listing recipient bounds pages) {page : Page}
    (hpage : page ∈ pages.dropLast) :
    page.likers.length = bounds.size ∧ ∃ last, page.likers.getLast? = some last ∧
      page.next = some (bounds.cursorAfter last.timestamp).token := by
  induction h with
  | last => cases hpage
  | @more bounds bounds' token pages hnext htoken hrest ih =>
    rcases (r.isListing_listed listing recipient bounds.before).page_cases with
      ⟨-, hcut⟩ | ⟨taken, last, skipped, next, -, hfull, hlast, -, -, -, hcut⟩
    · rw [hcut] at hnext
      cases hnext
    · rw [hcut] at hnext
      cases hnext
      rw [PageBounds.ofToken_cursorAfter] at htoken
      cases htoken
      rw [List.dropLast_cons_of_ne_nil hrest.ne_nil] at hpage
      rcases List.mem_cons.mp hpage with rfl | hpage
      · rw [hcut]
        refine ⟨by rw [List.length_map, hfull], last.toLiker, ?_, rfl⟩
        rw [List.getLast?_map, hlast]
        rfl
      · exact ih hpage

end Walk

/-- **Every walk comes to an end, and deals out its list.** -/
theorem exists_walk {rows : List Decision} {bounds : PageBounds}
    (h : r.IsListing listing recipient bounds.before rows) :
    ∃ pages parts, r.Walk listing recipient bounds pages ∧ Dealt bounds.size rows parts ∧
      pages.map Page.likers = parts.map (List.map Decision.toLiker) := by
  induction hn : rows.length using Nat.strongRecOn generalizing rows bounds with
  | _ n ih =>
    rcases h.page_cases with
      ⟨hfits, hpage⟩ |
      ⟨taken, last, skipped, next, rfl, hfull, hlast, hmore, hskipped, hnext, hpage⟩
    · exact ⟨_, _, .last (by rw [hpage]), .last hfits, by rw [hpage]; rfl⟩
    · -- the next page lists fewer rows, since this one took some
      have hsize := bounds.size_pos
      have hlt : next.length < n := by
        rw [List.length_append, List.length_append] at hn
        omega
      have hbelow : r.IsListing listing recipient (bounds.below last.epoch).before next := hnext
      obtain ⟨pages, parts, hwalk, hdealt, hmap⟩ := ih _ hlt hbelow rfl
      have hepoch : ∀ d ∈ next, d.epoch < last.epoch := fun d hd =>
        ((hnext.mem_iff d).mp hd).2.2.2 _ rfl
      refine ⟨_, _, .more (by rw [hpage]) (bounds.ofToken_cursorAfter last.epoch) hwalk,
        .more hfull hlast hmore hskipped hepoch hdealt, ?_⟩
      rw [List.map_cons, List.map_cons, hmap, hpage]

end Relation

end LikedYou
