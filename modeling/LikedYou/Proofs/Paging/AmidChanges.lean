import LikedYou.Proofs.Paging.Session

/-!
# Following the tokens of a list that changes

* `Delivery` — what was delivered so far: old likes of different actors, newest first
* `Session.Underway` — what holds from the first page on, whatever happens
* `Session.exact_amid_changes` — following the tokens comes to an end, nobody is delivered twice,
  the delivered seconds never increase, and nobody who belongs into the list all the time is
  missing, unless his like is of the second of the last liker of a page that has a token

A decision that is made after the first page was fetched is at least as new as everything delivered,
so the pages below the second of a delivered like hold old likes only.
-/

namespace LikedYou

/-! ## What was delivered -/

/-- Whether some likers are likes of an old store, by different actors and newest first. -/
structure Delivery (old : Relation) (listing : Listing) (recipient : String) (likers : List Liker) :
    Prop where
  old : ∀ l ∈ likers, ∃ time, old.Matches listing recipient l.actor time ∧
    time.seconds = l.timestamp
  descending : likers.Pairwise fun a b => b.timestamp ≤ a.timestamp
  nodup : (likers.map Liker.actor).Nodup

namespace Delivery

variable {old : Relation} {listing : Listing} {recipient : String} {likers : List Liker}

theorem nil : Delivery old listing recipient [] := ⟨nofun, .nil, .nil⟩

/-- Old likes of earlier seconds can be delivered next. -/
theorem append {rows : List Decision} (h : Delivery old listing recipient likers)
    (hsorted : rows.Pairwise Decision.Precedes) (hactors : (rows.map Decision.actor).Nodup)
    (hold : ∀ d ∈ rows, old.Matches listing recipient d.actor d.createdAt)
    (hearlier : ∀ d ∈ rows, ∀ l ∈ likers, d.epoch < l.timestamp) :
    Delivery old listing recipient (likers ++ rows.map Decision.toLiker) := by
  refine ⟨fun l hl => ?_, ?_, ?_⟩
  · rcases List.mem_append.mp hl with hl | hl
    · exact h.old l hl
    · obtain ⟨d, hd, rfl⟩ := List.mem_map.mp hl
      exact ⟨d.createdAt, hold d hd, rfl⟩
  · refine List.pairwise_append.mpr ⟨h.descending, ?_, fun l hl l' hl' => ?_⟩
    · exact List.pairwise_map.mpr (hsorted.imp Decision.Precedes.epoch_le)
    · obtain ⟨d, hd, rfl⟩ := List.mem_map.mp hl'
      exact Int64.le_of_lt (hearlier d hd l hl)
  · rw [List.map_append, List.map_map]
    refine List.nodup_append.mpr ⟨h.nodup, hactors, ?_⟩
    rintro actor hactor actor' hactor' rfl
    obtain ⟨l, hl, rfl⟩ := List.mem_map.mp hactor
    obtain ⟨d, hd, hsame⟩ := List.mem_map.mp hactor'
    -- the old store has one verdict for both
    obtain ⟨time, ⟨hverdict, -⟩, htime⟩ := h.old l hl
    have hverdict' := (hold d hd).1
    rw [show d.actor = l.actor from hsame, hverdict] at hverdict'
    cases hverdict'
    exact Int64.lt_irrefl (htime ▸ hearlier d hd l hl)

/-- No more is delivered than the old list has. -/
theorem length_le {rows : List Decision} (h : Delivery old listing recipient likers)
    (hrows : old.IsListing listing recipient none rows) : likers.length ≤ rows.length := by
  have hsub : likers.map Liker.actor ⊆ rows.map Decision.actor := by
    intro actor hactor
    obtain ⟨l, hl, rfl⟩ := List.mem_map.mp hactor
    obtain ⟨time, hmatches, -⟩ := h.old l hl
    exact hrows.matches_iff.mp ⟨time, hmatches⟩
  have hle := (h.nodup.subperm hsub).length_le
  rwa [List.length_map, List.length_map] at hle

end Delivery

theorem delivered_append (pages : List Page) (page : Page) :
    delivered (pages ++ [page]) = delivered pages ++ page.likers := by
  simp [delivered]

namespace Session

/-! ## The invariant -/

/-- What holds from the first page on. `old` is the store from which that page was fetched, and
`second` the second in which it was. -/
structure Underway (old : Relation) (second : Int) (listing : Listing) (recipient : String)
    (size : Nat) (s : Session) : Prop where
  clock : second ≤ s.clock.second
  /-- Verdicts are old, or of the second of the first page or a later one. -/
  store : ∀ actor recipient, s.store.verdict? actor recipient = old.verdict? actor recipient ∨
    ∃ v, s.store.verdict? actor recipient = some v ∧ second ≤ v.createdAt.seconds.toInt
  delivery : Delivery old listing recipient (delivered s.pages)
  /-- The next page lies below everything that was delivered, and all pages so far are full. -/
  next : ∀ bounds, s.next = some bounds → bounds.size = size ∧
    (delivered s.pages).length = s.pages.length * size ∧
    ∃ bound, bounds.before = some bound ∧ bound.toInt ≤ second ∧
      ∀ l ∈ delivered s.pages, bound ≤ l.timestamp
  ended : s.next = none ↔ s.Over

namespace Underway

variable {old : Relation} {second : Int} {listing : Listing} {recipient : String} {size : Nat}
  {s : Session}

theorem change (h : s.Underway old second listing recipient size) (c : Change) :
    (s.change c).Underway old second listing recipient size := by
  refine ⟨Int.le_trans h.clock (s.second_le_change c), fun a b => ?_, ?_, ?_, ?_⟩
  · rcases s.verdict?_change c a b with hsame | ⟨v, hv, hsecond⟩
    · rw [hsame]
      exact h.store a b
    · exact Or.inr ⟨v, hv, hsecond ▸ h.clock⟩
  · rw [pages_change]
    exact h.delivery
  · rw [next_change, pages_change]
    exact h.next
  · rw [next_change, Over, pages_change]
    exact h.ended

/-- A row below the next page is an old one. -/
theorem matches_of_below (h : s.Underway old second listing recipient size) {actor : String}
    {time : Time.Timestamp} (hmatches : s.store.Matches listing recipient actor time)
    (htime : time.seconds.toInt < second) : old.Matches listing recipient actor time := by
  obtain ⟨hverdict, hlisting⟩ := hmatches
  constructor
  · rcases h.store actor recipient with hsame | ⟨v, hv, hsecond⟩
    · rwa [← hsame]
    · rw [hverdict] at hv
      cases hv
      exact absurd htime (Int.not_lt.mpr hsecond)
  · rcases hlisting with hlisting | hnone
    · exact Or.inl hlisting
    · -- verdicts are never taken back, so there was none before either
      refine Or.inr ?_
      rcases h.store recipient actor with hsame | ⟨v, hv, -⟩
      · rwa [← hsame]
      · rw [hnone] at hv
        cases hv

/-- A page is fetched whose rows are old and lie below everything that was delivered. -/
theorem of_fetch {bounds : PageBounds} {rows : List Decision} (hclock : second ≤ s.clock.second)
    (hstore : ∀ a b, s.store.verdict? a b = old.verdict? a b ∨
      ∃ v, s.store.verdict? a b = some v ∧ second ≤ v.createdAt.seconds.toInt)
    (hdelivery : Delivery old listing recipient (delivered s.pages))
    (hlength : (delivered s.pages).length = s.pages.length * size)
    (hnext : s.next = some bounds) (hsize : bounds.size = size)
    (hrows : s.store.IsListing listing recipient bounds.before rows)
    (hold : ∀ d ∈ rows, old.Matches listing recipient d.actor d.createdAt)
    (hsecond : ∀ d ∈ rows, d.epoch.toInt ≤ second)
    (hearlier : ∀ d ∈ rows, ∀ l ∈ delivered s.pages, d.epoch < l.timestamp) :
    (s.fetch listing recipient).Underway old second listing recipient size := by
  have hmore : ∀ part : List Decision, part.Sublist rows → Delivery old listing recipient
      (delivered s.pages ++ part.map Decision.toLiker) := fun part hpart =>
    hdelivery.append (hrows.sorted.sublist hpart)
      (hrows.nodup_actors.sublist (hpart.map Decision.actor))
      (fun d hd => hold d (hpart.subset hd)) (fun d hd => hearlier d (hpart.subset hd))
  rcases fetch_cases hnext hrows with
    ⟨hnext', hpages⟩ | ⟨taken, last, skipped, next, rfl, hfull, hlast, -, -, hnext', hpages⟩
  · refine ⟨by rwa [clock_fetch], by rwa [store_fetch], ?_, ?_, ?_⟩
    · rw [hpages, delivered_append]
      exact hmore rows (List.Sublist.refl rows)
    · rw [hnext']
      exact nofun
    · refine iff_of_true hnext' ⟨⟨rows.map Decision.toLiker, none⟩, ?_, rfl⟩
      rw [hpages, List.getLast?_concat]
  · have htaken : taken.Sublist (taken ++ (skipped ++ next)) := List.sublist_append_left _ _
    have hmem : last ∈ taken := List.mem_of_getLast? hlast
    refine ⟨by rwa [clock_fetch], by rwa [store_fetch], ?_, fun bounds' hbounds' => ?_, ?_⟩
    · rw [hpages, delivered_append]
      exact hmore taken htaken
    · rw [hnext'] at hbounds'
      cases hbounds'
      refine ⟨hsize, ?_, last.epoch, rfl, hsecond last (htaken.subset hmem), fun l hl => ?_⟩
      · rw [hpages, delivered_append, List.length_append, List.length_append, List.length_map,
          hlength, hfull, hsize, List.length_singleton, Nat.succ_mul]
      · rw [hpages, delivered_append] at hl
        rcases List.mem_append.mp hl with hl | hl
        · exact Int64.le_of_lt (hearlier last (htaken.subset hmem) l hl)
        · obtain ⟨d, hd, rfl⟩ := List.mem_map.mp hl
          rcases Relation.eq_or_precedes_last (hrows.sorted.sublist htaken) hlast hd
            with rfl | hprec
          · exact Int64.le_refl _
          · exact hprec.epoch_le
    · rw [hnext']
      refine iff_of_false nofun ?_
      rintro ⟨page, hpage, hnone⟩
      rw [hpages, List.getLast?_concat] at hpage
      cases hpage
      cases hnone

theorem fetch (h : s.Underway old second listing recipient size) :
    (s.fetch listing recipient).Underway old second listing recipient size := by
  cases hnext : s.next with
  | none =>
    rw [fetch_of_none hnext]
    exact h
  | some bounds =>
    obtain ⟨hsize, hlength, bound, hbound, hbefore, hbelow⟩ := h.next bounds hnext
    have hrows := s.store.isListing_listed listing recipient bounds.before
    -- the rows lie below the bound, so no change since the first page has made any of them
    have hlt : ∀ d ∈ s.store.listed listing recipient bounds.before, d.epoch < bound := fun d hd =>
      ((hrows.mem_iff d).mp hd).2.2.2 bound hbound
    have hltInt : ∀ d ∈ s.store.listed listing recipient bounds.before, d.epoch.toInt < second :=
      fun d hd => Int.lt_of_lt_of_le (Int64.lt_iff_toInt_lt.mp (hlt d hd)) hbefore
    refine of_fetch h.clock h.store h.delivery hlength hnext hsize hrows (fun d hd => ?_)
      (fun d hd => Int.le_of_lt (hltInt d hd)) (fun d hd l hl => ?_)
    · exact h.matches_of_below ((hrows.mem_iff d).mp hd).2.2.1 (hltInt d hd)
    · exact Int64.lt_of_lt_of_le (hlt d hd) (hbelow l hl)

/-- **What one event preserves.** -/
theorem step (h : s.Underway old second listing recipient size) (e : Event) :
    (s.step listing recipient e).Underway old second listing recipient size := by
  cases e with
  | change c => exact h.change c
  | fetch => exact h.fetch

/-- **What any run preserves.** -/
theorem run (h : s.Underway old second listing recipient size) (events : List Event) :
    (s.run listing recipient events).Underway old second listing recipient size := by
  induction events generalizing s with
  | nil => exact h
  | cons e events ih => exact ih (h.step e)

end Underway

/-- The first page is fetched. -/
theorem Recorded.underway {s : Session} {bounds : PageBounds} (h : s.Recorded)
    (hpages : s.pages = []) (hnext : s.next = some bounds) (listing : Listing)
    (recipient : String) :
    (s.fetch listing recipient).Underway s.store s.clock.second listing recipient bounds.size := by
  have hrows := s.store.isListing_listed listing recipient bounds.before
  have hmatches : ∀ d ∈ s.store.listed listing recipient bounds.before,
      s.store.Matches listing recipient d.actor d.createdAt := fun d hd =>
    ((hrows.mem_iff d).mp hd).2.2.1
  have hnone : delivered s.pages = [] := by
    rw [hpages]
    rfl
  refine .of_fetch (Int.le_refl _) (fun _ _ => Or.inl rfl) ?_ ?_ hnext rfl hrows hmatches ?_ ?_
  · rw [hnone]
    exact .nil
  · rw [hnone, hpages]
    simp
  · intro d hd
    exact h d.actor recipient _ (hmatches d hd).1
  · rw [hnone]
    exact nofun

/-! ## Those who stay in the list -/

/-- Whether an actor was delivered, or a page that is followed by another one ended in the second of
his like. -/
def Served (s : Session) (actor : String) (time : Time.Timestamp) : Prop :=
  actor ∈ (delivered s.pages).map Liker.actor ∨
    ∃ page ∈ s.pages, page.next.isSome ∧ ∃ last, page.likers.getLast? = some last ∧
      last.timestamp = time.seconds

/-- Whether an actor was served, or can be on a page to come. -/
def Awaited (s : Session) (actor : String) (time : Time.Timestamp) : Prop :=
  s.Served actor time ∨ ∃ bounds, s.next = some bounds ∧
    ∀ bound, bounds.before = some bound → time.seconds < bound

variable {s : Session} {listing : Listing} {recipient actor : String} {time : Time.Timestamp}

theorem Served.append {s' : Session} {page : Page} (h : s.Served actor time)
    (hpages : s'.pages = s.pages ++ [page]) : s'.Served actor time := by
  rw [Served, hpages, delivered_append, List.map_append]
  rcases h with hactor | ⟨page', hpage', hlast⟩
  · exact Or.inl (List.mem_append_left _ hactor)
  · exact Or.inr ⟨page', List.mem_append_left _ hpage', hlast⟩

theorem served_of_mem {s' : Session} {page : Page} {d : Decision} {rows : List Decision}
    (hpages : s'.pages = s.pages ++ [page]) (hlikers : page.likers = rows.map Decision.toLiker)
    (hd : d ∈ rows) : s'.Served d.actor time := by
  refine Or.inl ?_
  rw [hpages, delivered_append, hlikers, List.map_append, List.map_map]
  exact List.mem_append_right _ (List.mem_map_of_mem hd)

/-- A page has an actor who belongs into the list now, or passes him over in the second of its last
liker, or leaves him for the next page. -/
theorem Awaited.fetch (h : s.Awaited actor time)
    (hmatches : s.next ≠ none → s.store.Matches listing recipient actor time) :
    (s.fetch listing recipient).Awaited actor time := by
  cases hnext : s.next with
  | none =>
    rw [fetch_of_none hnext]
    exact h
  | some bounds =>
    have hrows := s.store.isListing_listed listing recipient bounds.before
    have hcases := fetch_cases hnext hrows
    rcases h with hserved | ⟨bounds', hbounds', hbelow⟩
    · refine Or.inl ?_
      rcases hcases with ⟨-, hpages⟩ | ⟨_, _, _, _, -, -, -, -, -, -, hpages⟩
      · exact hserved.append hpages
      · exact hserved.append hpages
    · rw [hnext] at hbounds'
      cases hbounds'
      -- he is in the list that this page begins: taken, skipped, or left for the next page
      have hmem : ⟨actor, recipient, true, time⟩ ∈ s.store.listed listing recipient bounds.before :=
        (hrows.mem_iff _).mpr ⟨rfl, rfl, hmatches (by rw [hnext]; exact nofun), hbelow⟩
      rcases hcases with
        ⟨-, hpages⟩ | ⟨taken, last, skipped, next, hcut, -, hlast, hskipped, hlater, hnext', hpages⟩
      · exact Or.inl (served_of_mem hpages rfl hmem)
      · rw [hcut] at hmem
        rcases List.mem_append.mp hmem with htaken | hrest
        · exact Or.inl (served_of_mem hpages rfl htaken)
        · rcases List.mem_append.mp hrest with hskip | hin
          · have hpage : ⟨taken.map Decision.toLiker, some (bounds.cursorAfter last.epoch).token⟩ ∈
                (s.fetch listing recipient).pages := by
              rw [hpages]
              exact List.mem_append_right _ List.mem_cons_self
            refine Or.inl (Or.inr ⟨_, hpage, rfl, last.toLiker, ?_, (hskipped _ hskip).symm⟩)
            rw [List.getLast?_map, hlast]
            rfl
          · have hlt := hlater ⟨actor, recipient, true, time⟩ hin
            refine Or.inr ⟨_, hnext', fun bound hbound => ?_⟩
            exact Option.some.inj hbound ▸ hlt

theorem Awaited.change (h : s.Awaited actor time) (c : Change) :
    (s.change c).Awaited actor time := by
  rw [Awaited, Served, pages_change, next_change]
  exact h

theorem Kept.of_cons {e : Event} {events : List Event}
    (h : s.Kept listing recipient actor time (e :: events)) :
    (s.step listing recipient e).Kept listing recipient actor time events := by
  intro earlier later hevents
  exact h (e :: earlier) later (by rw [hevents, List.cons_append])

theorem Awaited.run {events : List Event} (h : s.Awaited actor time)
    (hkept : s.Kept listing recipient actor time events) :
    (s.run listing recipient events).Awaited actor time := by
  induction events generalizing s with
  | nil => exact h
  | cons e events ih =>
    refine ih ?_ hkept.of_cons
    cases e with
    | change c => exact h.change c
    | fetch => exact h.fetch (hkept [] events rfl)

/-! ## How many pages there are -/

theorem next_run_of_none (h : s.next = none) (events : List Event) :
    (s.run listing recipient events).next = none := by
  induction events generalizing s with
  | nil => exact h
  | cons e events ih =>
    refine ih ?_
    cases e with
    | change c => rw [step, next_change, h]
    | fetch => rw [step, fetch_of_none h, h]

/-- As long as there is a next page, each fetch gets one. -/
theorem length_pages_run {events : List Event} (h : (s.run listing recipient events).next ≠ none) :
    (s.run listing recipient events).pages.length = s.pages.length + events.count .fetch := by
  induction events generalizing s with
  | nil => rfl
  | cons e events ih =>
    have hrun := ih (s := s.step listing recipient e) h
    show ((s.step listing recipient e).run listing recipient events).pages.length = _
    rw [hrun]
    cases e with
    | change c => rw [step, pages_change, List.count_cons_of_ne (by exact nofun)]
    | fetch =>
      cases hnext : s.next with
      | none => exact absurd (next_run_of_none hnext (.fetch :: events)) h
      | some bounds =>
        rw [step, fetch_of_some hnext, List.count_cons_self, List.length_append,
          List.length_singleton]
        omega

/-! ## Any run -/

theorem recorded_changes {s : Session} (h : s.Recorded) (changes : List Change) :
    (changes.foldl Session.change s).Recorded := by
  induction changes generalizing s with
  | nil => exact h
  | cons c changes ih => exact ih (h.change c)

theorem next_changes (s : Session) (changes : List Change) :
    (changes.foldl Session.change s).next = s.next := by
  induction changes generalizing s with
  | nil => rfl
  | cons c changes ih => rw [List.foldl_cons, ih, next_change]

theorem pages_changes (s : Session) (changes : List Change) :
    (changes.foldl Session.change s).pages = s.pages := by
  induction changes generalizing s with
  | nil => rfl
  | cons c changes ih => rw [List.foldl_cons, ih, pages_change]

/-- **Following the tokens of a list that changes.** Some changes happen to a new store, then the
first page of a list is fetched, and then pages are fetched while other changes happen.
* With more fetches than the list at first has full pages, the last page is fetched.
* Nobody is delivered twice.
* The delivered seconds never increase.
* Once the last page is fetched, everyone who belonged into the list by the same like at each fetch
  is delivered once, or his like is of the second of the last liker of a page that has a token. -/
theorem exact_amid_changes (listing : Listing) (recipient : String) (limit : Int32)
    (clock : Time.Clock) (changes : List Change) (events : List Event) :
    let opened := changes.foldl Session.change (start clock limit)
    let closed := opened.run listing recipient (.fetch :: events)
    ((opened.store.listed listing recipient none).length / (PageBounds.first limit).size ≤
        events.count .fetch → closed.Over) ∧
      ((delivered closed.pages).map Liker.actor).Nodup ∧
      (delivered closed.pages).Pairwise (fun a b => b.timestamp ≤ a.timestamp) ∧
      (closed.Over → ∀ actor time, opened.Kept listing recipient actor time (.fetch :: events) →
        ((delivered closed.pages).map Liker.actor).count actor = 1 ∨
          ∃ page ∈ closed.pages, page.next.isSome ∧ ∃ last, page.likers.getLast? = some last ∧
            last.timestamp = time.seconds) := by
  intro opened closed
  have hnext : opened.next = some (PageBounds.first limit) := next_changes _ changes
  have hpages : opened.pages = [] := pages_changes _ changes
  have hopened : opened.Recorded := recorded_changes (recorded_start clock limit) changes
  have hclosed := (hopened.underway hpages hnext listing recipient).run events
  change closed.Underway _ _ _ _ _ at hclosed
  refine ⟨fun hfetches => ?_, hclosed.delivery.nodup, hclosed.delivery.descending,
    fun hover actor time hkept => ?_⟩
  · rw [← hclosed.ended]
    by_contra hsome
    obtain ⟨bounds, hbounds⟩ := Option.ne_none_iff_exists'.mp hsome
    -- all pages so far are full of old likes, and there are more of them than fit into the list
    obtain ⟨-, hlength, -⟩ := hclosed.next bounds hbounds
    have hcount : closed.pages.length = _ := length_pages_run hsome
    rw [hpages, List.count_cons_self, List.length_nil, Nat.zero_add] at hcount
    have hle := hclosed.delivery.length_le (opened.store.isListing_listed listing recipient none)
    rw [hlength, hcount, ← Nat.le_div_iff_mul_le (PageBounds.first limit).size_pos] at hle
    omega
  · have hawaited : opened.Awaited actor time := by
      refine Or.inr ⟨_, hnext, ?_⟩
      rw [PageBounds.before_first]
      exact nofun
    rcases hawaited.run hkept with (hactor | hskipped) | ⟨bounds, hbounds, -⟩
    · exact Or.inl (List.count_eq_one_of_mem hclosed.delivery.nodup hactor)
    · exact Or.inr hskipped
    · have hnone : closed.next = none := hclosed.ended.mpr hover
      rw [hnone] at hbounds
      cases hbounds

end Session

end LikedYou
