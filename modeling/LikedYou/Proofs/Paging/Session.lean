import LikedYou.Proofs.Paging.Account
import LikedYou.Proofs.Time.Clock

/-!
# Paging while decisions are made

* `Session.run` — someone follows the tokens of a list while time goes on and decisions are made
* `Session.verdict?_change` — a change leaves a verdict as it is, or makes it one of the current
  second
* `Session.fetch_cases` — what fetching a page does
-/

namespace LikedYou

/-! ## Sessions -/

/-- The page to which a page leads. -/
def Page.following? (page : Page) : Option PageBounds :=
  page.next.bind fun token => (PageBounds.ofToken token).toOption

/-- A store with its clock, and someone who follows the tokens of a list. -/
structure Session where
  store : Relation
  clock : Time.Clock
  /-- The page that is fetched next. -/
  next : Option PageBounds
  /-- The pages that were fetched. -/
  pages : List Page

namespace Session

/-- Something that happens to a store. -/
inductive Change where
  /-- Time goes on. -/
  | advance (d : Time.Duration)
  /-- A decision is made. -/
  | decide (actor recipient : String) (liked : Bool)
  deriving DecidableEq

/-- Something that happens while one follows the tokens. -/
inductive Event where
  | change (c : Change)
  /-- The next page is fetched, if there is one. -/
  | fetch
  deriving DecidableEq

/-- No decision was made and no page was fetched. -/
def start (clock : Time.Clock) (limit : Int32) : Session :=
  ⟨Relation.empty, clock, some (PageBounds.first limit), []⟩

def change (s : Session) : Change → Session
  | .advance d => { s with clock := s.clock.advance d }
  | .decide actor recipient liked =>
    { s with store := (DecisionStore.record actor recipient liked s.clock s.store).2 }

def fetch (listing : Listing) (recipient : String) (s : Session) : Session :=
  match s.next with
  | none => s
  | some bounds =>
    let page := s.store.page listing recipient bounds
    { s with next := page.following?, pages := s.pages ++ [page] }

def step (listing : Listing) (recipient : String) (s : Session) : Event → Session
  | .change c => s.change c
  | .fetch => s.fetch listing recipient

/-- What becomes of a session. -/
def run (listing : Listing) (recipient : String) (s : Session) (events : List Event) : Session :=
  events.foldl (step listing recipient) s

/-- Whether the last page was fetched: it has no token. -/
def Over (s : Session) : Prop := ∃ page, s.pages.getLast? = some page ∧ page.next = none

/-- Whether `actor` belongs into the list, by the same like, each time a page is fetched. -/
def Kept (s : Session) (listing : Listing) (recipient actor : String) (time : Time.Timestamp)
    (events : List Event) : Prop :=
  ∀ earlier later, events = earlier ++ .fetch :: later →
    (s.run listing recipient earlier).next ≠ none →
      (s.run listing recipient earlier).store.Matches listing recipient actor time

/-! ## Changes -/

/-- Whether the decisions of a store were made up to the second that the clock shows. -/
def Recorded (s : Session) : Prop :=
  ∀ actor recipient v, s.store.verdict? actor recipient = some v →
    v.createdAt.seconds.toInt ≤ s.clock.second

/-- What a change does to the verdicts: a new one is of the second that the clock shows. -/
theorem verdict?_change (s : Session) (c : Change) (actor recipient : String) :
    (s.change c).store.verdict? actor recipient = s.store.verdict? actor recipient ∨
      ∃ v, (s.change c).store.verdict? actor recipient = some v ∧
        v.createdAt.seconds.toInt = s.clock.second := by
  cases c with
  | advance d => exact Or.inl rfl
  | decide a b liked =>
    cases hnow : s.clock.now with
    | error f =>
      refine Or.inl ?_
      simp [change, DecisionStore.record, Relation.recordNow, hnow, Except.map]
    | ok t =>
      have hstore : (s.change (.decide a b liked)).store = s.store.record a b liked t := by
        simp [change, DecisionStore.record, Relation.recordNow, hnow, Except.map]
      rw [hstore, Relation.verdict?_record]
      split
      · exact Or.inr ⟨_, rfl, Time.Clock.seconds_of_now hnow⟩
      · exact Or.inl rfl

theorem second_le_change (s : Session) (c : Change) :
    s.clock.second ≤ (s.change c).clock.second := by
  cases c with
  | advance d => exact s.clock.second_le_advance d
  | decide => exact Int.le_refl _

@[simp] theorem next_change (s : Session) (c : Change) : (s.change c).next = s.next := by
  cases c <;> rfl

@[simp] theorem pages_change (s : Session) (c : Change) : (s.change c).pages = s.pages := by
  cases c <;> rfl

theorem recorded_start (clock : Time.Clock) (limit : Int32) : (start clock limit).Recorded := by
  intro actor recipient v hv
  simp [start, Relation.verdict?, Relation.empty] at hv

theorem Recorded.change {s : Session} (h : s.Recorded) (c : Change) : (s.change c).Recorded := by
  intro actor recipient v hv
  have hsecond := s.second_le_change c
  rcases s.verdict?_change c actor recipient with hold | ⟨v', hv', hnew⟩
  · have := h actor recipient v (hold ▸ hv)
    omega
  · rw [hv] at hv'
    cases hv'
    omega

/-! ## Fetching a page -/

@[simp] theorem store_fetch (s : Session) (listing : Listing) (recipient : String) :
    (s.fetch listing recipient).store = s.store := by
  unfold fetch
  split <;> rfl

@[simp] theorem clock_fetch (s : Session) (listing : Listing) (recipient : String) :
    (s.fetch listing recipient).clock = s.clock := by
  unfold fetch
  split <;> rfl

theorem fetch_of_none {s : Session} (h : s.next = none) (listing : Listing) (recipient : String) :
    s.fetch listing recipient = s := by
  rw [fetch, h]

theorem fetch_of_some {s : Session} {bounds : PageBounds} (h : s.next = some bounds)
    (listing : Listing) (recipient : String) :
    s.fetch listing recipient =
      { s with
        next := (s.store.page listing recipient bounds).following?
        pages := s.pages ++ [s.store.page listing recipient bounds] } := by
  rw [fetch, h]

/-- **What fetching a page does**: the list ends with it, or it is full and the next page begins at
the first row of an earlier second. -/
theorem fetch_cases {s : Session} {bounds : PageBounds} {listing : Listing} {recipient : String}
    {rows : List Decision} (hnext : s.next = some bounds)
    (h : s.store.IsListing listing recipient bounds.before rows) :
    ((s.fetch listing recipient).next = none ∧
      (s.fetch listing recipient).pages = s.pages ++ [⟨rows.map Decision.toLiker, none⟩]) ∨
    ∃ taken last skipped next, rows = taken ++ (skipped ++ next) ∧ taken.length = bounds.size ∧
      taken.getLast? = some last ∧ (∀ d ∈ skipped, d.epoch = last.epoch) ∧
      (∀ d ∈ next, d.epoch < last.epoch) ∧
      (s.fetch listing recipient).next = some (bounds.below last.epoch) ∧
      (s.fetch listing recipient).pages = s.pages ++
        [⟨taken.map Decision.toLiker, some (bounds.cursorAfter last.epoch).token⟩] := by
  rw [fetch_of_some hnext]
  rcases h.page_cases with
    ⟨-, hpage⟩ | ⟨taken, last, skipped, next, hrows, hfull, hlast, -, hskipped, hnext, hpage⟩
  · rw [hpage]
    exact Or.inl ⟨rfl, rfl⟩
  · have hepoch : ∀ d ∈ next, d.epoch < last.epoch := fun d hd =>
      ((hnext.mem_iff d).mp hd).2.2.2 _ rfl
    have hfollowing : Page.following? ⟨taken.map Decision.toLiker,
        some (bounds.cursorAfter last.epoch).token⟩ = some (bounds.below last.epoch) := by
      rw [Page.following?, Option.bind_some, PageBounds.ofToken_cursorAfter]
      rfl
    rw [hpage, hfollowing]
    exact Or.inr ⟨taken, last, skipped, next, hrows, hfull, hlast, hskipped, hepoch, rfl, rfl⟩

end Session

end LikedYou
