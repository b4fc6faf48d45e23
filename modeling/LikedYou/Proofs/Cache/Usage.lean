import LikedYou.Proofs.Cache.Turnover

/-!
# What the statistics of a cache tell

* `Usage.run` — a cache and its clock, with a tally of what was asked and what was answered
* `Usage.Balanced.step`, `Usage.Balanced.run` — what one event and what any run preserves
* `Usage.statistics_balance` — the statistics account for every read and for every entry

An entry comes with a write whose key is not stored. It goes in one of two ways: keys are removed, which
tells how many of them were stored, or it goes by itself, which is counted.
-/

namespace LikedYou

open Twins (Written noted)

/-! ## A run -/

/-- A cache and its clock, and what can be known of it without looking at its statistics. -/
structure Usage where
  clock : Time.Clock
  cache : Backend
  /-- The last write under each key, unless the key was removed since. -/
  ledger : String → Option Written
  /-- How many reads were answered. -/
  gets : Nat
  /-- How many reads gave a text. -/
  found : Nat
  /-- How many entries the removals told. -/
  deleted : Nat
  /-- How many writes put an entry where there was none. -/
  fresh : Nat

namespace Usage

open Backend (answers)

/-- Something that happens to the cache. -/
inductive Event where
  /-- Time goes on. -/
  | advance (d : Time.Duration)
  | get (key : String)
  | set (key value : String) (ttl : Time.Duration)
  | delete (keys : List String)
  | purge

/-- An empty cache of the kind that is chosen. -/
def start (choice : CacheChoice) (room : Durable.Room) (clock : Time.Clock) : Usage :=
  ⟨clock, .empty choice room, fun _ => none, 0, 0, 0, 0⟩

/-- What an event does. -/
def step (s : Usage) : Event → Usage
  | .advance d => { s with clock := s.clock.advance d }
  | .get key =>
    let (answer, cache) := Cache.get key s.clock s.cache
    { s with cache, gets := s.gets + answers answer, found := s.found + texts answer }
  | .set key value ttl =>
    match Cache.set key value ttl s.clock s.cache with
    | (.ok (), cache) =>
      let stored := (s.cache.atWrite key value ttl s.clock).has key
      { s with
        cache
        ledger := noted s.clock s.ledger (.set key value ttl)
        fresh := if stored then s.fresh else s.fresh + 1 }
    | (.error _, cache) => { s with cache }
  | .delete keys =>
    match Cache.delete keys s.cache with
    | (.ok deleted, cache) =>
      { s with
        cache
        ledger := noted s.clock s.ledger (.delete keys)
        deleted := s.deleted + deleted }
    | (.error _, cache) => { s with cache }
  | .purge => { s with cache := s.cache.purged s.clock }

/-- What events do. -/
def run (s : Usage) (events : List Event) : Usage := events.foldl step s

/-- The cache when all is gone that goes by itself in an event. -/
def shed (s : Usage) : Event → Backend
  | .get key => (Cache.get key s.clock s.cache).2
  | .set key value ttl => s.cache.atWrite key value ttl s.clock
  | .purge => s.cache.purged s.clock
  | .advance _ | .delete _ => s.cache

/-- Whether an event changes what is under a key: a write or a removal that does not fail. -/
def Changes (s : Usage) (key : String) : Event → Prop
  | .set k value ttl => k = key ∧ (Cache.set k value ttl s.clock s.cache).1 = .ok ()
  | .delete keys => key ∈ keys ∧ ∃ deleted, (Cache.delete keys s.cache).1 = .ok deleted
  | _ => False

/-- Whether a write under a key is stored. -/
def Keeps (s : Usage) (key : String) (w : Written) : Prop :=
  s.cache.has key = true ∧ s.ledger key = some w

variable {s : Usage}

/-- Whether the statistics of a cache account for what it was asked. -/
structure Balanced (s : Usage) : Prop where
  reads : s.cache.hits + s.cache.misses = s.gets
  found : s.cache.hits = s.found
  entries : s.cache.size + s.cache.evictions + s.deleted = s.fresh
  holds : s.cache.Holds s.ledger
  sound : s.cache.Sound

namespace Balanced

theorem start (choice : CacheChoice) (room : Durable.Room) (clock : Time.Clock) :
    (Usage.start choice room clock).Balanced := by
  have hholds := Backend.within_empty (fun key w => (fun _ => none) key = some w) choice room
  cases choice with
  | memory => exact ⟨rfl, rfl, rfl, hholds, trivial⟩
  | durable => exact ⟨rfl, rfl, rfl, hholds, Durable.Indexed.new room⟩

theorem get (h : s.Balanced) (key : String) : (s.step (.get key)).Balanced := by
  obtain ⟨hhits, hreads⟩ := s.cache.reads_get key s.clock
  have hsheds := Backend.sheds_get h.holds key s.clock
  refine ⟨?_, ?_, ?_, hsheds.holds, h.sound.get key s.clock⟩
  · exact hreads.trans (congrArg (· + _) h.reads)
  · exact hhits.trans (congrArg (· + _) h.found)
  · have hentries := h.entries
    have hcounted := hsheds.counted
    simp only [step]
    omega

theorem set (h : s.Balanced) (key value : String) (ttl : Time.Duration) :
    (s.step (.set key value ttl)).Balanced := by
  have hsheds := Backend.sheds_atWrite h.holds h.sound key value ttl s.clock
  have hsound := h.sound.set key value ttl s.clock
  obtain ⟨hhits, hmisses⟩ := Backend.reads_atWrite h.sound key value ttl s.clock
  have hentries := h.entries
  have hcounted := hsheds.counted
  rcases s.cache.set_cases key value ttl s.clock with ⟨c', hset, hputs⟩ | ⟨f, hset⟩
  · rw [hset] at hsound
    rw [step, hset]
    refine ⟨?_, hputs.hits.trans (hhits.trans h.found), ?_, hputs.holds _ hsheds.holds, hsound⟩
    · rw [hputs.hits, hputs.misses, hhits, hmisses]
      exact h.reads
    · simp only [hputs.size, hputs.evictions]
      split
      · omega
      · omega
  · rw [hset] at hsound
    rw [step, hset]
    refine ⟨?_, hhits.trans h.found, ?_, hsheds.holds, hsound⟩
    · rw [hhits, hmisses]
      exact h.reads
    · simp only
      omega

theorem delete (h : s.Balanced) (keys : List String) : (s.step (.delete keys)).Balanced := by
  have hsound := h.sound.delete keys
  rcases s.cache.delete_cases keys with ⟨deleted, c', hdelete, hdrops⟩ | ⟨f, hdelete⟩
  · rw [hdelete] at hsound
    rw [step, hdelete]
    refine ⟨?_, hdrops.hits.trans h.found, ?_, hdrops.holds s.clock _ h.holds, hsound⟩
    · rw [hdrops.hits, hdrops.misses]
      exact h.reads
    · have hentries := h.entries
      have hsize := hdrops.size
      simp only [hdrops.evictions]
      omega
  · rw [step, hdelete]
    exact h

theorem purge (h : s.Balanced) : (s.step .purge).Balanced := by
  have hsheds := Backend.sheds_purged h.holds h.sound s.clock
  obtain ⟨hhits, hmisses⟩ := s.cache.reads_purged s.clock
  refine ⟨?_, hhits.trans h.found, ?_, hsheds.holds, h.sound.purged s.clock⟩
  · rw [step, hhits, hmisses]
    exact h.reads
  · have hentries := h.entries
    have hcounted := hsheds.counted
    simp only [step]
    omega

/-- **What one event preserves.** -/
theorem step (h : s.Balanced) (e : Event) : (s.step e).Balanced := by
  cases e with
  | advance d => exact ⟨h.reads, h.found, h.entries, h.holds, h.sound⟩
  | get key => exact h.get key
  | set key value ttl => exact h.set key value ttl
  | delete keys => exact h.delete keys
  | purge => exact h.purge

/-- **What any run preserves.** -/
theorem run (h : s.Balanced) (events : List Event) : (s.run events).Balanced := by
  induction events generalizing s with
  | nil => exact h
  | cons e events ih => exact ih (h.step e)

/-! ## What goes in an event -/

theorem sheds (h : s.Balanced) (e : Event) : s.cache.Sheds s.clock s.ledger (s.shed e) := by
  cases e with
  | advance d => exact .refl h.holds
  | get key => exact Backend.sheds_get h.holds key s.clock
  | set key value ttl => exact Backend.sheds_atWrite h.holds h.sound key value ttl s.clock
  | delete keys => exact .refl h.holds
  | purge => exact Backend.sheds_purged h.holds h.sound s.clock

end Balanced

/-- What does not go by itself is no eviction. -/
theorem evictions_step (s : Usage) (e : Event) :
    (s.step e).cache.evictions = (s.shed e).evictions := by
  cases e with
  | advance d => rfl
  | get key => rfl
  | set key value ttl =>
    rcases s.cache.set_cases key value ttl s.clock with ⟨c', hset, hputs⟩ | ⟨f, hset⟩
    · rw [step, hset]
      exact hputs.evictions
    · rw [step, hset]
      rfl
  | delete keys =>
    rcases s.cache.delete_cases keys with ⟨deleted, c', hdelete, hdrops⟩ | ⟨f, hdelete⟩
    · rw [step, hdelete]
      exact hdrops.evictions
    · rw [step, hdelete]
      rfl
  | purge => rfl

/-- What did not go by itself stays, unless the event changes it. -/
theorem keeps_step {e : Event} {key : String} {w : Written} (hthere : (s.shed e).has key = true)
    (hw : s.ledger key = some w) (hnot : ¬ s.Changes key e) : (s.step e).Keeps key w := by
  cases e with
  | advance d => exact ⟨hthere, hw⟩
  | get k => exact ⟨hthere, hw⟩
  | set k value ttl =>
    rcases s.cache.set_cases k value ttl s.clock with ⟨c', hset, hputs⟩ | ⟨f, hset⟩
    · have hne : key ≠ k := by
        rintro rfl
        exact hnot ⟨rfl, by rw [hset]⟩
      rw [step, hset]
      exact ⟨(hputs.has key).mpr (Or.inr hthere), (if_neg hne).trans hw⟩
    · rw [step, hset]
      exact ⟨hthere, hw⟩
  | delete keys =>
    rcases s.cache.delete_cases keys with ⟨deleted, c', hdelete, hdrops⟩ | ⟨f, hdelete⟩
    · have hmem : key ∉ keys := fun hmem => hnot ⟨hmem, deleted, by rw [hdelete]⟩
      rw [step, hdelete]
      exact ⟨(hdrops.has key).mpr ⟨hmem, hthere⟩, (if_neg hmem).trans hw⟩
    · rw [step, hdelete]
      exact ⟨hthere, hw⟩
  | purge => exact ⟨hthere, hw⟩

/-- **The statistics of a cache account for every read and for every entry.** Whatever room there is,
after any events, calls that fail included,
* hits and misses are as many as the reads that were answered, and hits as many as those with a text;
* what is stored, what was evicted and what removals told are together as much as the writes put where
  nothing was stored;
* what is stored is what was written last;
* in any next event, what goes by itself is over and counted as an eviction, nothing else is, and what
  is not over only goes if the event changes it. -/
theorem statistics_balance (choice : CacheChoice) (room : Durable.Room) (clock : Time.Clock)
    (events : List Event) :
    let s := (start choice room clock).run events
    Cache.stats s.cache = .ok ⟨.ofNat s.cache.hits, .ofNat s.cache.misses, .ofNat s.cache.size,
      .ofNat s.cache.evictions⟩ ∧
    s.cache.hits + s.cache.misses = s.gets ∧ s.cache.hits = s.found ∧
    s.cache.size + s.cache.evictions + s.deleted = s.fresh ∧
    s.cache.Holds s.ledger ∧
    ∀ e, s.cache.Sheds s.clock s.ledger (s.shed e) ∧
      (s.step e).cache.evictions = (s.shed e).evictions ∧
      ∀ key w, s.Keeps key w → ¬ s.cache.IsOver s.clock w → ¬ s.Changes key e →
        (s.step e).Keeps key w := by
  intro s
  have hbalanced : s.Balanced := (Balanced.start choice room clock).run events
  refine ⟨s.cache.stats_eq, hbalanced.reads, hbalanced.found, hbalanced.entries, hbalanced.holds,
    fun e => ⟨hbalanced.sheds e, s.evictions_step e, fun key w hkeeps hlive hnot => ?_⟩⟩
  obtain ⟨hthere, hw⟩ := hkeeps
  refine keeps_step (Bool.not_eq_false _ ▸ fun hgone => ?_) hw hnot
  obtain ⟨w', hw', hover⟩ := (hbalanced.sheds e).elapsed key hthere hgone
  rw [hw] at hw'
  cases hw'
  exact hlive hover

/-- A text is kept for a millisecond, from shortly before the next one begins. -/
def acrossMillisecond : Usage :=
  (start .durable (.ofBytes 10) (.start 0 0)).run
    [.advance 900000, .set "a" "x" (.ofMillis 1), .advance 100000]

/-- A text is kept until the clock cannot be read any more. -/
def atCalendarEnd : Usage :=
  (start .durable (.ofBytes 10) (.start 0 0)).run
    [.set "a" "x" (.ofMillis 1), .advance (.ofSeconds (Time.Timestamp.lastSecond.toNat + 1))]

/-- An entry can be evicted from a durable cache within a millisecond before its time is over, and a read
that breaks down is neither a hit nor a miss. -/
theorem evicted_early :
    (∃ w, acrossMillisecond.Keeps "a" w ∧
      acrossMillisecond.clock.running < w.since.running + w.ttl) ∧
    acrossMillisecond.cache.evictions = 0 ∧
    (acrossMillisecond.step .purge).cache.evictions = 1 ∧
    (acrossMillisecond.step .purge).cache.has "a" = false ∧
    (Cache.get "a" atCalendarEnd.clock atCalendarEnd.cache).1 =
      .error (.breakdown .beyondCalendar) ∧
    (atCalendarEnd.step (.get "a")).cache.hits + (atCalendarEnd.step (.get "a")).cache.misses = 0 := by
  refine ⟨⟨⟨"x", ⟨900000, 900000⟩, 1000000⟩, ⟨?_, rfl⟩, ?_⟩, rfl, ?_, ?_, rfl, rfl⟩
  · decide +kernel
  · decide
  · decide +kernel
  · decide +kernel

end Usage

end LikedYou
