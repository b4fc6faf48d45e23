import LikedYou.Proofs.Cache.Usage

/-!
# Sweeps of a cache in memory

* `Sweeping.run` — a cache in memory and its clock, with the time of the last sweep
* `Sweeping.Paced` — the next sweep is due a minute after the last one, and what is stored was not over
  before the last one
* `Sweeping.Paced.step`, `Sweeping.Paced.run` — what one event and what any run preserves
* `Sweeping.dead_entries_go` — after a write nothing is stored that has been over for a minute, and
  only a write that comes a minute after the last sweep removes other entries

An entry that a sweep leaves is over after it, and one that comes later is over no earlier than it. So
until the next sweep is due, a minute later, nothing can have been over for a minute.
-/

namespace LikedYou

open Volatile (sweepInterval clockEnd)

/-! ## What the calls make of the next sweep -/

namespace Volatile

theorem nextSweep_get (c : Volatile) (key : String) (clock : Time.Clock) :
    (c.get key clock).2.nextSweep = c.nextSweep := by
  unfold get
  split
  · rfl
  · split <;> rfl

theorem nextSweep_delete (c : Volatile) (keys : List String) :
    (c.delete keys).2.nextSweep = c.nextSweep := by
  unfold delete
  generalize 0 = deleted
  induction keys generalizing c deleted with
  | nil => rfl
  | cons key keys ih =>
    rw [List.foldl_cons]
    by_cases hkey : c.entries.contains key = true
    · simp only [if_pos hkey]
      exact ih { c with entries := c.entries.erase key } (deleted + 1)
    · simp only [if_neg hkey]
      exact ih c deleted

end Volatile

/-- A cache in memory and its clock. -/
structure Sweeping where
  clock : Time.Clock
  cache : Volatile
  /-- When the last sweep was made, be it by a purge or by a write. -/
  last : Option Time.Duration

namespace Sweeping

open Usage (Event)

/-- An empty cache. -/
def start (clock : Time.Clock) : Sweeping := ⟨clock, .empty, none⟩

/-- What an event does. -/
def step (s : Sweeping) : Event → Sweeping
  | .advance d => { s with clock := s.clock.advance d }
  | .get key => { s with cache := (Cache.get key s.clock s.cache).2 }
  | .set key value ttl =>
    match Cache.set key value ttl s.clock s.cache with
    | (.ok (), cache) =>
      let last := if s.cache.sweepDue s.clock then some s.clock.running else s.last
      { s with cache, last }
    | (.error _, cache) => { s with cache }
  | .delete keys => { s with cache := (Cache.delete keys s.cache).2 }
  | .purge => { s with cache := (s.cache.purge s.clock).2, last := some s.clock.running }

/-- What events do. -/
def run (s : Sweeping) (events : List Event) : Sweeping := events.foldl step s

/-- Whether no sweep was made in the last minute. -/
def Rested (s : Sweeping) : Prop := ∀ t ∈ s.last, t + sweepInterval ≤ s.clock.running

variable {s : Sweeping} {key value : String} {ttl : Time.Duration}

/-! ## Writes -/

theorem step_set_eq_ok (s : Sweeping) {c' : Volatile}
    (hset : s.cache.set key value ttl s.clock = (.ok (), c')) :
    s.step (.set key value ttl) = { s with
      cache := c'
      last := if s.cache.sweepDue s.clock then some s.clock.running else s.last } := by
  have hset' : Cache.set key value ttl s.clock s.cache = (.ok (), c') := hset
  rw [step, hset']

theorem step_set_eq_error (s : Sweeping) (key value : String)
    (h : clockEnd ≤ s.clock.running + ttl) : s.step (.set key value ttl) = s := by
  have hset : Cache.set key value ttl s.clock s.cache = (.error (.breakdown .beyondClock), s.cache) :=
    s.cache.set_eq_error key value h
  rw [step, hset]

/-! ## The invariant -/

/-- Whether sweeps and entries are in order: the next sweep is due a minute after the last one, and
nothing is stored that was over before the last one. Before the first one there is nothing at all. -/
structure Paced (s : Sweeping) : Prop where
  next : s.cache.nextSweep = s.last.map (· + sweepInterval)
  passed : ∀ t ∈ s.last, t ≤ s.clock.running
  stored : ∀ key entry, s.cache.held? key = some entry → ∃ t ∈ s.last, t ≤ entry.2

namespace Paced

theorem start (clock : Time.Clock) : (Sweeping.start clock).Paced := by
  refine ⟨rfl, ?_, ?_⟩
  · intro t ht
    cases ht
  · intro key entry hentry
    cases hentry

/-- **A write sweeps if there was no sweep in the last minute.** -/
theorem sweepDue_iff (h : s.Paced) : s.cache.sweepDue s.clock = true ↔ s.Rested := by
  have hall : s.cache.sweepDue s.clock =
    s.cache.nextSweep.all fun t => decide (t ≤ s.clock.running) := rfl
  rw [hall, h.next, Rested]
  cases s.last with
  | none => exact iff_of_true rfl nofun
  | some t =>
    rw [Option.map_some, Option.all_some, decide_eq_true_eq]
    constructor
    · intro hle t' ht'
      cases ht'
      exact hle
    · intro hrested
      exact hrested t rfl

/-- What is stored after the sweep that a write may make has not been over for a minute. -/
theorem lt_of_swept (h : s.Paced) {entry : String × Time.Duration}
    (hentry : (s.cache.swept s.clock).held? key = some entry) :
    s.clock.running < entry.2 + sweepInterval := by
  by_cases hdue : s.cache.sweepDue s.clock = true
  · -- what the sweep left is not over
    rw [Volatile.swept, if_pos hdue] at hentry
    exact Nat.lt_add_right _ (Volatile.lt_of_purge hentry)
  · -- the last sweep is less than a minute ago, and the entry was not over before it
    rw [Volatile.swept, if_neg hdue] at hentry
    obtain ⟨t, ht, hle⟩ := h.stored key entry hentry
    by_contra hlong
    refine hdue (h.sweepDue_iff.mpr fun t' ht' => ?_)
    obtain rfl : t = t' := Option.mem_unique ht ht'
    exact Nat.le_trans (Nat.add_le_add_right hle _) (Nat.not_lt.mp hlong)

/-! ## What the events preserve -/

theorem advance (h : s.Paced) (d : Time.Duration) : (s.step (.advance d)).Paced := by
  refine ⟨h.next, ?_, h.stored⟩
  intro t ht
  exact Nat.le_trans (h.passed t ht) (Nat.le_add_right _ d)

theorem get (h : s.Paced) (key : String) : (s.step (.get key)).Paced := by
  refine ⟨(s.cache.nextSweep_get key s.clock).trans h.next, h.passed, ?_⟩
  intro k entry hentry
  exact h.stored k entry ((s.cache.trims_get key s.clock).eq_some hentry)

theorem delete (h : s.Paced) (keys : List String) : (s.step (.delete keys)).Paced := by
  refine ⟨(s.cache.nextSweep_delete keys).trans h.next, h.passed, ?_⟩
  intro k entry hentry
  have hleft : (s.cache.delete keys).2.held? k = some entry := hentry
  rw [(s.cache.held?_delete keys).1] at hleft
  split at hleft
  · cases hleft
  · exact h.stored k entry hleft

/-- What a sweep leaves is in order, whatever it found. -/
theorem purge (s : Sweeping) : (s.step .purge).Paced := by
  refine ⟨rfl, ?_, ?_⟩
  · intro t ht
    cases ht
    exact Nat.le_refl _
  · intro key entry hentry
    exact ⟨s.clock.running, rfl, Nat.le_of_lt (Volatile.lt_of_purge hentry)⟩

/-- The sweep that a write may make leaves all in order. There has been one then. -/
theorem swept (h : s.Paced) : ∃ t,
    (if s.cache.sweepDue s.clock then some s.clock.running else s.last) = some t ∧
    Paced { s with cache := s.cache.swept s.clock, last := some t } := by
  by_cases hdue : s.cache.sweepDue s.clock = true
  · refine ⟨s.clock.running, if_pos hdue, ?_⟩
    rw [Volatile.swept, if_pos hdue]
    exact purge s
  · rw [if_neg hdue, Volatile.swept, if_neg hdue]
    cases hlast : s.last with
    | none =>
      refine absurd (h.sweepDue_iff.mpr ?_) hdue
      intro t ht
      rw [hlast] at ht
      cases ht
    | some t =>
      refine ⟨t, rfl, ?_⟩
      rw [← hlast]
      exact h

theorem set (h : s.Paced) (key value : String) (ttl : Time.Duration) :
    (s.step (.set key value ttl)).Paced := by
  by_cases hend : s.clock.running + ttl < clockEnd
  · obtain ⟨t, hlast, hswept⟩ := h.swept
    obtain ⟨c', hset, hentries, -⟩ := s.cache.set_eq_ok key value hend
    rw [s.step_set_eq_ok hset, hlast]
    refine ⟨?_, hswept.passed, ?_⟩
    · rw [s.cache.set_eq_insert key value hend] at hset
      cases hset
      exact hswept.next
    · intro k entry hentry
      rw [hentries] at hentry
      split at hentry
      · cases hentry
        exact ⟨t, rfl, Nat.le_trans (hswept.passed t rfl) (Nat.le_add_right _ ttl)⟩
      · exact hswept.stored k entry hentry
  · rw [s.step_set_eq_error key value (Nat.not_lt.mp hend)]
    exact h

/-- **What one event preserves.** -/
theorem step (h : s.Paced) (e : Event) : (s.step e).Paced := by
  cases e with
  | advance d => exact h.advance d
  | get key => exact h.get key
  | set key value ttl => exact h.set key value ttl
  | delete keys => exact h.delete keys
  | purge => exact purge s

/-- **What any run preserves.** -/
theorem run (h : s.Paced) (events : List Event) : (s.run events).Paced := by
  induction events generalizing s with
  | nil => exact h
  | cons e events ih => exact ih (h.step e)

end Paced

/-- **Dead entries do not stay in a cache in memory.** After any events a write
* breaks down if the running clock cannot tell when the time of its entry is over, and then it changes
  nothing;
* else leaves nothing that has been over for a minute or longer;
* removes another entry only if its time is over, and only if there was no sweep so far or the last one
  was a minute ago or longer.

That a sweep breaks down as well in the last minute that the running clock can tell is left out. -/
theorem dead_entries_go (clock : Time.Clock) (events : List Event) (key value : String)
    (ttl : Time.Duration) :
    let s := (start clock).run events
    let s' := s.step (.set key value ttl)
    ((Cache.set key value ttl s.clock s.cache).1 = .ok () ↔ s.clock.running + ttl < clockEnd) ∧
    (clockEnd ≤ s.clock.running + ttl → s' = s) ∧
    (s.clock.running + ttl < clockEnd →
      ∀ k entry, s'.cache.held? k = some entry → s.clock.running < entry.2 + sweepInterval) ∧
    ∀ k, k ≠ key → s'.cache.held? k = s.cache.held? k ∨
      s'.cache.held? k = none ∧
        (∃ entry, s.cache.held? k = some entry ∧ Volatile.IsOver s.clock entry) ∧ s.Rested := by
  intro s s'
  have hpaced : s.Paced := (Paced.start clock).run events
  by_cases hend : s.clock.running + ttl < clockEnd
  · obtain ⟨c', hset, hentries, -⟩ := s.cache.set_eq_ok key value hend
    have hcache : s'.cache = c' := congrArg Sweeping.cache (s.step_set_eq_ok hset)
    rw [hcache]
    refine ⟨iff_of_true (congrArg Prod.fst hset) hend, ?_, ?_, ?_⟩
    · intro hbeyond
      exact absurd hend (Nat.not_lt.mpr hbeyond)
    · intro _ k entry hentry
      rw [hentries] at hentry
      split at hentry
      · cases hentry
        exact Nat.lt_of_le_of_lt (Nat.le_add_right _ ttl) (Nat.lt_add_of_pos_right (by decide))
      · exact hpaced.lt_of_swept hentry
    · intro k hk
      rw [hentries, if_neg hk]
      by_cases hdue : s.cache.sweepDue s.clock = true
      · rcases (Volatile.reclaimed_swept s.clock s.cache).trims k with hsame | ⟨hgone, hover⟩
        · exact Or.inl hsame
        · exact Or.inr ⟨hgone, hover, hpaced.sweepDue_iff.mp hdue⟩
      · left
        rw [Volatile.swept, if_neg hdue]
  · have hbeyond := Nat.not_lt.mp hend
    have hsame : s' = s := s.step_set_eq_error key value hbeyond
    have hset := s.cache.set_eq_error key value hbeyond
    refine ⟨iff_of_false ?_ hend, fun _ => hsame, fun hend' => absurd hend' hend, ?_⟩
    · intro hok
      have hfails : (Cache.set key value ttl s.clock s.cache).1 = _ := congrArg Prod.fst hset
      rw [hfails] at hok
      cases hok
    · intro k _
      left
      rw [hsame]

end Sweeping

end LikedYou
