import LikedYou.Cache.Volatile
import LikedYou.Proofs.Cache.Trims

/-!
# What the calls of a cache in memory do

One law for each call: what it answers, and what becomes of the entries and of the counters. Entries
that go by themselves are entries whose time is over.
-/

namespace LikedYou.Volatile

variable {c : Volatile} {clock : Time.Clock} {key value : String}

/-- The entry under a key: its text, and when its time is over. -/
def held? (c : Volatile) (key : String) : Option (String × Time.Duration) := c.entries[key]?

/-- Whether the time of an entry is over. -/
def IsOver (clock : Time.Clock) (entry : String × Time.Duration) : Prop := entry.2 ≤ clock.running

/-- What a reader makes of an entry. -/
def readEntry (clock : Time.Clock) (entry : String × Time.Duration) : Option String :=
  if clock.running < entry.2 then some entry.1 else none

theorem readEntry_of_isOver {entry : String × Time.Duration} (h : IsOver clock entry) :
    readEntry clock entry = none := if_neg (Nat.not_lt.mpr h)

/-! ## Purging -/

/-- Whether a cache differs from another one only by entries that went, their time being over. -/
structure Reclaimed (clock : Time.Clock) (c c' : Volatile) : Prop where
  trims : Trims (IsOver clock) c.held? c'.held?
  hits : c'.hits = c.hits
  misses : c'.misses = c.misses

theorem Reclaimed.refl (clock : Time.Clock) (c : Volatile) : c.Reclaimed clock c :=
  ⟨.refl _ _, rfl, rfl⟩

theorem held?_purge (clock : Time.Clock) (c : Volatile) (key : String) :
    (c.purge clock).2.held? key =
      (c.held? key).filter fun (_, expiresAt) => clock.running < expiresAt :=
  Std.ExtTreeMap.getElem?_filter'

/-- What is stored after a purge is not over. -/
theorem lt_of_purge {entry : String × Time.Duration}
    (h : (c.purge clock).2.held? key = some entry) : clock.running < entry.2 := by
  rw [held?_purge, Option.filter_eq_some_iff] at h
  simpa using h.2

theorem reclaimed_purge (clock : Time.Clock) (c : Volatile) :
    c.Reclaimed clock (c.purge clock).2 := by
  refine ⟨fun key => ?_, rfl, rfl⟩
  rw [held?_purge]
  cases hentry : c.held? key with
  | none => exact Or.inl rfl
  | some entry =>
    by_cases hlive : clock.running < entry.2
    · exact Or.inl (Option.filter_some_pos (by simpa using hlive))
    · exact Or.inr ⟨Option.filter_some_neg (by simpa using hlive), entry, rfl, Nat.not_lt.mp hlive⟩

/-- The cache after the sweep that a write may make. -/
def swept (clock : Time.Clock) (c : Volatile) : Volatile :=
  if c.sweepDue clock then (c.purge clock).2 else c

theorem reclaimed_swept (clock : Time.Clock) (c : Volatile) :
    c.Reclaimed clock (c.swept clock) := by
  unfold swept
  split
  · exact reclaimed_purge clock c
  · exact .refl clock c

/-! ## Writing -/

/-- Where the running clock can tell the time of expiry, a write sweeps if it is time to, and puts its
entry into what is left. -/
theorem set_eq_insert (c : Volatile) (key value : String) {ttl : Time.Duration}
    (h : clock.running + ttl < clockEnd) :
    c.set key value ttl clock = (.ok (), { c.swept clock with
      entries := (c.swept clock).entries.insert key (value, clock.running + ttl) }) := by
  rw [set, if_neg (Nat.not_le.mpr h)]
  rfl

/-- What a write does where the running clock can tell the time of expiry. -/
theorem set_eq_ok (c : Volatile) (key value : String) {ttl : Time.Duration}
    (h : clock.running + ttl < clockEnd) :
    ∃ c', c.set key value ttl clock = (.ok (), c') ∧
      (∀ k, c'.held? k = if k = key then some (value, clock.running + ttl)
        else (c.swept clock).held? k) ∧
      c'.hits = c.hits ∧ c'.misses = c.misses := by
  obtain ⟨-, hhits, hmisses⟩ := reclaimed_swept clock c
  refine ⟨_, c.set_eq_insert key value h, fun k => ?_, hhits, hmisses⟩
  simp only [held?, Std.ExtTreeMap.getElem?_insert, Std.compare_eq_iff_eq]
  simp only [eq_comm]

/-- A write whose end the running clock cannot tell does nothing. -/
theorem set_eq_error (c : Volatile) (key value : String) {ttl : Time.Duration}
    (h : clockEnd ≤ clock.running + ttl) :
    c.set key value ttl clock = (.error (.breakdown .beyondClock), c) := by
  rw [set, if_pos h]

/-! ## Reading -/

/-- What a read does. -/
theorem get_eq (c : Volatile) (key : String) (clock : Time.Clock) :
    ∃ c', c.get key clock = ((c.held? key).bind (readEntry clock), c') ∧
      Trims (IsOver clock) c.held? c'.held? ∧
      (if ((c.held? key).bind (readEntry clock)).isSome then
        c'.hits = c.hits + 1 ∧ c'.misses = c.misses
      else c'.hits = c.hits ∧ c'.misses = c.misses + 1) := by
  unfold get
  cases hentry : c.held? key with
  | none =>
    rw [held?] at hentry
    rw [hentry]
    exact ⟨_, rfl, .refl _ _, rfl, rfl⟩
  | some entry =>
    rw [held?] at hentry
    rw [hentry]
    by_cases hlive : clock.running < entry.2
    · simp only [Option.bind_some, readEntry, if_pos hlive]
      exact ⟨_, rfl, .refl _ _, rfl, rfl⟩
    · simp only [Option.bind_some, readEntry, if_neg hlive]
      refine ⟨_, rfl, fun k => ?_, rfl, rfl⟩
      simp only [held?, Std.ExtTreeMap.getElem?_erase, Std.compare_eq_iff_eq]
      -- only the entry that was read goes, and its time is over
      split
      · next hk => exact Or.inr ⟨rfl, entry, hk ▸ hentry, Nat.not_lt.mp hlive⟩
      · exact Or.inl rfl

/-- A read removes at most an entry whose time is over. -/
theorem trims_get (c : Volatile) (key : String) (clock : Time.Clock) :
    Trims (IsOver clock) c.held? (c.get key clock).2.held? := by
  obtain ⟨c', hget, htrims, -⟩ := c.get_eq key clock
  rw [hget]
  exact htrims

/-- What a read tells. -/
theorem fst_get (c : Volatile) (key : String) (clock : Time.Clock) :
    (Cache.get key clock c).1 = .ok ((c.held? key).bind (readEntry clock)) := by
  obtain ⟨c', hget, -⟩ := c.get_eq key clock
  show Except.ok (c.get key clock).1 = _
  rw [hget]

/-! ## Removing -/

/-- What removing keys does. -/
theorem held?_delete (c : Volatile) (keys : List String) :
    (∀ k, (c.delete keys).2.held? k = if k ∈ keys then none else c.held? k) ∧
      (c.delete keys).2.hits = c.hits ∧ (c.delete keys).2.misses = c.misses := by
  unfold delete
  generalize 0 = deleted
  induction keys generalizing c deleted with
  | nil => exact ⟨fun k => rfl, rfl, rfl⟩
  | cons key keys ih =>
    rw [List.foldl_cons]
    by_cases hkey : c.entries.contains key = true
    · obtain ⟨hentries, hhits, hmisses⟩ :=
        ih { c with entries := c.entries.erase key } (deleted + 1)
      simp only [if_pos hkey]
      refine ⟨fun k => ?_, hhits, hmisses⟩
      rw [hentries]
      simp only [held?, Std.ExtTreeMap.getElem?_erase, Std.compare_eq_iff_eq, List.mem_cons]
      by_cases hk : k = key
      · simp [hk]
      · simp [hk, Ne.symm hk]
    · obtain ⟨hentries, hhits, hmisses⟩ := ih c deleted
      simp only [if_neg hkey]
      refine ⟨fun k => ?_, hhits, hmisses⟩
      rw [hentries]
      by_cases hk : k = key
      · have hnone : c.held? key = none :=
          Std.ExtTreeMap.getElem?_eq_none (by simpa using hkey)
        simp [hk, hnone]
      · simp [hk]

end LikedYou.Volatile
