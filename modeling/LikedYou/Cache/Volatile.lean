import Std.Data.ExtTreeMap
import LikedYou.Cache.Basic

/-!
# A cache in memory

Entries are kept until their time is over by the running clock, and go when the process ends.

An entry whose time is over is removed when it is read. Those that are never read again are removed
by a sweep over all entries, which a write makes if the last one is a minute ago or there was none.

Left out is the breakdown of a sweep in the last minute that the running clock can tell. The time of the
next sweep is beyond its end then, and cannot be told after the entries were removed; here it is noted
all the same.
-/

namespace LikedYou

/-- A cache in memory. -/
structure Volatile where
  entries : Std.ExtTreeMap String (String × Time.Duration)
  /-- When the next sweep is due; `none` until a sweep was made. -/
  nextSweep : Option Time.Duration
  hits : Nat
  misses : Nat
  evictions : Nat

namespace Volatile

/-- A cache without entries. -/
def empty : Volatile := ⟨∅, none, 0, 0, 0⟩

/-- The least time between two sweeps that writes make. -/
def sweepInterval : Time.Duration := .ofSeconds 60

/-- The first time that the running clock cannot tell. -/
def clockEnd : Time.Duration := .ofSeconds (UInt64.size / 2)

/-- Remove all entries whose time is over, and tell how many. The next sweep may be due at a time that the
running clock cannot tell. -/
def purge (clock : Time.Clock) (c : Volatile) : Nat × Volatile :=
  let entries := c.entries.filter fun _ (_, expiresAt) => clock.running < expiresAt
  let removed := c.entries.size - entries.size
  (removed,
    { c with
      entries
      nextSweep := some (clock.running + sweepInterval)
      evictions := c.evictions + removed })

/-- Whether a write is to sweep. -/
def sweepDue (clock : Time.Clock) (c : Volatile) : Bool := c.nextSweep.all (· ≤ clock.running)

/-- The text under a key, unless its time is over. -/
def get (key : String) (clock : Time.Clock) (c : Volatile) : Option String × Volatile :=
  match c.entries[key]? with
  | none => (none, { c with misses := c.misses + 1 })
  | some (value, expiresAt) =>
    if clock.running < expiresAt then (some value, { c with hits := c.hits + 1 })
    else
      (none,
        { c with
          entries := c.entries.erase key
          misses := c.misses + 1
          evictions := c.evictions + 1 })

/-- Keep a text under a key for a length of time. -/
def set (key value : String) (ttl : Time.Duration) (clock : Time.Clock) (c : Volatile) :
    Except OperationFault Unit × Volatile :=
  let expiresAt := clock.running + ttl
  if clockEnd ≤ expiresAt then (.error (.breakdown .beyondClock), c)
  else
    let c := if c.sweepDue clock then (c.purge clock).2 else c
    (.ok (), { c with entries := c.entries.insert key (value, expiresAt) })

/-- Remove keys one after the other, and tell how many of them were stored. -/
def delete (keys : List String) (c : Volatile) : Nat × Volatile :=
  keys.foldl
    (fun (deleted, c) key =>
      if c.entries.contains key then (deleted + 1, { c with entries := c.entries.erase key })
      else (deleted, c))
    (0, c)

/-- How the cache was used so far. -/
def stats (c : Volatile) : CacheStats :=
  ⟨.ofNat c.hits, .ofNat c.misses, .ofNat c.entries.size, .ofNat c.evictions⟩

instance : Cache Volatile where
  get key clock c :=
    let (found, c) := c.get key clock
    (.ok found, c)
  set := set
  delete keys c :=
    let (deleted, c) := c.delete keys
    (.ok deleted, c)
  stats c := .ok c.stats

end Volatile

end LikedYou
