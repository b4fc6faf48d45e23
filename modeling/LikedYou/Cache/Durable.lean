import LikedYou.Cache.Durable.Tables

/-!
# A cache that survives its process

Entries are kept by the time of day until their time is over, in tables that are there again when the
cache is opened anew. Counters begin anew with it. The operations take the current millisecond, which
may be any; where it comes from a clock, the clock is read only if it matters.

An entry whose time is over is removed when it is read. Those that are never read again are purged:
by every 64th write, and by a write that finds no room, which then tries once more.
-/

namespace LikedYou

/-- A durable cache. -/
structure Durable where
  tables : Durable.Tables
  room : Durable.Room
  hits : Nat
  misses : Nat
  evictions : Nat
  /-- How many writes were tried. -/
  writes : Nat

namespace Durable

/-- Open a cache with what is stored. -/
def openWith (tables : Tables) (room : Room) : Durable := ⟨tables, room, 0, 0, 0, 0⟩

/-- An empty cache. -/
def new (room : Room) : Durable := openWith .empty room

/-- An empty cache in some megabytes. -/
def empty (megabytes : Nat) : Durable := new (roomIn megabytes)

/-- Open the cache once more. -/
def reopen (c : Durable) : Durable := openWith c.tables c.room

/-- Every how many writes there is a purge. -/
def purgeEvery : Nat := 64

/-- Remove all entries whose time is over, and tell how many. -/
def purge (now : Int64) (c : Durable) : Except Fault Nat × Durable :=
  match c.tables.purge now with
  | .error f => (.error f, c)
  | .ok (removed, tables) => (.ok removed, { c with tables, evictions := c.evictions + removed })

/-- Count a write, and purge if it is its turn. A purge that fails is passed over. -/
def countWrite (now : Int64) (c : Durable) : Durable :=
  let counted := { c with writes := c.writes + 1 }
  if c.writes % purgeEvery = 0 then (counted.purge now).2 else counted

/-- Store an entry. -/
def write (key value : String) (expiresAt : Int64) (c : Durable) : Except Fault Durable :=
  let row := encodeEntry value expiresAt
  match c.tables.write c.room (Utf8.ofString key) row expiresAt with
  | .error f => .error f
  | .ok tables => .ok { c with tables }

/-- Store an entry, and try once more after a purge if there is no room. -/
def writeOrPurge (key value : String) (expiresAt now : Int64) (c : Durable) :
    Except Fault Unit × Durable :=
  match c.write key value expiresAt with
  | .ok c => (.ok (), c)
  | .error .mapFull =>
    match c.purge now with
    | (.error f, c) => (.error f, c)
    | (.ok _, c) =>
      match c.write key value expiresAt with
      | .ok c => (.ok (), c)
      | .error f => (.error f, c)
  | .error f => (.error f, c)

/-- Keep a text under a key for a length of time. -/
def set (key value : String) (ttl : Time.Duration) (now : Int64) (c : Durable) :
    Except Fault Unit × Durable :=
  (c.countWrite now).writeOrPurge key value (expiryAfter ttl now) now

/-- The text under a key, unless its time is over. -/
def get (key : String) (now : Int64) (c : Durable) : Except Fault (Option String) × Durable :=
  let missed := { c with misses := c.misses + 1 }
  match c.tables.find? (Utf8.ofString key) with
  | .error f => (.error f, missed)
  | .ok none => (.ok none, missed)
  | .ok (some row) =>
    match decodeEntry row now with
    | .error f => (.error f, missed)
    | .ok (.live value) => (.ok (some value), { c with hits := c.hits + 1 })
    | .ok .expired =>
      match c.tables.reclaim (Utf8.ofString key) now with
      | .error f => (.error f, missed)
      | .ok (true, tables) => (.ok none, { missed with tables, evictions := c.evictions + 1 })
      | .ok (false, tables) => (.ok none, { missed with tables })

/-- Remove keys, and tell how many of them were stored. -/
def delete (keys : List String) (c : Durable) : Except Fault Nat × Durable :=
  match c.tables.removeAll (keys.map Utf8.ofString) 0 with
  | .error f => (.error f, c)
  | .ok (deleted, tables) => (.ok deleted, { c with tables })

/-- How the cache was used since it was opened. -/
def stats (c : Durable) : CacheStats :=
  ⟨.ofNat c.hits, .ofNat c.misses, .ofNat c.tables.entries.size, .ofNat c.evictions⟩

/-! ## With a clock -/

/-- Whether there is an entry under a key. -/
def has (key : String) (c : Durable) : Bool := c.tables.entries.contains (Utf8.ofString key)

/-- The text under a key, unless its time is over. Where there is no entry the time does not matter,
and the clock is not read. -/
def getByClock (key : String) (clock : Time.Clock) (c : Durable) :
    Except OperationFault (Option String) × Durable :=
  let read (now : Int64) :=
    let (found, c) := c.get key now
    (found.mapError Fault.toOperation, c)
  match clock.millis with
  | .ok now => read now
  | .error b => if c.has key then (.error (.breakdown b), c) else read 0

theorem getByClock_of_millis {key : String} {clock : Time.Clock} {now : Int64} {c : Durable}
    (h : clock.millis = .ok now) :
    c.getByClock key clock =
      ((c.get key now).1.mapError Fault.toOperation, (c.get key now).2) := by
  unfold getByClock
  rw [h]

/-- Keep a text under a key for a length of time. The write is counted before the clock is read. -/
def setByClock (key value : String) (ttl : Time.Duration) (clock : Time.Clock) (c : Durable) :
    Except OperationFault Unit × Durable :=
  match clock.millis with
  | .ok now =>
    let (done, c) := c.set key value ttl now
    (done.mapError Fault.toOperation, c)
  | .error b => (.error (.breakdown b), { c with writes := c.writes + 1 })

theorem setByClock_of_millis {key value : String} {ttl : Time.Duration} {clock : Time.Clock}
    {now : Int64} {c : Durable} (h : clock.millis = .ok now) :
    c.setByClock key value ttl clock =
      ((c.set key value ttl now).1.mapError Fault.toOperation, (c.set key value ttl now).2) := by
  unfold setByClock
  rw [h]

/-- Remove all entries whose time is over, and tell how many. -/
def purgeByClock (clock : Time.Clock) (c : Durable) :
    Except Breakdown (Except Fault Nat × Durable) :=
  clock.millis.map fun now => c.purge now

instance : Cache Durable where
  get := getByClock
  set := setByClock
  delete keys c :=
    let (deleted, c) := c.delete keys
    (deleted.mapError Fault.toStorage, c)
  stats c := .ok c.stats

end Durable

end LikedYou
