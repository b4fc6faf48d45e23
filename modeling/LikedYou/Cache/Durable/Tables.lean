import Std.Data.ExtTreeMap
import LikedYou.Cache.Durable.Layout

/-!
# The stored tables

Two tables of rows in the order of their bytes: the entries by their keys, and the index rows, which
are written to carry nothing. They are changed together in transactions: an operation either gives the
changed tables or fails, and then there is nothing to undo.

A key has 1 to 511 bytes. No row can have an empty key, so asking for one is a fault; a longer key is
simply not there, but nothing can be stored under it.

The rows share a room that may be full. How many pages the tables take, and which of those that became
free can be used again, is not counted here: whether a row finds space is a verdict that comes with the
room. Removing rows needs no room.
-/

namespace LikedYou.Durable

/-- The entries, and the index over their expiries. -/
structure Tables where
  entries : Std.ExtTreeMap Bytes Bytes
  expiry : Std.ExtTreeMap Bytes Bytes

/-- The room for the rows of a cache. -/
structure Room where
  /-- The length of the longest row. -/
  longest : Nat
  /-- Whether a row under a key finds space beside what is stored. -/
  hasSpace (t : Tables) (key row : Bytes) : Bool

/-- Whether there is room for a row under a key. A row that is too long is refused whatever is stored. -/
def Room.admits (room : Room) (t : Tables) (key row : Bytes) : Bool :=
  decide (row.length ≤ room.longest) && room.hasSpace t key row

/-- The room in some megabytes, as long as they are not used up. -/
def roomIn (megabytes : Nat) : Room := ⟨longestRowIn megabytes, fun _ _ _ => true⟩

namespace Tables

/-- No rows. -/
def empty : Tables := ⟨∅, ∅⟩

/-- The length of the longest key. -/
def maxKeyLength : Nat := 511

/-- Whether a row can be stored under a key. -/
def storable (key : Bytes) : Bool := !key.isEmpty && key.length ≤ maxKeyLength

/-- The entry under a key. -/
def find? (key : Bytes) (t : Tables) : Except Fault (Option Bytes) :=
  if key.isEmpty then .error .badKeyLength else .ok t.entries[key]?

/-- Remove an entry and its index row, and tell whether it was there. -/
def remove (key : Bytes) (t : Tables) : Except Fault (Bool × Tables) :=
  match t.find? key with
  | .error f => .error f
  | .ok none => .ok (false, t)
  | .ok (some row) =>
    let expiry :=
      match entryExpiry? row with
      | some expiresAt => t.expiry.erase (indexRow expiresAt key)
      | none => t.expiry
    .ok (true, ⟨t.entries.erase key, expiry⟩)

/-- Store an entry and its index row in place of what is under its key, if there is room. -/
def write (room : Room) (key row : Bytes) (expiresAt : Int64) (t : Tables) : Except Fault Tables :=
  match t.remove key with
  | .error f => .error f
  | .ok (_, rest) =>
    if !storable key then .error .badKeyLength
    else if !room.admits t key row then .error .mapFull
    else if !storable (indexRow expiresAt key) then .error .badKeyLength
    else .ok ⟨rest.entries.insert key row, rest.expiry.insert (indexRow expiresAt key) []⟩

/-- Remove keys one after the other, and tell how many of them were there. -/
def removeAll (keys : List Bytes) (deleted : Nat) (t : Tables) : Except Fault (Nat × Tables) :=
  match keys with
  | [] => .ok (deleted, t)
  | key :: keys =>
    match t.remove key with
    | .error f => .error f
    | .ok (wasThere, t) => t.removeAll keys (if wasThere then deleted + 1 else deleted)

/-- Remove an entry if its time is over, and tell whether it was. -/
def reclaim (key : Bytes) (now : Int64) (t : Tables) : Except Fault (Bool × Tables) :=
  match t.find? key with
  | .error f => .error f
  | .ok none => .ok (false, t)
  | .ok (some row) =>
    match decodeEntry row now with
    | .ok .expired => t.remove key
    | _ => .ok (false, t)

/-! ## Purging -/

/-- Whether an index row is to be purged: its time is over, or it tells none. -/
def isDue (now : Int64) (row : Bytes) : Bool :=
  match splitIndexRow? row with
  | some (expiresAt, _) => expiresAt ≤ now
  | none => true

/-- Of index rows with what they carry, those up to the first one that is not due. A row that carries
something cannot be read. -/
def dueAmong (now : Int64) : List (Bytes × Bytes) → Except Fault (List Bytes)
  | [] => .ok []
  | (row, load) :: rows =>
    if !load.isEmpty then .error .loadedIndexRow
    else if isDue now row then (dueAmong now rows).map (row :: ·)
    else .ok []

/-- The index rows up to the first one that is not due. -/
def due (now : Int64) (t : Tables) : Except Fault (List Bytes) := dueAmong now t.expiry.toList

theorem dueAmong_of_unloaded {now : Int64} {rows : List (Bytes × Bytes)}
    (h : ∀ r ∈ rows, r.2 = []) :
    dueAmong now rows = .ok ((rows.map Prod.fst).takeWhile (isDue now)) := by
  induction rows with
  | nil => rfl
  | cons r rows ih =>
    obtain ⟨row, load⟩ := r
    obtain ⟨hload, hrows⟩ := List.forall_mem_cons.mp h
    subst hload
    rw [dueAmong, ih hrows, List.map_cons]
    by_cases hd : isDue now row
    · simp [hd, Except.map]
    · simp [hd]

/-- Remove index rows, and the entries that they describe; count those. -/
def purgeRows (rows : List Bytes) (removed : Nat) (t : Tables) : Except Fault (Nat × Tables) :=
  match rows with
  | [] => .ok (removed, t)
  | row :: rows =>
    let t : Tables := { t with expiry := t.expiry.erase row }
    match splitIndexRow? row with
    | none => t.purgeRows rows removed
    | some (expiresAt, key) =>
      match t.find? key with
      | .error f => .error f
      | .ok entry =>
        if entry.bind entryExpiry? = some expiresAt then
          { t with entries := t.entries.erase key }.purgeRows rows (removed + 1)
        else t.purgeRows rows removed

/-- Remove the entries whose time is over, and tell how many. -/
def purge (now : Int64) (t : Tables) : Except Fault (Nat × Tables) :=
  match t.due now with
  | .error f => .error f
  | .ok rows => t.purgeRows rows 0

end Tables

end LikedYou.Durable
