import LikedYou.Cache.Durable
import LikedYou.Proofs.Cache.Tables

/-!
# What the calls of a durable cache do

One law for each call: what it answers, and what becomes of the stored rows and of the counters.
Rows that go by themselves are rows whose time is over.

A write may purge twice before it puts its entry into the tables: when it is its turn, and when the map
is full. `Durable.atWrite` is what that leaves, whatever room there is, and a write that fails leaves
that, too.
-/

namespace LikedYou.Durable

variable {c c' : Durable} {key value : String} {now : Int64}

/-- The stored rows. -/
def row? (c : Durable) (key : Bytes) : Option Bytes := c.tables.row? key

/-- What a reader makes of a row. -/
def readRow (now : Int64) (row : Bytes) : Option String :=
  match decodeEntry row now with
  | .ok (.live value) => some value
  | _ => none

theorem readRow_of_isOver {row : Bytes} (h : IsOver now row) : readRow now row = none := by
  rw [readRow, decodeEntry_of_isOver h]

theorem readRow_encodeEntry (value : String) (expiresAt now : Int64) :
    readRow now (encodeEntry value expiresAt) = if expiresAt ≤ now then none else some value := by
  rw [readRow, decodeEntry_encodeEntry]
  by_cases hle : expiresAt ≤ now
  · simp only [if_pos hle]
  · simp only [if_neg hle]

/-! ## Purging -/

/-- Whether a cache differs from another one only by rows that went, their time being over. -/
structure Reclaimed (now : Int64) (c c' : Durable) : Prop where
  trims : Trims (IsOver now) c.row? c'.row?
  room : c'.room = c.room
  hits : c'.hits = c.hits
  misses : c'.misses = c.misses

theorem Reclaimed.refl (now : Int64) (c : Durable) : c.Reclaimed now c :=
  ⟨.refl _ _, rfl, rfl, rfl⟩

theorem Reclaimed.trans {c'' : Durable} (h : c.Reclaimed now c') (h' : c'.Reclaimed now c'') :
    c.Reclaimed now c'' :=
  ⟨h.trims.trans h'.trims, h'.room.trans h.room, h'.hits.trans h.hits, h'.misses.trans h.misses⟩

theorem reclaimed_purge (c : Durable) (now : Int64) : c.Reclaimed now (c.purge now).2 := by
  unfold purge
  split
  · exact .refl now c
  · next removed tables hpurge => exact ⟨Tables.trims_purge hpurge, rfl, rfl, rfl⟩

theorem reclaimed_countWrite (c : Durable) (now : Int64) :
    c.Reclaimed now (c.countWrite now) := by
  unfold countWrite
  simp only
  split
  · obtain ⟨htrims, hroom, hhits, hmisses⟩ :=
      reclaimed_purge { c with writes := c.writes + 1 } now
    exact ⟨htrims, hroom, hhits, hmisses⟩
  · exact ⟨.refl _ _, rfl, rfl, rfl⟩

/-- A purge that fails leaves all as it was. -/
theorem purge_eq_error {f : Fault} (h : c.purge now = (.error f, c')) : c' = c := by
  unfold purge at h
  split at h
  · cases h
    rfl
  · cases h

/-! ## The moment of a write -/

/-- The cache when a write puts its entry into it: the write is counted, and its purges are made. -/
def atWrite (key value : String) (ttl : Time.Duration) (now : Int64) (c : Durable) : Durable :=
  let counted := c.countWrite now
  match counted.write key value (expiryAfter ttl now) with
  | .error .mapFull => (counted.purge now).2
  | _ => counted

theorem reclaimed_atWrite_countWrite (c : Durable) (key value : String) (ttl : Time.Duration)
    (now : Int64) : (c.countWrite now).Reclaimed now (c.atWrite key value ttl now) := by
  unfold atWrite
  simp only
  split
  · exact reclaimed_purge _ now
  · exact .refl now _

theorem reclaimed_atWrite (c : Durable) (key value : String) (ttl : Time.Duration) (now : Int64) :
    c.Reclaimed now (c.atWrite key value ttl now) :=
  (reclaimed_countWrite c now).trans (c.reclaimed_atWrite_countWrite key value ttl now)

/-- **A write puts its entry into what its purges left**, or fails and leaves that. -/
theorem set_cases_atWrite (c : Durable) (key value : String) (ttl : Time.Duration) (now : Int64) :
    (∃ c', (c.atWrite key value ttl now).write key value (expiryAfter ttl now) = .ok c' ∧
      c.set key value ttl now = (.ok (), c')) ∨
    ∃ f f', (c.atWrite key value ttl now).write key value (expiryAfter ttl now) = .error f ∧
      c.set key value ttl now = (.error f', c.atWrite key value ttl now) := by
  unfold set writeOrPurge atWrite
  simp only
  cases hwrite : (c.countWrite now).write key value (expiryAfter ttl now) with
  | ok c' => exact Or.inl ⟨c', hwrite, rfl⟩
  | error f =>
    cases f with
    | mapFull =>
      rcases hpurge : (c.countWrite now).purge now with ⟨f | removed, c'⟩
      · -- the purge failed, and the map is as full as it was
        exact Or.inr ⟨.mapFull, f, purge_eq_error hpurge ▸ hwrite, rfl⟩
      · simp only
        cases hwrite' : c'.write key value (expiryAfter ttl now) with
        | ok c'' => exact Or.inl ⟨c'', rfl, rfl⟩
        | error f => exact Or.inr ⟨f, f, rfl, rfl⟩
    | _ => exact Or.inr ⟨_, _, hwrite, rfl⟩

/-! ## Room -/

/-- Whether there is room for what is to be written: it is not too long, and finds space once the write
is counted, or else after one more purge. -/
def HasRoom (key value : String) (ttl : Time.Duration) (now : Int64) (c : Durable) : Prop :=
  let bytes := Utf8.ofString key
  let row := encodeEntry value (expiryAfter ttl now)
  8 + (Utf8.ofString value).length ≤ c.room.longest ∧
    (c.room.hasSpace (c.countWrite now).tables bytes row = true ∨
      c.room.hasSpace ((c.countWrite now).purge now).2.tables bytes row = true)

instance (key value : String) (ttl : Time.Duration) (now : Int64) (c : Durable) :
    Decidable (c.HasRoom key value ttl now) :=
  inferInstanceAs (Decidable (_ ∧ (_ ∨ _)))

theorem write_eq_mapFull_iff {expiresAt : Int64}
    (hkey : Tables.storable (Utf8.ofString key) = true) :
    c.write key value expiresAt = .error .mapFull ↔
      ¬ c.room.admits c.tables (Utf8.ofString key) (encodeEntry value expiresAt) = true := by
  have htables : c.tables.write c.room (Utf8.ofString key) (encodeEntry value expiresAt) expiresAt =
      .error .mapFull ↔
        c.room.admits c.tables (Utf8.ofString key) (encodeEntry value expiresAt) = false :=
    Tables.write_eq_mapFull_iff.trans (and_iff_right hkey)
  rw [Bool.not_eq_true, ← htables, write]
  cases c.tables.write c.room (Utf8.ofString key) (encodeEntry value expiresAt) expiresAt with
  | ok tables => exact iff_of_false nofun nofun
  | error f => simp

/-- When a write puts its entry into the tables, there is room for it or there is none to be had. -/
theorem admits_atWrite_iff (c : Durable) (value : String) (ttl : Time.Duration) (now : Int64)
    (hkey : Tables.storable (Utf8.ofString key) = true) :
    c.room.admits (c.atWrite key value ttl now).tables (Utf8.ofString key)
      (encodeEntry value (expiryAfter ttl now)) = true ↔ c.HasRoom key value ttl now := by
  have hlength := length_encodeEntry value (expiryAfter ttl now)
  have hfull : (c.countWrite now).write key value (expiryAfter ttl now) = .error .mapFull ↔
      ¬ c.room.admits (c.countWrite now).tables (Utf8.ofString key)
        (encodeEntry value (expiryAfter ttl now)) = true := by
    rw [write_eq_mapFull_iff hkey, (reclaimed_countWrite c now).room]
  by_cases hadmits : c.room.admits (c.countWrite now).tables (Utf8.ofString key)
    (encodeEntry value (expiryAfter ttl now)) = true
  · -- there is room at once, so there is no purge
    have hcounted : c.atWrite key value ttl now = c.countWrite now := by
      unfold atWrite
      simp only
      split
      · next hwrite => exact absurd hadmits (hfull.mp hwrite)
      · rfl
    rw [hcounted]
    refine iff_of_true hadmits ?_
    rw [Room.admits_iff, hlength] at hadmits
    exact ⟨hadmits.1, Or.inl hadmits.2⟩
  · have hpurged : c.atWrite key value ttl now = ((c.countWrite now).purge now).2 := by
      rw [atWrite, hfull.mpr hadmits]
    rw [hpurged, Room.admits_iff, hlength]
    rw [Room.admits_iff, hlength] at hadmits
    refine and_congr_right fun hle => ?_
    exact (or_iff_right fun hspace => hadmits ⟨hle, hspace⟩).symm

/-! ## Writing -/

/-- Whether a write can be stored: its key is neither empty nor too long, and there is room. -/
def Accepts (key value : String) (ttl : Time.Duration) (now : Int64) (c : Durable) : Prop :=
  Utf8.ofString key ≠ [] ∧ (Utf8.ofString key).length ≤ 503 ∧ c.HasRoom key value ttl now

theorem takes_atWrite_iff (c : Durable) (key value : String) (ttl : Time.Duration) (now : Int64) :
    (c.atWrite key value ttl now).tables.Takes c.room (Utf8.ofString key)
      (encodeEntry value (expiryAfter ttl now)) (expiryAfter ttl now) ↔
        c.Accepts key value ttl now := by
  rw [Tables.takes_iff]
  refine and_congr_right fun hkey => and_congr_right fun hlength => ?_
  exact c.admits_atWrite_iff value ttl now
    (Tables.storable_iff.mpr ⟨hkey, Nat.le_trans hlength (by decide)⟩)

/-- **What a write does.** Before it, entries whose time is over may go. -/
theorem set_cases (c : Durable) (key value : String) (ttl : Time.Duration) (now : Int64) :
    let left := c.atWrite key value ttl now
    let bytes := Utf8.ofString key
    let row := encodeEntry value (expiryAfter ttl now)
    (c.Accepts key value ttl now ∧
      ∃ c', c.set key value ttl now = (.ok (), c') ∧
        (∀ k, c'.row? k = if k = bytes then some row else left.row? k) ∧
        c'.room = c.room ∧ c'.hits = c.hits ∧ c'.misses = c.misses) ∨
    (¬ c.Accepts key value ttl now ∧ ∃ f, c.set key value ttl now = (.error f, left)) := by
  intro left bytes row
  have hleft : c.Reclaimed now left := c.reclaimed_atWrite key value ttl now
  have haccepts : (∃ tables, left.tables.write left.room bytes row (expiryAfter ttl now) =
      .ok tables) ↔ c.Accepts key value ttl now := by
    rw [Tables.exists_write_eq_ok_iff, hleft.room]
    exact c.takes_atWrite_iff key value ttl now
  rcases c.set_cases_atWrite key value ttl now with ⟨c', hwrite, hset⟩ | ⟨f, f', hwrite, hset⟩
  · left
    unfold write at hwrite
    simp only at hwrite
    split at hwrite
    · cases hwrite
    · next tables htables =>
      cases hwrite
      exact ⟨haccepts.mp ⟨tables, htables⟩, _, hset, Tables.row?_write htables, hleft.room,
        hleft.hits, hleft.misses⟩
  · right
    refine ⟨fun hall => ?_, f', hset⟩
    obtain ⟨tables, htables⟩ := haccepts.mpr hall
    rw [write, htables] at hwrite
    cases hwrite

/-- What a write does that can be stored. -/
theorem set_eq_ok (c : Durable) {value : String} {ttl : Time.Duration}
    (h : c.Accepts key value ttl now) :
    ∃ c', c.set key value ttl now = (.ok (), c') ∧
      (∀ k, c'.row? k = if k = Utf8.ofString key then some (encodeEntry value (expiryAfter ttl now))
        else (c.atWrite key value ttl now).row? k) ∧
      c'.room = c.room ∧ c'.hits = c.hits ∧ c'.misses = c.misses := by
  rcases c.set_cases key value ttl now with ⟨-, hset⟩ | ⟨hnot, -⟩
  · exact hset
  · exact absurd h hnot

/-- There is room for one entry. Another one is refused as long as the first one is live, and finds
room after a purge when it is not. -/
example :
    let c := ((new (.ofBytes 15)).set "a" "x" (.ofSeconds 1) 0).2
    (c.set "b" "y" (.ofSeconds 1) 999).1 = .error .mapFull ∧
      (c.set "b" "y" (.ofSeconds 1) 1000).1 = .ok () := ⟨rfl, rfl⟩

/-! ## Reading -/

/-- What a read does where the key is not empty and its row can be read. -/
theorem get_eq_ok (hkey : Utf8.ofString key ≠ [])
    (hread : ∀ row, c.row? (Utf8.ofString key) = some row →
      ∃ reading, decodeEntry row now = .ok reading) :
    ∃ c', c.get key now = (.ok ((c.row? (Utf8.ofString key)).bind (readRow now)), c') ∧
      Trims (IsOver now) c.row? c'.row? ∧ c'.room = c.room ∧
      (if ((c.row? (Utf8.ofString key)).bind (readRow now)).isSome then
        c'.hits = c.hits + 1 ∧ c'.misses = c.misses
      else c'.hits = c.hits ∧ c'.misses = c.misses + 1) := by
  have hfind : c.tables.find? (Utf8.ofString key) = .ok (c.row? (Utf8.ofString key)) :=
    Tables.find?_of_ne_nil hkey
  unfold get
  rw [hfind]
  cases hrow : c.row? (Utf8.ofString key) with
  | none => exact ⟨_, rfl, .refl _ _, rfl, rfl, rfl⟩
  | some row =>
    obtain ⟨reading, hreading⟩ := hread row hrow
    cases reading with
    | live value =>
      simp only [hreading, Option.bind_some, readRow]
      exact ⟨_, rfl, .refl _ _, rfl, rfl, rfl⟩
    | expired =>
      -- whether the row is still there when it is removed decides about a counter only
      obtain ⟨removed, tables, hreclaim, htrims⟩ :=
        Tables.reclaim_eq_ok c.tables now hkey
      simp only [hreading, Option.bind_some, readRow, hreclaim]
      cases removed with
      | true => exact ⟨_, rfl, htrims, rfl, rfl, rfl⟩
      | false => exact ⟨_, rfl, htrims, rfl, rfl, rfl⟩

/-! ## What a read tells -/

/-- What a read tells of what is stored under its key. -/
def told (now : Int64) : Option Bytes → Except Fault (Option String)
  | none => .ok none
  | some row =>
    match decodeEntry row now with
    | .error f => .error f
    | .ok (.live value) => .ok (some value)
    | .ok .expired => .ok none

theorem told_of_isOver {row : Bytes} (h : IsOver now row) : told now (some row) = .ok none := by
  rw [told, decodeEntry_of_isOver h]

theorem fst_get (c : Durable) (now : Int64) (h : Utf8.ofString key ≠ []) :
    (c.get key now).1 = told now (c.row? (Utf8.ofString key)) := by
  have hfind : c.tables.find? (Utf8.ofString key) = .ok (c.row? (Utf8.ofString key)) :=
    Tables.find?_of_ne_nil h
  obtain ⟨removed, tables, hreclaim, -⟩ := Tables.reclaim_eq_ok c.tables now h
  rw [get, hfind]
  cases hrow : c.row? (Utf8.ofString key) with
  | none => rfl
  | some row =>
    simp only [told]
    cases decodeEntry row now with
    | error f => rfl
    | ok reading =>
      cases reading with
      | live value => rfl
      | expired =>
        simp only [hreclaim]
        cases removed with
        | true => rfl
        | false => rfl

theorem fst_get_of_empty (c : Durable) (now : Int64) (h : Utf8.ofString key = []) :
    (c.get key now).1 = .error .badKeyLength := by
  have hfind : c.tables.find? (Utf8.ofString key) = .error .badKeyLength := by
    rw [h]
    rfl
  rw [get, hfind]

theorem fst_get_congr (now : Int64)
    (h : c'.row? (Utf8.ofString key) = c.row? (Utf8.ofString key)) :
    (c'.get key now).1 = (c.get key now).1 := by
  by_cases hkey : Utf8.ofString key = []
  · rw [fst_get_of_empty c now hkey, fst_get_of_empty c' now hkey]
  · rw [fst_get c now hkey, fst_get c' now hkey, h]

/-! ## Removing -/

/-- What removing keys does where none of them is empty. -/
theorem delete_eq_ok {keys : List String} (hkeys : ∀ key ∈ keys, Utf8.ofString key ≠ []) :
    ∃ deleted c', c.delete keys = (.ok deleted, c') ∧
      (∀ k, c'.row? k = if k ∈ keys.map Utf8.ofString then none else c.row? k) ∧
      c'.room = c.room ∧ c'.hits = c.hits ∧ c'.misses = c.misses := by
  have hbytes : ∀ key ∈ keys.map Utf8.ofString, key ≠ [] := by
    intro key hkey
    obtain ⟨k, hk, rfl⟩ := List.mem_map.mp hkey
    exact hkeys k hk
  obtain ⟨deleted, tables, hall, hrows⟩ :=
    Tables.removeAll_eq_ok (t := c.tables) hbytes 0
  refine ⟨deleted, { c with tables }, ?_, hrows, rfl, rfl, rfl⟩
  simp only [delete, hall]

end LikedYou.Durable
