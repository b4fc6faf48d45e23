import LikedYou.Cache.Durable.Tables
import LikedYou.Proofs.Cache.Layout
import LikedYou.Proofs.Cache.Trims

/-!
# What the transactions do to the entries

* `Tables.exists_write_eq_ok_iff`, `Tables.write_eq_mapFull_iff` — when a write succeeds, and when it
  finds the map full
* `Tables.row?_write` — a write changes the entry under its key
* `Tables.removeAll_eq_ok` — a removal changes the entries under its keys
* `Tables.reclaim_eq_ok`, `Tables.trims_purge` — reclaiming and purging remove entries whose time is
  over, whatever the tables hold
-/

namespace LikedYou.Durable

/-- Whether the time of an entry is over. -/
def IsOver (now : Int64) (row : Bytes) : Prop :=
  ∃ expiresAt, entryExpiry? row = some expiresAt ∧ expiresAt ≤ now

theorem IsOver.mono {row : Bytes} {now now' : Int64} (h : IsOver now row) (hle : now ≤ now') :
    IsOver now' row := by
  obtain ⟨expiresAt, hexpiry, hover⟩ := h
  exact ⟨expiresAt, hexpiry, Int64.le_trans hover hle⟩

theorem isOver_of_decodeEntry {row : Bytes} {now : Int64}
    (h : decodeEntry row now = .ok .expired) : IsOver now row :=
  decodeEntry_eq_expired_iff.mp h

theorem decodeEntry_of_isOver {row : Bytes} {now : Int64} (h : IsOver now row) :
    decodeEntry row now = .ok .expired :=
  decodeEntry_eq_expired_iff.mpr h

theorem Room.admits_iff {room : Room} {t : Tables} {key row : Bytes} :
    room.admits t key row = true ↔
      row.length ≤ room.longest ∧ room.hasSpace t key row = true := by
  rw [Room.admits, Bool.and_eq_true, decide_eq_true_eq]

/-- Room for so many bytes of entries, those of their keys included. -/
def Room.ofBytes (capacity : Nat) : Room where
  longest := capacity
  hasSpace t key row :=
    (t.entries.erase key).toList.foldl (fun used (k, r) => used + (k.length + r.length))
      (key.length + row.length) ≤ capacity

namespace Tables

variable {t t' : Tables} {key row : Bytes} {expiresAt now : Int64} {room : Room}

/-- The entry under a key, if there is one. -/
def row? (t : Tables) (key : Bytes) : Option Bytes := t.entries[key]?

theorem row?_erase (entries expiry : Std.ExtTreeMap Bytes Bytes) (key k : Bytes) :
    row? ⟨entries.erase key, expiry⟩ k = if k = key then none else entries[k]? := by
  simp only [row?, Std.ExtTreeMap.getElem?_erase, Std.compare_eq_iff_eq]
  simp only [eq_comm]

theorem row?_insert (entries expiry : Std.ExtTreeMap Bytes Bytes) (key row k : Bytes) :
    row? ⟨entries.insert key row, expiry⟩ k = if k = key then some row else entries[k]? := by
  simp only [row?, Std.ExtTreeMap.getElem?_insert, Std.compare_eq_iff_eq]
  simp only [eq_comm]

theorem contains_of_row? (h : t.row? key = some row) : t.entries.contains key = true := by
  rw [Std.ExtTreeMap.contains_eq_isSome_getElem?]
  exact Option.isSome_iff_exists.mpr ⟨row, h⟩

theorem find?_of_ne_nil (h : key ≠ []) : t.find? key = .ok (t.row? key) := by
  rw [find?, if_neg (by simpa using h)]
  rfl

theorem storable_iff : storable key = true ↔ key ≠ [] ∧ key.length ≤ maxKeyLength := by
  simp only [storable, Bool.and_eq_true, Bool.not_eq_true', List.isEmpty_eq_false_iff,
    decide_eq_true_eq]

/-! ## Removing and writing -/

/-- What removing a key does to the entries. -/
theorem remove_eq_ok (h : key ≠ []) :
    ∃ t', t.remove key = .ok ((t.row? key).isSome, t') ∧
      ∀ k, t'.row? k = if k = key then none else t.row? k := by
  rw [remove, find?_of_ne_nil h]
  cases hrow : t.row? key with
  | none =>
    refine ⟨t, rfl, fun k => ?_⟩
    split
    · next hk => rw [hk, hrow]
    · rfl
  | some row => exact ⟨_, rfl, fun k => row?_erase t.entries _ key k⟩

/-- Whether a row can be stored: its key is neither empty nor too long, also behind an expiry, and
there is room for the row. -/
def Takes (room : Room) (key row : Bytes) (expiresAt : Int64) (t : Tables) : Prop :=
  storable key = true ∧ room.admits t key row = true ∧ storable (indexRow expiresAt key) = true

/-- **When a write succeeds.** What is stored only matters to whether there is room. -/
theorem exists_write_eq_ok_iff :
    (∃ t', t.write room key row expiresAt = .ok t') ↔ t.Takes room key row expiresAt := by
  by_cases hkey : key = []
  · subst hkey
    exact ⟨by rintro ⟨_, ⟨⟩⟩, by rintro ⟨⟨⟩, -⟩⟩
  · obtain ⟨t₁, hremove, -⟩ := remove_eq_ok (t := t) hkey
    rw [write, hremove]
    simp only
    split
    · next h => exact iff_of_false nofun fun htakes => by simp [htakes.1] at h
    split
    · next h => exact iff_of_false nofun fun htakes => by simp [htakes.2.1] at h
    split
    · next h => exact iff_of_false nofun fun htakes => by simp [htakes.2.2] at h
    · next hstorable hroom hindex =>
      exact iff_of_true ⟨_, rfl⟩
        ⟨by simpa using hstorable, by simpa using hroom, by simpa using hindex⟩

/-- **When the map is full.** This is found out after the key was looked at. -/
theorem write_eq_mapFull_iff :
    t.write room key row expiresAt = .error .mapFull ↔
      storable key = true ∧ room.admits t key row = false := by
  by_cases hkey : key = []
  · subst hkey
    exact ⟨nofun, fun h => absurd h.1 (by decide)⟩
  · obtain ⟨t₁, hremove, -⟩ := remove_eq_ok (t := t) hkey
    rw [write, hremove]
    simp only
    split
    · next h => exact iff_of_false nofun fun hfull => by simp [hfull.1] at h
    split
    · next hstorable hroom =>
      exact iff_of_true rfl ⟨by simpa using hstorable, by simpa using hroom⟩
    split
    · next hroom _ => exact iff_of_false nofun fun hfull => by simp [hfull.2] at hroom
    · next hroom _ => exact iff_of_false nofun fun hfull => by simp [hfull.2] at hroom

/-- A key that is not empty is short enough if it is so behind an expiry. -/
theorem takes_iff : t.Takes room key row expiresAt ↔
    key ≠ [] ∧ key.length ≤ 503 ∧ room.admits t key row = true := by
  have hlength := length_indexRow expiresAt key
  constructor
  · rintro ⟨hkey, hroom, hindex⟩
    have hle := (storable_iff.mp hindex).2
    rw [maxKeyLength] at hle
    exact ⟨(storable_iff.mp hkey).1, by omega, hroom⟩
  · rintro ⟨hkey, hle, hroom⟩
    refine ⟨storable_iff.mpr ⟨hkey, ?_⟩, hroom, storable_iff.mpr ⟨?_, ?_⟩⟩
    · rw [maxKeyLength]
      omega
    · exact List.ne_nil_of_length_pos (by omega)
    · rw [maxKeyLength]
      omega

/-- What a write does to the entries, if it does not fail. -/
theorem row?_write (h : t.write room key row expiresAt = .ok t') (k : Bytes) :
    t'.row? k = if k = key then some row else t.row? k := by
  by_cases hkey : key = []
  · subst hkey
    cases h
  · obtain ⟨t₁, hremove, hrows⟩ := remove_eq_ok (t := t) hkey
    rw [write, hremove] at h
    simp only at h
    split at h
    · cases h
    split at h
    · cases h
    split at h
    · cases h
    · cases h
      rw [row?_insert]
      split
      · rfl
      · next hk => exact (hrows k).trans (if_neg hk)

/-- What removing several keys does to the entries. -/
theorem removeAll_eq_ok {keys : List Bytes} (h : ∀ key ∈ keys, key ≠ []) (deleted : Nat) :
    ∃ deleted' t', t.removeAll keys deleted = .ok (deleted', t') ∧
      ∀ k, t'.row? k = if k ∈ keys then none else t.row? k := by
  induction keys generalizing t deleted with
  | nil => exact ⟨deleted, t, rfl, fun k => rfl⟩
  | cons key keys ih =>
    obtain ⟨t₁, hremove, hrows⟩ := remove_eq_ok (t := t) (h key List.mem_cons_self)
    obtain ⟨deleted', t', hall, hrows'⟩ := ih (t := t₁)
      (fun k hk => h k (List.mem_cons_of_mem key hk))
      (if (t.row? key).isSome then deleted + 1 else deleted)
    refine ⟨deleted', t', by rw [removeAll, hremove]; exact hall, fun k => ?_⟩
    rw [hrows', hrows]
    by_cases hk : k = key
    · simp [hk]
    · simp [hk]

/-! ## Reclaiming and purging -/

/-- Reclaiming an entry succeeds, and removes it only if its time is over. -/
theorem reclaim_eq_ok (t : Tables) (now : Int64) (h : key ≠ []) :
    ∃ removed t', t.reclaim key now = .ok (removed, t') ∧ Trims (IsOver now) t.row? t'.row? := by
  rw [reclaim, find?_of_ne_nil h]
  cases hrow : t.row? key with
  | none => exact ⟨false, t, rfl, .refl _ _⟩
  | some row =>
    -- if the row cannot be read or is live, nothing is removed
    have hkept : ∃ removed t', (Except.ok (false, t) : Except Fault (Bool × Tables)) =
        .ok (removed, t') ∧ Trims (IsOver now) t.row? t'.row? := ⟨false, t, rfl, .refl _ _⟩
    cases hread : decodeEntry row now with
    | error f => simpa only [hread] using hkept
    | ok reading =>
      cases reading with
      | live value => simpa only [hread] using hkept
      | expired =>
        obtain ⟨t', hremove, hrows⟩ := remove_eq_ok (t := t) h
        refine ⟨_, t', by simpa only [hread] using hremove, fun k => ?_⟩
        rw [hrows]
        split
        · next hk => exact Or.inr ⟨rfl, row, hk ▸ hrow, isOver_of_decodeEntry hread⟩
        · exact Or.inl rfl

theorem isDue_of_mem_dueAmong {rows : List (Bytes × Bytes)} {due : List Bytes}
    (h : dueAmong now rows = .ok due) {row : Bytes} (hrow : row ∈ due) : isDue now row = true := by
  induction rows generalizing due with
  | nil =>
    cases h
    cases hrow
  | cons r rows ih =>
    obtain ⟨first, load⟩ := r
    rw [dueAmong] at h
    split at h
    · cases h
    · split at h
      · next hdue =>
        -- rows are looked at as long as they are due
        cases hrest : dueAmong now rows with
        | error f => simp [hrest, Except.map] at h
        | ok due' =>
          simp only [hrest, Except.map, Except.ok.injEq] at h
          subst h
          rcases List.mem_cons.mp hrow with rfl | hrow
          · exact hdue
          · exact ih hrest hrow
      · cases h
        cases hrow

/-- Purging index rows that are due removes entries whose time is over. -/
theorem trims_purgeRows {rows : List Bytes} {removed removed' : Nat}
    (hdue : ∀ row ∈ rows, isDue now row = true)
    (h : t.purgeRows rows removed = .ok (removed', t')) :
    Trims (IsOver now) t.row? t'.row? := by
  induction rows generalizing t removed with
  | nil =>
    cases h
    exact .refl _ _
  | cons row rows ih =>
    have hrest : ∀ row ∈ rows, isDue now row = true := fun r hr =>
      hdue r (List.mem_cons_of_mem row hr)
    rw [purgeRows] at h
    cases hsplit : splitIndexRow? row with
    | none =>
      -- a row that describes no entry goes alone
      simp only [hsplit] at h
      exact ih (t := ⟨t.entries, t.expiry.erase row⟩) hrest h
    | some p =>
      obtain ⟨expiresAt, key⟩ := p
      simp only [hsplit] at h
      split at h
      · cases h
      · next entry hfind =>
        split at h
        · next hcurrent =>
          -- the entry that the index row describes
          refine .trans (fun k => ?_) (ih hrest h)
          rw [row?_erase]
          split
          · next hk =>
            obtain ⟨e, rfl, hexpiry⟩ := Option.bind_eq_some_iff.mp hcurrent
            have hkey : key ≠ [] := by
              rintro rfl
              cases hfind
            rw [find?_of_ne_nil hkey] at hfind
            have hover : expiresAt ≤ now := by
              have hrow := hdue row List.mem_cons_self
              rw [isDue, hsplit] at hrow
              simpa using hrow
            exact Or.inr ⟨rfl, e, hk ▸ Except.ok.inj hfind, expiresAt, hexpiry, hover⟩
          · exact Or.inl rfl
        · exact ih (t := ⟨t.entries, t.expiry.erase row⟩) hrest h

/-- **Purging removes entries whose time is over, and no others, whatever the tables hold.** -/
theorem trims_purge {removed : Nat} (h : t.purge now = .ok (removed, t')) :
    Trims (IsOver now) t.row? t'.row? := by
  unfold purge at h
  split at h
  · cases h
  · next rows hrows => exact trims_purgeRows (fun row hrow => isDue_of_mem_dueAmong hrows hrow) h

end Tables

end LikedYou.Durable
