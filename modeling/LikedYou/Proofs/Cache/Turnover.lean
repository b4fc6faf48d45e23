import LikedYou.Proofs.Cache.AnyTime
import LikedYou.Proofs.Cache.Counters

/-!
# How entries come and go

* `Backend.Sheds` — entries whose time is over may have gone, each of them counted as an eviction
* `Backend.sheds_get`, `Backend.sheds_atWrite`, `Backend.sheds_purged` — what goes by itself in a call
* `Backend.set_cases` — a write puts an entry in place of what is under its key
* `Backend.delete_cases` — a removal drops the entries under its keys
* `Backend.reads_get` — a read is a hit or a miss

These are the laws of both kinds of caches in the words of one ledger, which tells the last write under
each key.
-/

namespace LikedYou

open Twins (Written noted noted_set noted_delete)

namespace Backend

/-! ## What is counted and what is stored -/

def hits : Backend → Nat
  | .volatile c => c.hits
  | .durable c => c.hits

def misses : Backend → Nat
  | .volatile c => c.misses
  | .durable c => c.misses

def evictions : Backend → Nat
  | .volatile c => c.evictions
  | .durable c => c.evictions

/-- How many entries are stored. -/
def size : Backend → Nat
  | .volatile c => c.entries.size
  | .durable c => c.tables.entries.size

/-- Whether there is an entry under a key. -/
def has (key : String) : Backend → Bool
  | .volatile c => c.entries.contains key
  | .durable c => c.has key

/-- Whether the time of a write is over. A durable cache takes the milliseconds that have begun. -/
def IsOver (clock : Time.Clock) (w : Written) : Backend → Prop
  | .volatile _ => w.since.running + w.ttl ≤ clock.running
  | .durable _ => w.since.wall / 1000000 + w.ttl.millis ≤ clock.wall / 1000000

/-- Whether every entry is that of the last write under its key. -/
def Holds (ledger : String → Option Written) (c : Backend) : Prop :=
  c.Within fun key w => ledger key = some w

/-- Whether the tables of a durable cache are in step. -/
def Sound : Backend → Prop
  | .volatile _ => True
  | .durable c => c.Indexed

variable {c c' : Backend} {clock : Time.Clock} {key value : String} {ttl : Time.Duration}
  {ledger : String → Option Written}

theorem stats_eq (c : Backend) :
    Cache.stats c = .ok ⟨.ofNat c.hits, .ofNat c.misses, .ofNat c.size, .ofNat c.evictions⟩ := by
  cases c with
  | volatile c => rfl
  | durable c => rfl

/-! ## What goes by itself -/

/-- Whether a cache is what is left of another one when entries went by themselves. -/
structure Sheds (clock : Time.Clock) (ledger : String → Option Written) (c c' : Backend) : Prop where
  holds : c'.Holds ledger
  /-- Nothing comes. -/
  old : ∀ key, c'.has key = true → c.has key = true
  /-- What goes is over. -/
  elapsed : ∀ key, c.has key = true → c'.has key = false →
    ∃ w, ledger key = some w ∧ c.IsOver clock w
  /-- What goes is counted. -/
  counted : c'.evictions + c'.size = c.evictions + c.size

theorem Sheds.refl (h : c.Holds ledger) : c.Sheds clock ledger c := by
  refine ⟨h, fun _ hkey => hkey, fun key hkey hgone => ?_, rfl⟩
  rw [hkey] at hgone
  cases hgone

theorem Sheds.volatile {c c' : Volatile} (h : (Backend.volatile c).Holds ledger)
    (htrims : Trims (Volatile.IsOver clock) c.held? c'.held?)
    (hcounted : c'.evictions + c'.entries.size = c.evictions + c.entries.size) :
    Sheds clock ledger (.volatile c) (.volatile c') := by
  refine ⟨Volatile.Within.of_trims h htrims, fun key hkey => ?_, fun key hkey hgone => ?_, hcounted⟩
  · obtain ⟨entry, hentry⟩ := Volatile.contains_iff.mp hkey
    exact Volatile.contains_iff.mpr ⟨entry, htrims.eq_some hentry⟩
  · obtain ⟨entry, hentry⟩ := Volatile.contains_iff.mp hkey
    obtain ⟨w, hw, rfl⟩ := h key entry hentry
    rcases htrims key with hsame | ⟨-, entry, hentry', hover⟩
    · have hthere : c'.entries.contains key = true :=
        Volatile.contains_iff.mpr ⟨_, hsame.trans hentry⟩
      rw [has, hthere] at hgone
      cases hgone
    · rw [hentry] at hentry'
      cases hentry'
      exact ⟨w, hw, hover⟩

theorem Sheds.durable {c c' : Durable} (h : (Backend.durable c).Holds ledger)
    (hclock : clock.Readable) (htrims : Trims (Durable.IsOver clock.millisecond) c.row? c'.row?)
    (hcounted : c'.evictions + c'.tables.entries.size = c.evictions + c.tables.entries.size) :
    Sheds clock ledger (.durable c) (.durable c') := by
  refine ⟨fun bytes row hrow => h bytes row (htrims.eq_some hrow), fun key hkey => ?_,
    fun key hkey hgone => ?_, hcounted⟩
  · obtain ⟨row, hrow⟩ := Durable.has_iff.mp hkey
    exact Durable.has_iff.mpr ⟨row, htrims.eq_some hrow⟩
  · obtain ⟨row, hrow⟩ := Durable.has_iff.mp hkey
    obtain ⟨key', w, hbytes, hw, hsince, rfl⟩ := h _ row hrow
    obtain rfl := Utf8.ofString_injective hbytes
    rcases htrims (Utf8.ofString key) with hsame | ⟨-, row, hrow', expiresAt, hexpiry, hle⟩
    · have hthere : c'.has key = true := Durable.has_iff.mpr ⟨_, hsame.trans hrow⟩
      rw [has, hthere] at hgone
      cases hgone
    · rw [hrow] at hrow'
      cases hrow'
      rw [Written.row, Durable.entryExpiry?_encodeEntry] at hexpiry
      cases hexpiry
      exact ⟨w, hw, (Written.isOver_iff hsince hclock).mp hle⟩

/-- A durable cache that has the same tables. -/
theorem Sheds.of_tables_eq {c c' : Durable} (h : (Backend.durable c).Holds ledger)
    (htables : c'.tables = c.tables) (hevictions : c'.evictions = c.evictions) :
    Sheds clock ledger (.durable c) (.durable c') := by
  have hhas : ∀ key, c'.has key = c.has key := fun key => by rw [Durable.has, htables, Durable.has]
  refine ⟨fun bytes row hrow => h bytes row ?_, fun key hkey => (hhas key).symm.trans hkey,
    fun key hkey hgone => ?_, ?_⟩
  · rwa [Durable.row?, htables] at hrow
  · rw [has, hhas key] at hgone
    rw [has, hgone] at hkey
    cases hkey
  · rw [evictions, hevictions, size, htables]
    rfl

/-- A read removes at most the entry that it finds to be over. -/
theorem sheds_get (h : c.Holds ledger) (key : String) (clock : Time.Clock) :
    c.Sheds clock ledger (Cache.get key clock c).2 := by
  cases c with
  | volatile c => exact .volatile h (c.trims_get key clock) (c.counted_get key clock)
  | durable c =>
    show Sheds clock ledger (.durable c) (.durable (c.getByClock key clock).2)
    unfold Durable.getByClock
    cases hmillis : clock.millis with
    | ok now =>
      obtain ⟨hclock, rfl⟩ := Time.Clock.readable_of_millis hmillis
      exact .durable h hclock (c.trims_get key _) (c.counted_get key _)
    | error b =>
      simp only
      split
      · exact .refl h
      · next hnot =>
        -- there is no entry, so nothing goes
        have htables := Durable.tables_get_of_not_has (Bool.eq_false_iff.mpr hnot) 0
        have hcounted := c.counted_get key 0
        rw [htables] at hcounted
        exact .of_tables_eq h htables (Nat.add_right_cancel hcounted)

/-- What a purge leaves. -/
def purged (clock : Time.Clock) : Backend → Backend
  | .volatile c => .volatile (c.purge clock).2
  | .durable c => .durable (c.serve clock .purge)

theorem sheds_purged (h : c.Holds ledger) (hsound : c.Sound) (clock : Time.Clock) :
    c.Sheds clock ledger (c.purged clock) := by
  cases c with
  | volatile c =>
    exact .volatile h (Volatile.reclaimed_purge clock c).trims (c.counted_purge clock)
  | durable c =>
    show Sheds clock ledger (.durable c) (.durable (c.serve clock .purge))
    cases hmillis : clock.millis with
    | ok now =>
      obtain ⟨hclock, rfl⟩ := Time.Clock.readable_of_millis hmillis
      have hswept := Durable.Swept.purge hsound clock.millisecond
      rw [Durable.serve_of_millis hmillis]
      exact .durable h hclock hswept.trims hswept.counted
    | error b =>
      rw [Durable.serve_purge_of_error hmillis]
      exact .refl h

/-! ## Writes -/

/-- The cache when a write puts its entry into it: what goes by itself in the same call is gone. -/
def atWrite (key value : String) (ttl : Time.Duration) (clock : Time.Clock) : Backend → Backend
  | .volatile c =>
    .volatile (if Volatile.clockEnd ≤ clock.running + ttl then c else c.swept clock)
  | .durable c =>
    .durable <|
      match clock.millis with
      | .ok now => c.atWrite key value ttl now
      | .error _ => { c with writes := c.writes + 1 }

theorem sheds_atWrite (h : c.Holds ledger) (hsound : c.Sound) (key value : String)
    (ttl : Time.Duration) (clock : Time.Clock) :
    c.Sheds clock ledger (c.atWrite key value ttl clock) := by
  unfold atWrite
  cases c with
  | volatile c =>
    simp only
    split
    · exact .refl h
    · exact .volatile h (Volatile.reclaimed_swept clock c).trims (c.counted_swept clock)
  | durable c =>
    cases hmillis : clock.millis with
    | ok now =>
      obtain ⟨hclock, rfl⟩ := Time.Clock.readable_of_millis hmillis
      have hswept := Durable.Swept.atWrite hsound key value ttl clock.millisecond
      exact .durable h hclock hswept.trims hswept.counted
    | error b => exact .of_tables_eq h rfl rfl

/-- Whether a cache is another one with an entry in place of what was under its key. -/
structure Puts (clock : Time.Clock) (key value : String) (ttl : Time.Duration) (c c' : Backend) :
    Prop where
  holds : ∀ ledger, c.Holds ledger → c'.Holds (noted clock ledger (.set key value ttl))
  has : ∀ k, c'.has k = true ↔ k = key ∨ c.has k = true
  size : c'.size = if c.has key then c.size else c.size + 1
  evictions : c'.evictions = c.evictions
  hits : c'.hits = c.hits
  misses : c'.misses = c.misses

theorem Puts.volatile (c : Volatile) (clock : Time.Clock) (key value : String)
    (ttl : Time.Duration) : Puts clock key value ttl (.volatile c) (.volatile { c with
      entries := c.entries.insert key (value, clock.running + ttl) }) where
  holds ledger h := by
    intro k entry hentry
    simp only [Volatile.held?, Std.ExtTreeMap.getElem?_insert, Std.compare_eq_iff_eq] at hentry
    split at hentry
    · next hk =>
      cases hentry
      exact ⟨⟨value, clock, ttl⟩, if_pos hk.symm, rfl⟩
    · next hk =>
      obtain ⟨w, hw, hwritten⟩ := h k entry hentry
      exact ⟨w, (if_neg (Ne.symm hk)).trans hw, hwritten⟩
  has k := by
    rw [Backend.has, Std.ExtTreeMap.contains_insert, Bool.or_eq_true, beq_iff_eq,
      Std.compare_eq_iff_eq]
    exact or_congr_left eq_comm
  size := Std.ExtTreeMap.size_insert
  evictions := rfl
  hits := rfl
  misses := rfl

theorem Puts.durable {c c' : Durable} (hclock : clock.Readable)
    (h : c.write key value (Durable.expiryAfter ttl clock.millisecond) = .ok c') :
    Puts clock key value ttl (.durable c) (.durable c') := by
  unfold Durable.write at h
  simp only at h
  split at h
  · cases h
  · next tables hwrite =>
    cases h
    have hentries := Durable.Tables.entries_write hwrite
    refine ⟨fun ledger hholds bytes row hrow => ?_, fun k => ?_, ?_, rfl, rfl, rfl⟩
    · have hrow' := (Durable.Tables.row?_write hwrite bytes).symm.trans hrow
      split at hrow'
      · next hbytes =>
        cases hrow'
        exact ⟨key, ⟨value, clock, ttl⟩, hbytes, if_pos rfl, hclock, rfl⟩
      · next hbytes =>
        obtain ⟨k, w, rfl, hw, hwritten⟩ := hholds bytes row hrow'
        refine ⟨k, w, rfl, (if_neg ?_).trans hw, hwritten⟩
        rintro rfl
        exact hbytes rfl
    · rw [Backend.has, Durable.has, hentries, Std.ExtTreeMap.contains_insert, Bool.or_eq_true,
        beq_iff_eq, Std.compare_eq_iff_eq]
      exact or_congr_left
        ⟨fun he => (Utf8.ofString_injective he).symm, fun he => congrArg Utf8.ofString he.symm⟩
    · simp only [Backend.size, hentries]
      exact Std.ExtTreeMap.size_insert

/-- **A write puts its entry into what it left**, or fails and leaves that. -/
theorem set_cases (c : Backend) (key value : String) (ttl : Time.Duration) (clock : Time.Clock) :
    (∃ c', Cache.set key value ttl clock c = (.ok (), c') ∧
      (c.atWrite key value ttl clock).Puts clock key value ttl c') ∨
    ∃ f, Cache.set key value ttl clock c = (.error f, c.atWrite key value ttl clock) := by
  cases c with
  | volatile c =>
    have hset : Cache.set key value ttl clock (Backend.volatile c) =
      ((c.set key value ttl clock).1, .volatile (c.set key value ttl clock).2) := rfl
    rw [hset, atWrite]
    by_cases hend : Volatile.clockEnd ≤ clock.running + ttl
    · rw [Volatile.set, if_pos hend, if_pos hend]
      exact Or.inr ⟨_, rfl⟩
    · rw [c.set_eq_insert key value (Nat.not_le.mp hend), if_neg hend]
      exact Or.inl ⟨_, rfl, .volatile _ clock key value ttl⟩
  | durable c =>
    have hset : Cache.set key value ttl clock (Backend.durable c) =
      ((c.setByClock key value ttl clock).1, .durable (c.setByClock key value ttl clock).2) := rfl
    rw [hset, atWrite]
    cases hmillis : clock.millis with
    | ok now =>
      obtain ⟨hclock, rfl⟩ := Time.Clock.readable_of_millis hmillis
      rw [Durable.setByClock_of_millis hmillis]
      rcases c.set_cases_atWrite key value ttl clock.millisecond with
        ⟨c', hwrite, hdone⟩ | ⟨-, f, -, hdone⟩
      · rw [hdone]
        exact Or.inl ⟨_, rfl, .durable hclock hwrite⟩
      · rw [hdone]
        exact Or.inr ⟨_, rfl⟩
    | error b =>
      rw [Durable.setByClock, hmillis]
      exact Or.inr ⟨_, rfl⟩

/-! ## Removals -/

/-- Whether a cache is another one without the entries under some keys, which were so many. -/
structure Drops (keys : List String) (deleted : Nat) (c c' : Backend) : Prop where
  holds : ∀ clock ledger, c.Holds ledger → c'.Holds (noted clock ledger (.delete keys))
  has : ∀ k, c'.has k = true ↔ k ∉ keys ∧ c.has k = true
  size : deleted + c'.size = c.size
  evictions : c'.evictions = c.evictions
  hits : c'.hits = c.hits
  misses : c'.misses = c.misses

theorem Drops.volatile (c : Volatile) (keys : List String) :
    Drops keys (c.delete keys).1 (.volatile c) (.volatile (c.delete keys).2) := by
  obtain ⟨hentries, hhits, hmisses⟩ := c.held?_delete keys
  obtain ⟨hcounted, hevictions⟩ := c.counted_delete keys
  refine ⟨fun clock ledger h k entry hentry => ?_, fun k => ?_, hcounted, hevictions, hhits, hmisses⟩
  · rw [hentries] at hentry
    split at hentry
    · cases hentry
    · next hk =>
      obtain ⟨w, hw, hwritten⟩ := h k entry hentry
      exact ⟨w, (if_neg hk).trans hw, hwritten⟩
  · rw [Backend.has, Volatile.contains_iff, Backend.has, Volatile.contains_iff, hentries]
    by_cases hk : k ∈ keys
    · simp [hk]
    · simp [hk]

theorem Drops.durable {c c' : Durable} {keys : List String} {deleted : Nat}
    (hkeys : ∀ key ∈ keys, Utf8.ofString key ≠ []) (h : c.delete keys = (.ok deleted, c')) :
    Drops keys deleted (.durable c) (.durable c') := by
  obtain ⟨hcounted, hevictions⟩ := Durable.counted_delete h
  obtain ⟨_, _, hdelete, hrows, -, hhits, hmisses⟩ := Durable.delete_eq_ok (c := c) hkeys
  rw [h] at hdelete
  cases hdelete
  refine ⟨fun clock ledger hholds bytes row hrow => ?_, fun k => ?_, hcounted, hevictions, hhits,
    hmisses⟩
  · rw [hrows] at hrow
    split at hrow
    · cases hrow
    · next hbytes =>
      obtain ⟨k, w, rfl, hw, hwritten⟩ := hholds bytes row hrow
      exact ⟨k, w, rfl, (if_neg (mt Utf8.ofString_mem_map_iff.mpr hbytes)).trans hw, hwritten⟩
  · rw [Backend.has, Durable.has_iff, Backend.has, Durable.has_iff, hrows]
    by_cases hk : k ∈ keys
    · simp [Utf8.ofString_mem_map_iff, hk]
    · simp [Utf8.ofString_mem_map_iff, hk]

/-- A removal drops its keys, or fails and leaves everything. -/
theorem delete_cases (c : Backend) (keys : List String) :
    (∃ deleted c', Cache.delete keys c = (.ok deleted, c') ∧ c.Drops keys deleted c') ∨
    ∃ f, Cache.delete keys c = (.error f, c) := by
  cases c with
  | volatile c => exact Or.inl ⟨_, _, rfl, .volatile c keys⟩
  | durable c =>
    have hdelete : Cache.delete keys (Backend.durable c) =
      ((c.delete keys).1.mapError Durable.Fault.toStorage, .durable (c.delete keys).2) := rfl
    rw [hdelete]
    rcases c.delete_cases keys with ⟨-, hfailed⟩ | ⟨hempty, deleted, c', hdone, -⟩
    · rw [hfailed]
      exact Or.inr ⟨_, rfl⟩
    · rw [hdone]
      refine Or.inl ⟨_, _, rfl, .durable (fun key hkey hnil => ?_) hdone⟩
      exact hempty (Durable.ofString_eq_nil_iff.mp hnil ▸ hkey)

/-! ## Reads -/

/-- How many answers a call gave: none if it broke down. -/
def answers {α : Type} : Except OperationFault α → Nat
  | .error (.breakdown _) => 0
  | _ => 1

theorem answers_mapError {α : Type} (x : Except Durable.Fault α) :
    answers (x.mapError Durable.Fault.toOperation) = 1 := by
  cases x with
  | ok a => rfl
  | error f => rfl

/-- A read that gives an answer is a hit or a miss, and a hit if there is a text in it. -/
theorem reads_get (c : Backend) (key : String) (clock : Time.Clock) :
    (Cache.get key clock c).2.hits = c.hits + texts (Cache.get key clock c).1 ∧
      (Cache.get key clock c).2.hits + (Cache.get key clock c).2.misses =
        c.hits + c.misses + answers (Cache.get key clock c).1 := by
  cases c with
  | volatile c => exact c.reads_get key clock
  | durable c =>
    have hget : Cache.get key clock (Backend.durable c) =
      ((c.getByClock key clock).1, .durable (c.getByClock key clock).2) := rfl
    rw [hget]
    unfold Durable.getByClock
    have hread : ∀ now, (c.get key now).2.hits =
        c.hits + texts ((c.get key now).1.mapError Durable.Fault.toOperation) ∧
          (c.get key now).2.hits + (c.get key now).2.misses =
            c.hits + c.misses + answers ((c.get key now).1.mapError Durable.Fault.toOperation) := by
      intro now
      rw [texts_mapError, answers_mapError]
      exact c.reads_get key now
    cases clock.millis with
    | ok now => exact hread now
    | error b =>
      simp only
      split
      · exact ⟨rfl, rfl⟩
      · exact hread 0

theorem reads_purged (c : Backend) (clock : Time.Clock) :
    (c.purged clock).hits = c.hits ∧ (c.purged clock).misses = c.misses := by
  cases c with
  | volatile c => exact ⟨rfl, rfl⟩
  | durable c =>
    cases hmillis : clock.millis with
    | ok now =>
      have hreclaimed := Durable.reclaimed_purge c now
      rw [purged, Durable.serve_of_millis hmillis]
      exact ⟨hreclaimed.hits, hreclaimed.misses⟩
    | error b =>
      rw [purged, Durable.serve_purge_of_error hmillis]
      exact ⟨rfl, rfl⟩

theorem reads_atWrite (hsound : c.Sound) (key value : String) (ttl : Time.Duration)
    (clock : Time.Clock) :
    (c.atWrite key value ttl clock).hits = c.hits ∧
      (c.atWrite key value ttl clock).misses = c.misses := by
  unfold atWrite
  cases c with
  | volatile c =>
    simp only
    split
    · exact ⟨rfl, rfl⟩
    · have hreclaimed := Volatile.reclaimed_swept clock c
      exact ⟨hreclaimed.hits, hreclaimed.misses⟩
  | durable c =>
    cases hmillis : clock.millis with
    | ok now =>
      have hswept := Durable.Swept.atWrite hsound key value ttl now
      exact ⟨hswept.hits, hswept.misses⟩
    | error b => exact ⟨rfl, rfl⟩

/-! ## The tables -/

namespace Sound

theorem get (h : c.Sound) (key : String) (clock : Time.Clock) :
    (Cache.get key clock c).2.Sound := by
  cases c with
  | volatile c => trivial
  | durable c => exact Durable.Indexed.serve h clock (.get key)

theorem set (h : c.Sound) (key value : String) (ttl : Time.Duration) (clock : Time.Clock) :
    (Cache.set key value ttl clock c).2.Sound := by
  cases c with
  | volatile c => trivial
  | durable c => exact Durable.Indexed.serve h clock (.set key value ttl)

theorem delete (h : c.Sound) (keys : List String) : (Cache.delete keys c).2.Sound := by
  cases c with
  | volatile c => trivial
  | durable c => exact Durable.Indexed.serve h ⟨0, 0⟩ (.delete keys)

theorem purged (h : c.Sound) (clock : Time.Clock) : (c.purged clock).Sound := by
  cases c with
  | volatile c => trivial
  | durable c => exact Durable.Indexed.serve h clock .purge

end Sound

end Backend

end LikedYou
