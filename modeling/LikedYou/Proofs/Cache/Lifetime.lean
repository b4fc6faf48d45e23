import LikedYou.Proofs.Cache.Calls
import LikedYou.Proofs.Cache.Turnover
import LikedYou.Proofs.Decimal.Numeral

/-!
# How long texts are kept

* `Backend.run` — calls of a cache of either kind, each by a clock of its own
* `Backend.Stores` — whether what is stored under a key is a given write
* `Backend.Stores.serve`, `Backend.Stores.run` — a write stays stored until its time is over or
  something else changes it
* `Backend.Caches` — whether a text can be written, and then be read until its time is over
* `Backend.caches_iff` — which lengths of time a cache can keep texts for

Where a durable cache cannot tell when the time of a text will be over, it takes the last millisecond
that it can tell. A cache in memory does nothing of the kind: there the write breaks down.
-/

namespace LikedYou

open Twins (Written IsKey)
open Durable (Call)

theorem Environment.size_of_digits {env : Environment} {name : String} {default : Nat} (n : UInt64)
    (h : env.lookup name = some (String.ofList (Decimal.digits n.toNat))) :
    env.size name default = n.toNat := by
  have hle : n.toNat ≤ UInt64.size - 1 := Nat.le_sub_one_of_lt n.toNat_lt
  rw [size, number, h, Option.bind_some, Decimal.ofSetting?_digits hle]
  rfl

namespace Backend

variable {c c' : Backend} {clock : Time.Clock} {key value : String} {ttl : Time.Duration}
  {w : Written} {call : Call} {calls : List (Time.Clock × Call)}

/-! ## Calls -/

/-- The cache after a call. -/
def serve (clock : Time.Clock) : Backend → Call → Backend
  | .volatile c, call => .volatile (c.serve clock call)
  | .durable c, call => .durable (c.serve clock call)

/-- The cache after calls, each of which comes with what the clock shows then. -/
def run (c : Backend) (calls : List (Time.Clock × Call)) : Backend :=
  calls.foldl (fun c next => c.serve next.1 next.2) c

/-- The kind of a cache decides when a time is over, and no call changes it. -/
theorem isOver_serve (c : Backend) (clock clock' : Time.Clock) (call : Call) (w : Written) :
    (c.serve clock call).IsOver clock' w ↔ c.IsOver clock' w := by
  cases c with
  | volatile c => exact Iff.rfl
  | durable c => exact Iff.rfl

/-! ## What is stored -/

/-- Whether what is stored under a key is a given write. -/
def Stores (key : String) (w : Written) : Backend → Prop
  | .volatile c => c.held? key = some w.entry
  | .durable c => c.row? (Utf8.ofString key) = some w.row

theorem not_isOver_row (h : ¬ w.IsOver clock) : ¬ Durable.IsOver clock.millisecond w.row := by
  rintro ⟨expiresAt, hexpiry, hle⟩
  rw [Written.row, Durable.entryExpiry?_encodeEntry] at hexpiry
  cases hexpiry
  exact h hle

namespace Stores

/-- **A write stays stored until its time is over, unless a call changes it.** -/
theorem serve (h : c.Stores key w) (hsince : w.since.Readable) (hclock : clock.Readable)
    (hlive : ¬ c.IsOver clock w) (hnot : ¬ Changes clock c key call) :
    (c.serve clock call).Stores key w := by
  cases c with
  | volatile c =>
    refine Volatile.held?_serve h hlive fun hchanges => hnot ?_
    -- a cache of either kind answers what the cache in it answers
    cases call with
    | _ => exact hchanges
  | durable c =>
    have hlive' : ¬ w.IsOver clock := mt (Written.isOver_iff hsince hclock).mp hlive
    refine Durable.row?_serve hclock h (not_isOver_row hlive') fun hchanges => hnot ?_
    cases call with
    | _ => exact hchanges

/-- A write stays stored in a run. -/
theorem run (h : c.Stores key w) (hsince : w.since.Readable)
    (htimes : ∀ next ∈ calls, next.1.Readable ∧ ¬ c.IsOver next.1 w)
    (hnot : ¬ ChangedIn Backend.serve c calls key) :
    (c.run calls).Stores key w ∧ ∀ clock, (c.run calls).IsOver clock w ↔ c.IsOver clock w := by
  refine foldl_of_not_sometime
    (K := fun c' => c'.Stores key w ∧ ∀ clock, c'.IsOver clock w ↔ c.IsOver clock w)
    ?_ hnot ⟨h, fun _ => Iff.rfl⟩
  intro c' next hnext ⟨hstores, hsame⟩ hnot
  obtain ⟨hclock, hlive⟩ := htimes next hnext
  refine ⟨hstores.serve hsince hclock (mt (hsame _).mp hlive) hnot, fun clock => ?_⟩
  exact (c'.isOver_serve next.1 clock next.2 w).trans (hsame clock)

/-- **What is stored is read until its time is over.** -/
theorem get (h : c.Stores key w) (hkey : IsKey key) (hsince : w.since.Readable)
    (hclock : clock.Readable) (hlive : ¬ c.IsOver clock w) :
    (Cache.get key clock c).1 = .ok (some w.value) := by
  cases c with
  | volatile c =>
    have hentry : c.held? key = some w.entry := h
    refine (c.fst_get key clock).trans (congrArg Except.ok ?_)
    rw [hentry, Option.bind_some]
    exact if_pos (Nat.not_le.mp hlive)
  | durable c =>
    have hrow : c.row? (Utf8.ofString key) = some w.row := h
    have hlive' : ¬ Durable.expiryAfter w.ttl w.since.millisecond ≤ clock.millisecond :=
      mt (Written.isOver_iff hsince hclock).mp hlive
    show (c.getByClock key clock).1 = .ok (some w.value)
    rw [Durable.getByClock_of_millis (Time.Clock.millis_of_readable hclock), c.fst_get _ hkey.1,
      hrow, Durable.told, Written.row, Durable.decodeEntry_encodeEntry, if_neg hlive']
    rfl

end Stores

/-! ## What can be kept -/

/-- Whether there is room for what is to be written. In memory there always is. -/
def HasRoom (key value : String) (ttl : Time.Duration) (clock : Time.Clock) : Backend → Prop
  | .volatile _ => True
  | .durable c => c.HasRoom key value ttl clock.millisecond

/-- Whether a write can tell when the time of its entry will be over. A durable cache takes its last
millisecond where it cannot. -/
def TellsExpiry (clock : Time.Clock) (ttl : Time.Duration) : Backend → Prop
  | .volatile _ => clock.running + ttl < Volatile.clockEnd
  | .durable _ => True

/-- Whether a text can be kept: the write succeeds, and after any calls that change nothing under the
key, all of them before the time is over, a read gives the text as long as the time is not over. -/
def Caches (key value : String) (ttl : Time.Duration) (clock : Time.Clock) (c : Backend) : Prop :=
  ∃ c', Cache.set key value ttl clock c = (.ok (), c') ∧
    ∀ calls clock', clock'.Readable → ¬ c'.IsOver clock' ⟨value, clock, ttl⟩ →
      (∀ next ∈ calls, next.1.Readable ∧ ¬ c'.IsOver next.1 ⟨value, clock, ttl⟩) →
      ¬ ChangedIn serve c' calls key →
        (Cache.get key clock' (c'.run calls)).1 = .ok (some value)

/-- A write stores its entry if it can tell when its time will be over. -/
theorem set_eq_ok (hkey : IsKey key) (hroom : c.HasRoom key value ttl clock) (hclock : clock.Readable)
    (h : c.TellsExpiry clock ttl) :
    ∃ c', Cache.set key value ttl clock c = (.ok (), c') ∧ c'.Stores key ⟨value, clock, ttl⟩ := by
  cases c with
  | volatile c =>
    obtain ⟨c', hset, hentries, -⟩ := c.set_eq_ok key value h
    refine ⟨.volatile c', ?_, (hentries key).trans (if_pos rfl)⟩
    show ((c.set key value ttl clock).1, Backend.volatile (c.set key value ttl clock).2) = _
    rw [hset]
  | durable c =>
    obtain ⟨c', hset, hrows, -⟩ := c.set_eq_ok (hkey.accepts hroom)
    refine ⟨.durable c', ?_, (hrows _).trans (if_pos rfl)⟩
    show ((c.setByClock key value ttl clock).1,
      Backend.durable (c.setByClock key value ttl clock).2) = _
    rw [Durable.setByClock_of_millis (Time.Clock.millis_of_readable hclock), hset]
    rfl

/-- A write breaks down if it cannot tell when the time of its entry will be over, and leaves all. -/
theorem set_eq_error (key value : String) (h : ¬ c.TellsExpiry clock ttl) :
    Cache.set key value ttl clock c = (.error (.breakdown .beyondClock), c) := by
  cases c with
  | volatile c =>
    show ((c.set key value ttl clock).1, Backend.volatile (c.set key value ttl clock).2) = _
    rw [c.set_eq_error key value (Nat.not_lt.mp h)]
  | durable c => exact absurd trivial h

/-- **Which lengths of time a cache can keep texts for.** The settings admit every number of seconds of
64 bits. Whatever is stored, a text for which there is room can be kept for it under a key of at most
503 bytes
* in a durable cache: always, by the milliseconds that have begun;
* in memory: if and only if the running clock can tell when the time is over.

That a sweep breaks down as well in the last minute that the running clock can tell is left out. -/
theorem caches_iff (c : Backend) (n : UInt64) (hkey : IsKey key)
    (hroom : c.HasRoom key value (.ofSeconds n.toNat) clock) (hclock : clock.Readable) :
    (∀ (env : Environment) (name : String) (default : Nat),
      env.lookup name = some (String.ofList (Decimal.digits n.toNat)) →
        env.size name default = n.toNat) ∧
    (c.Caches key value (.ofSeconds n.toNat) clock ↔ c.TellsExpiry clock (.ofSeconds n.toNat)) := by
  refine ⟨fun _ _ _ => Environment.size_of_digits n, ?_, ?_⟩
  · rintro ⟨c', hset, -⟩
    by_contra hnot
    rw [set_eq_error key value hnot] at hset
    cases hset
  · intro htells
    obtain ⟨c', hset, hstores⟩ := set_eq_ok hkey hroom hclock htells
    refine ⟨c', hset, ?_⟩
    intro calls clock' hclock' hlive htimes hnot
    obtain ⟨hstores', hsame⟩ := hstores.run hclock htimes hnot
    exact hstores'.get hkey hclock hclock' (mt (hsame clock').mp hlive)

/-- What a durable cache can keep, a cache in memory cannot. -/
theorem caches_iff_longest :
    let longest : Time.Duration := .ofSeconds (18446744073709551615 : UInt64).toNat
    let clock := Time.Clock.start 0 0
    IsKey "a" ∧ clock.Readable ∧
      (empty .durable (.ofBytes 10)).HasRoom "a" "x" longest clock ∧
      (empty .durable (.ofBytes 10)).Caches "a" "x" longest clock ∧
      (empty .memory (.ofBytes 10)).HasRoom "a" "x" longest clock ∧
      ¬ (empty .memory (.ofBytes 10)).Caches "a" "x" longest clock := by
  intro longest clock
  have hkey : IsKey "a" := by decide
  have hclock : clock.Readable := ⟨by decide, by decide⟩
  have hroom : (empty .durable (.ofBytes 10)).HasRoom "a" "x" longest clock := by
    show (Durable.new (.ofBytes 10)).HasRoom "a" "x" longest clock.millisecond
    decide +kernel
  have hroom' : (empty .memory (.ofBytes 10)).HasRoom "a" "x" longest clock := trivial
  have hdurable := (caches_iff (empty .durable (.ofBytes 10)) 18446744073709551615 hkey hroom
    hclock).2
  have hmemory := (caches_iff (empty .memory (.ofBytes 10)) 18446744073709551615 hkey hroom'
    hclock).2
  have hbeyond : Volatile.clockEnd ≤ clock.running + longest := by decide +kernel
  refine ⟨hkey, hclock, hroom, hdurable.mpr trivial, hroom', fun hcaches => ?_⟩
  exact absurd (hmemory.mp hcaches) (Nat.not_lt.mpr hbeyond)

end Backend

/-- The settings admit a length of time for which nothing can be kept in memory: the write of a count
breaks down. A durable cache takes it. -/
theorem longest_breaks_down :
    let ttl := (CacheSettings.ofEnvironment
      [("EXPLORE_CACHE_TTL_COUNT_SECS", "18446744073709551615")]).ttls.count
    let clock := Time.Clock.start 0 0
    ttl = .ofSeconds 18446744073709551615 ∧
      Cache.set "a" "x" ttl clock Volatile.empty = (.error (.breakdown .beyondClock), .empty) ∧
      ¬ (Backend.volatile .empty).Caches "a" "x" ttl clock ∧
      (Cache.set "a" "x" ttl clock (Durable.empty 1)).1 = .ok () := by
  intro ttl clock
  have hseconds : (CacheSettings.ofEnvironment
      [("EXPLORE_CACHE_TTL_COUNT_SECS", "18446744073709551615")]).countSeconds =
        18446744073709551615 := by decide +kernel
  have httl : ttl = .ofSeconds 18446744073709551615 := congrArg Time.Duration.ofSeconds hseconds
  have hbeyond : Volatile.clockEnd ≤ clock.running + ttl := by
    rw [httl]
    decide +kernel
  have hnot : ¬ (Backend.volatile .empty).TellsExpiry clock ttl := Nat.not_lt.mpr hbeyond
  refine ⟨httl, Volatile.set_eq_error _ "a" "x" hbeyond, ?_, by decide +kernel⟩
  rintro ⟨c', hset, -⟩
  rw [Backend.set_eq_error "a" "x" hnot] at hset
  cases hset

end LikedYou
