import LikedYou.Cache.Monitored
import LikedYou.Settings.Service
import LikedYou.Proofs.Cache.Answers

/-!
# What a cache can give back

* `Backend` — a cache in memory or a durable one, as the settings choose
* `Backend.Within` — everything that is kept was written by a write of a given kind
* `Backend.Within.get`, `Backend.Within.set` — what the calls preserve, failed ones included
* `Backend.Within.eq_of_get` — what is read was written, less than its length of time ago

This is half of what a cache should do: it may forget, but it makes nothing up. The half is enough for
everything that must hold while reads and writes fail.
-/

namespace LikedYou

open Twins (Written)

/-! ## What was written -/

namespace Volatile

variable {c : Volatile} {clock : Time.Clock} {key value : String} {p : String → Written → Prop}

/-- Whether everything that is kept was written by a write that satisfies `p`. -/
def Within (p : String → Written → Prop) (c : Volatile) : Prop :=
  ∀ key entry, c.held? key = some entry → ∃ w, p key w ∧ w.entry = entry

theorem within_empty (p : String → Written → Prop) : empty.Within p := by
  intro key entry h
  cases h

theorem Within.of_trims {c' : Volatile} (h : c.Within p)
    (htrims : Trims (IsOver clock) c.held? c'.held?) : c'.Within p := by
  intro key entry hentry
  exact h key entry (htrims.eq_some hentry)

theorem Within.get (h : c.Within p) (key : String) (clock : Time.Clock) :
    (c.get key clock).2.Within p := h.of_trims (c.trims_get key clock)

theorem Within.set {ttl : Time.Duration} (h : c.Within p) (hp : p key ⟨value, clock, ttl⟩) :
    (c.set key value ttl clock).2.Within p := by
  by_cases hend : clock.running + ttl < clockEnd
  · obtain ⟨c', hset, hentries, -⟩ := set_eq_ok c key value hend
    have hswept := h.of_trims (reclaimed_swept clock c).trims
    rw [hset]
    intro k entry hentry
    rw [hentries] at hentry
    split at hentry
    · next hk =>
      cases hentry
      exact ⟨⟨value, clock, ttl⟩, hk ▸ hp, rfl⟩
    · exact hswept k entry hentry
  · rw [c.set_eq_error key value (Nat.not_lt.mp hend)]
    exact h

theorem Within.eq_of_get (h : c.Within p) (hget : (c.get key clock).1 = some value) :
    ∃ w, p key w ∧ w.value = value ∧ w.Lasts clock := by
  obtain ⟨c', hget', -⟩ := c.get_eq key clock
  rw [hget'] at hget
  obtain ⟨entry, hentry, hread⟩ := Option.bind_eq_some_iff.mp hget
  obtain ⟨w, hw, rfl⟩ := h key entry hentry
  unfold readEntry at hread
  split at hread
  · next hlasts =>
    cases hread
    exact ⟨w, hw, rfl, hlasts⟩
  · cases hread

end Volatile

namespace Durable

variable {c : Durable} {now : Int64} {key value : String} {p : String → Written → Prop}

/-- A read removes at most an entry whose time is over. -/
theorem trims_get (c : Durable) (key : String) (now : Int64) :
    Trims (IsOver now) c.row? (c.get key now).2.row? := by
  by_cases hkey : Utf8.ofString key = []
  · have hfind : c.tables.find? (Utf8.ofString key) = .error .badKeyLength := by
      rw [hkey]
      rfl
    rw [get, hfind]
    exact .refl _ _
  · obtain ⟨removed, tables, hreclaim, htrims⟩ := Tables.reclaim_eq_ok c.tables now hkey
    rw [get, Tables.find?_of_ne_nil hkey]
    simp only
    split
    · exact .refl _ _
    · exact .refl _ _
    · split
      · exact .refl _ _
      · exact .refl _ _
      · rw [hreclaim]
        cases removed with
        | true => exact htrims
        | false => exact htrims

/-- What is stored after a write was there before, or is what was to be written. -/
theorem row?_set {ttl : Time.Duration} {bytes row : Bytes}
    (h : (c.set key value ttl now).2.row? bytes = some row) :
    c.row? bytes = some row ∨
      bytes = Utf8.ofString key ∧ row = encodeEntry value (expiryAfter ttl now) := by
  have hleft := (c.reclaimed_atWrite key value ttl now).trims
  rcases c.set_cases key value ttl now with ⟨-, c', hset, hrows, -⟩ | ⟨-, f, hset⟩
  · rw [hset, hrows] at h
    split at h
    · next hbytes => exact Or.inr ⟨hbytes, (Option.some.inj h).symm⟩
    · exact Or.inl (hleft.eq_some h)
  · rw [hset] at h
    exact Or.inl (hleft.eq_some h)

/-- Whether everything that is kept was written by a write that satisfies `p`. -/
def Within (p : String → Written → Prop) (c : Durable) : Prop :=
  ∀ bytes row, c.row? bytes = some row →
    ∃ key w, bytes = Utf8.ofString key ∧ p key w ∧ w.since.Readable ∧ w.row = row

theorem within_new (p : String → Written → Prop) (room : Room) : (new room).Within p := by
  intro bytes row h
  cases h

theorem Within.get (h : c.Within p) (key : String) (now : Int64) : (c.get key now).2.Within p := by
  intro bytes row hrow
  exact h bytes row ((trims_get c key now).eq_some hrow)

theorem Within.getByClock (h : c.Within p) (key : String) (clock : Time.Clock) :
    (c.getByClock key clock).2.Within p := by
  unfold Durable.getByClock
  cases hmillis : clock.millis with
  | ok now => exact h.get key now
  | error b =>
    simp only
    split
    · exact h
    · exact h.get key 0

theorem Within.setByClock {ttl : Time.Duration} {clock : Time.Clock} (h : c.Within p)
    (hp : p key ⟨value, clock, ttl⟩) : (c.setByClock key value ttl clock).2.Within p := by
  unfold Durable.setByClock
  cases hmillis : clock.millis with
  | error b => exact h
  | ok now =>
    obtain ⟨hreadable, rfl⟩ := Time.Clock.readable_of_millis hmillis
    intro bytes row hrow
    rcases row?_set hrow with hold | ⟨hbytes, hnew⟩
    · exact h bytes row hold
    · exact ⟨key, ⟨value, clock, ttl⟩, hbytes, hp, hreadable, hnew.symm⟩

/-- A text that is read is that of a row whose time is not over. -/
theorem decodeEntry_of_get (h : (c.get key now).1 = .ok (some value)) :
    ∃ row, c.row? (Utf8.ofString key) = some row ∧ decodeEntry row now = .ok (.live value) := by
  by_cases hkey : Utf8.ofString key = []
  · rw [fst_get_of_empty c now hkey] at h
    cases h
  · rw [fst_get c now hkey] at h
    cases hrow : c.row? (Utf8.ofString key) with
    | none =>
      rw [hrow] at h
      cases h
    | some row =>
      rw [hrow, told] at h
      split at h
      · cases h
      · next hread =>
        cases h
        exact ⟨row, rfl, hread⟩
      · cases h

theorem Within.eq_of_getByClock (h : c.Within p) {clock : Time.Clock}
    (hget : (c.getByClock key clock).1 = .ok (some value)) :
    clock.Readable ∧ ∃ w, p key w ∧ w.value = value ∧ w.since.Readable ∧ ¬ w.IsOver clock := by
  have hdone : ∀ {now : Int64},
      (c.get key now).1.mapError Fault.toOperation = .ok (some value) →
        ∃ row, c.row? (Utf8.ofString key) = some row ∧ decodeEntry row now = .ok (.live value) := by
    intro now hmap
    cases hresult : (c.get key now).1 with
    | error f =>
      rw [hresult] at hmap
      cases hmap
    | ok found =>
      rw [hresult] at hmap
      cases hmap
      exact decodeEntry_of_get hresult
  unfold Durable.getByClock at hget
  cases hmillis : clock.millis with
  | error b =>
    -- where there is an entry the call breaks down, and where there is none nothing is read
    rw [hmillis] at hget
    simp only at hget
    split at hget
    · cases hget
    · next hhas =>
      obtain ⟨row, hrow, -⟩ := hdone hget
      refine absurd ?_ hhas
      rw [has, Std.ExtTreeMap.contains_iff_mem, Std.ExtTreeMap.mem_iff_isSome_getElem?]
      exact Option.isSome_iff_exists.mpr ⟨row, hrow⟩
  | ok now =>
    obtain ⟨hreadable, rfl⟩ := Time.Clock.readable_of_millis hmillis
    rw [hmillis] at hget
    obtain ⟨row, hrow, hlive⟩ := hdone hget
    obtain ⟨key', w, hkey, hw, hsince, rfl⟩ := h _ row hrow
    obtain rfl := Utf8.ofString_injective hkey
    rw [Written.row, decodeEntry_encodeEntry] at hlive
    refine ⟨hreadable, w, hw, ?_⟩
    split at hlive
    · cases hlive
    · next hnot =>
      cases hlive
      exact ⟨rfl, hsince, hnot⟩

end Durable

/-! ## Either cache -/

/-- A cache of one of the two kinds. -/
inductive Backend where
  | volatile (c : Volatile)
  | durable (c : Durable)

namespace Backend

instance : Cache Backend where
  get key clock
    | .volatile c => ((Cache.get key clock c).1, .volatile (Cache.get key clock c).2)
    | .durable c => ((Cache.get key clock c).1, .durable (Cache.get key clock c).2)
  set key value ttl clock
    | .volatile c =>
      ((Cache.set key value ttl clock c).1, .volatile (Cache.set key value ttl clock c).2)
    | .durable c =>
      ((Cache.set key value ttl clock c).1, .durable (Cache.set key value ttl clock c).2)
  delete keys
    | .volatile c => ((Cache.delete keys c).1, .volatile (Cache.delete keys c).2)
    | .durable c => ((Cache.delete keys c).1, .durable (Cache.delete keys c).2)
  stats
    | .volatile c => Cache.stats c
    | .durable c => Cache.stats c

/-- An empty cache of the kind that is chosen. Only a durable one can be full. -/
def empty : CacheChoice → Durable.Room → Backend
  | .memory, _ => .volatile .empty
  | .durable, room => .durable (.new room)

variable {c : Backend} {clock : Time.Clock} {key value : String} {p q : String → Written → Prop}

/-- Whether everything that is kept was written by a write that satisfies `p`. -/
def Within (p : String → Written → Prop) : Backend → Prop
  | .volatile c => c.Within p
  | .durable c => c.Within p

theorem within_empty (p : String → Written → Prop) (choice : CacheChoice) (room : Durable.Room) :
    (empty choice room).Within p := by
  cases choice with
  | memory => exact Volatile.within_empty p
  | durable => exact Durable.within_new p room

namespace Within

theorem mono (h : c.Within p) (hpq : ∀ key w, p key w → q key w) : c.Within q := by
  cases c with
  | volatile c =>
    intro key entry hentry
    obtain ⟨w, hw, hwritten⟩ := h key entry hentry
    exact ⟨w, hpq key w hw, hwritten⟩
  | durable c =>
    intro bytes row hrow
    obtain ⟨key, w, hkey, hw, hwritten⟩ := h bytes row hrow
    exact ⟨key, w, hkey, hpq key w hw, hwritten⟩

theorem get (h : c.Within p) (key : String) (clock : Time.Clock) :
    (Cache.get key clock c).2.Within p := by
  cases c with
  | volatile c => exact Volatile.Within.get h key clock
  | durable c => exact Durable.Within.getByClock h key clock

/-- **A write leaves what was there, or what was to be written.** -/
theorem set {ttl : Time.Duration} (h : c.Within p) (hp : p key ⟨value, clock, ttl⟩) :
    (Cache.set key value ttl clock c).2.Within p := by
  cases c with
  | volatile c => exact Volatile.Within.set h hp
  | durable c => exact Durable.Within.setByClock h hp

/-- **What is read was written, less than its length of time ago.** -/
theorem eq_of_get (h : c.Within p) (hget : (Cache.get key clock c).1 = .ok (some value)) :
    ∃ w, p key w ∧ w.value = value ∧ ∀ d, clock = w.since.advance d → d < w.ttl := by
  cases c with
  | volatile c =>
    obtain ⟨w, hw, hvalue, hlasts⟩ := Volatile.Within.eq_of_get h (Except.ok.inj hget)
    refine ⟨w, hw, hvalue, fun d hd => ?_⟩
    rw [hd] at hlasts
    exact Written.lasts_advance_iff.mp hlasts
  | durable c =>
    obtain ⟨hclock, w, hw, hvalue, hsince, hnot⟩ := Durable.Within.eq_of_getByClock h hget
    refine ⟨w, hw, hvalue, fun d hd => ?_⟩
    rw [hd] at hclock hnot
    exact Written.lasts_advance_iff.mp (Written.lasts_of_not_isOver hsince hclock hnot)

end Within

end Backend

end LikedYou
