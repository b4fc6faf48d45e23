import LikedYou.Proofs.Cache.Durable
import LikedYou.Proofs.Cache.Volatile
import LikedYou.Proofs.Time.Clock

/-!
# Two caches with the same calls

* `Twins.run` — a cache in memory and a durable one get the same calls, by the same clock
* `Twins.LastSet` — the last call that changed the text under a key was a write
* `Twins.lastSet_append_iff` — what one more event makes of that
-/

namespace LikedYou

/-- A cache in memory and a durable one, and their clock. -/
structure Twins where
  clock : Time.Clock
  volatile : Volatile
  durable : Durable

namespace Twins

/-- Something that happens to the caches. -/
inductive Event where
  /-- Time goes on. -/
  | advance (d : Time.Duration)
  | get (key : String)
  | set (key value : String) (ttl : Time.Duration)
  | delete (keys : List String)
  | purge
  /-- The durable cache is opened once more. -/
  | reopen

/-- Two empty caches. -/
def start (clock : Time.Clock) (room : Durable.Room) : Twins :=
  ⟨clock, Volatile.empty, Durable.new room⟩

/-- The durable cache after a purge. -/
def purgedDurable (s : Twins) : Durable :=
  match s.durable.purgeByClock s.clock with
  | .ok (_, durable) => durable
  | .error _ => s.durable

/-- What an event does. -/
def step (s : Twins) : Event → Twins
  | .advance d => { s with clock := s.clock.advance d }
  | .get key =>
    { s with
      volatile := (Cache.get key s.clock s.volatile).2
      durable := (Cache.get key s.clock s.durable).2 }
  | .set key value ttl =>
    { s with
      volatile := (Cache.set key value ttl s.clock s.volatile).2
      durable := (Cache.set key value ttl s.clock s.durable).2 }
  | .delete keys =>
    { s with
      volatile := (Cache.delete keys s.volatile).2
      durable := (Cache.delete keys s.durable).2 }
  | .purge => { s with volatile := (s.volatile.purge s.clock).2, durable := s.purgedDurable }
  | .reopen => { s with durable := s.durable.reopen }

/-- What events do. -/
def run (s : Twins) (events : List Event) : Twins := events.foldl step s

@[simp] theorem run_append_singleton (s : Twins) (events : List Event) (e : Event) :
    s.run (events ++ [e]) = (s.run events).step e := by
  simp [run]

/-! ## Steps where the clock can be read -/

theorem step_get {s : Twins} (h : s.clock.Readable) (key : String) :
    s.step (.get key) = ⟨s.clock, (s.volatile.get key s.clock).2,
      (s.durable.get key s.clock.millisecond).2⟩ := by
  show (⟨s.clock, (s.volatile.get key s.clock).2, (s.durable.getByClock key s.clock).2⟩ : Twins) = _
  rw [Durable.getByClock_of_millis (Time.Clock.millis_of_readable h)]

theorem step_set {s : Twins} (h : s.clock.Readable) (key value : String) (ttl : Time.Duration) :
    s.step (.set key value ttl) = ⟨s.clock, (s.volatile.set key value ttl s.clock).2,
      (s.durable.set key value ttl s.clock.millisecond).2⟩ := by
  show (⟨s.clock, (s.volatile.set key value ttl s.clock).2,
    (s.durable.setByClock key value ttl s.clock).2⟩ : Twins) = _
  rw [Durable.setByClock_of_millis (Time.Clock.millis_of_readable h)]

theorem step_delete (s : Twins) (keys : List String) :
    s.step (.delete keys) =
      ⟨s.clock, (s.volatile.delete keys).2, (s.durable.delete keys).2⟩ := rfl

theorem step_purge {s : Twins} (h : s.clock.Readable) :
    s.step .purge =
      ⟨s.clock, (s.volatile.purge s.clock).2, (s.durable.purge s.clock.millisecond).2⟩ := by
  show (⟨s.clock, (s.volatile.purge s.clock).2, s.purgedDurable⟩ : Twins) = _
  rw [purgedDurable, Durable.purgeByClock, Time.Clock.millis_of_readable h]
  rfl

/-! ## What is asked of the calls -/

/-- Whether something can be stored under a key, in both tables of a durable cache. -/
def IsKey (key : String) : Prop :=
  Utf8.ofString key ≠ [] ∧ (Utf8.ofString key).length ≤ 503

instance (key : String) : Decidable (IsKey key) :=
  inferInstanceAs (Decidable (Utf8.ofString key ≠ [] ∧ (Utf8.ofString key).length ≤ 503))

theorem IsKey.accepts {key value : String} {ttl : Time.Duration} {now : Int64} {c : Durable}
    (hkey : IsKey key) (hroom : c.HasRoom key value ttl now) : c.Accepts key value ttl now :=
  ⟨hkey.1, hkey.2, hroom⟩

/-- Whether a call has keys that something can be stored under, and writes a text for which there is
room, for a length of time in whole milliseconds that the running clock can tell the end of. -/
def Event.Fits (s : Twins) : Event → Prop
  | .get key => IsKey key
  | .set key value ttl =>
    IsKey key ∧ s.durable.HasRoom key value ttl s.clock.millisecond ∧ 1000000 ∣ ttl ∧
      s.clock.running + ttl < Volatile.clockEnd
  | .delete keys => ∀ key ∈ keys, IsKey key
  | _ => True

/-- Whether all calls fit, and the clock can be read all the time. -/
structure Proper (s : Twins) (events : List Event) : Prop where
  fits : ∀ earlier e later, events = earlier ++ e :: later → e.Fits (s.run earlier)
  readable : ∀ earlier later, events = earlier ++ later → (s.run earlier).clock.Readable

theorem Proper.init {s : Twins} {events : List Event} {e : Event} (h : s.Proper (events ++ [e])) :
    s.Proper events := by
  refine ⟨fun earlier e' later hevents => ?_, fun earlier later hevents => ?_⟩
  · refine h.fits earlier e' (later ++ [e]) ?_
    rw [hevents, List.append_assoc, List.cons_append]
  · refine h.readable earlier (later ++ [e]) ?_
    rw [hevents, List.append_assoc]

/-! ## The last write -/

/-- Whether an event changes the text under a key. -/
def Event.Names (key : String) : Event → Prop
  | .set k _ _ => k = key
  | .delete keys => key ∈ keys
  | _ => False

/-- A write: the text, what the clock showed, and for how long the text is kept. -/
structure Written where
  value : String
  since : Time.Clock
  ttl : Time.Duration

/-- Whether the last event that changed the text under a key was this write. -/
def LastSet (s : Twins) (events : List Event) (key : String) (w : Written) : Prop :=
  ∃ earlier later, events = earlier ++ .set key w.value w.ttl :: later ∧
    (∀ e ∈ later, ¬ e.Names key) ∧ w.since = (s.run earlier).clock

theorem not_lastSet_nil (s : Twins) (key : String) (w : Written) : ¬ s.LastSet [] key w := by
  rintro ⟨earlier, later, h, -⟩
  cases earlier <;> cases h

/-- **What one more event makes of the last write.** -/
theorem lastSet_append_iff {s : Twins} {events : List Event} {e : Event} {key : String}
    {w : Written} :
    s.LastSet (events ++ [e]) key w ↔
      e = .set key w.value w.ttl ∧ w.since = (s.run events).clock ∨
        ¬ e.Names key ∧ s.LastSet events key w := by
  constructor
  · rintro ⟨earlier, later, hevents, hlater, hsince⟩
    rcases List.eq_nil_or_concat later with rfl | ⟨later, e', rfl⟩
    · obtain ⟨rfl, he⟩ := List.append_inj' hevents rfl
      cases he
      exact Or.inl ⟨rfl, hsince⟩
    · rw [List.concat_eq_append] at hevents hlater
      rw [← List.cons_append, ← List.append_assoc] at hevents
      obtain ⟨rfl, he⟩ := List.append_inj' hevents rfl
      cases he
      refine Or.inr ⟨hlater e (by simp), earlier, later, rfl, fun e' he' => ?_, hsince⟩
      exact hlater e' (List.mem_append_left _ he')
  · rintro (⟨rfl, hsince⟩ | ⟨hnot, earlier, later, rfl, hlater, hsince⟩)
    · exact ⟨events, [], rfl, nofun, hsince⟩
    · refine ⟨earlier, later ++ [e], by simp, fun e' he' => ?_, hsince⟩
      rcases List.mem_append.mp he' with he' | he'
      · exact hlater e' he'
      · rw [List.mem_singleton.mp he']
        exact hnot

end Twins

end LikedYou
