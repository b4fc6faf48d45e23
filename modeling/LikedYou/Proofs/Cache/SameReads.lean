import LikedYou.Proofs.Cache.Calls
import LikedYou.Proofs.Cache.Monitored

/-!
# Caches that read the same

* `Cache.SameAt` — from now on, two caches tell the same under a key
* `Backend.SameFor` — two caches of one kind tell the same under some keys
* `Backend.SameFor.get`, `Backend.SameFor.set_other` — reads, and writes under other keys, are not
  noticed
* `Backend.MeetsFull` — whether a write finds a full map
* `Backend.SameFor.set` — one write to both caches keeps them the same, unless it finds one of them full

A read or a write may count, sweep or purge, and so remove entries under any keys. What goes is over,
and would read as missing at any later time. It is only after the end of the calendar, where a durable
cache can no longer be asked, that one could tell whether an entry which is over is still there.
-/

namespace LikedYou

/-! ## Reading the same -/

namespace Cache

variable {κ : Type} [Cache κ] {timely : Time.Clock → Prop} {key : String} {clock : Time.Clock}
  {c c' c'' : κ}

/-- Whether two caches tell the same under a key, whenever they are asked from now on at a time that
is `timely`. -/
def SameAt (timely : Time.Clock → Prop) (key : String) (clock : Time.Clock) (c c' : κ) : Prop :=
  ∀ d, timely (clock.advance d) →
    (get key (clock.advance d) c).1 = (get key (clock.advance d) c').1

namespace SameAt

theorem refl (timely : Time.Clock → Prop) (key : String) (clock : Time.Clock) (c : κ) :
    SameAt timely key clock c c := fun _ _ => rfl

theorem symm (h : SameAt timely key clock c c') : SameAt timely key clock c' c := fun d hd =>
  (h d hd).symm

theorem trans (h : SameAt timely key clock c c') (h' : SameAt timely key clock c' c'') :
    SameAt timely key clock c c'' := fun d hd => (h d hd).trans (h' d hd)

theorem now (h : SameAt timely key clock c c') (htimely : timely clock) :
    (get key clock c).1 = (get key clock c').1 := by
  have hzero := h 0
  rw [Time.Clock.advance_zero] at hzero
  exact hzero htimely

theorem advance (h : SameAt timely key clock c c') (d : Time.Duration) :
    SameAt timely key (clock.advance d) c c' := by
  intro d' hd'
  rw [Time.Clock.advance_advance] at hd' ⊢
  exact h (d + d') hd'

end SameAt

end Cache

open Cache (SameAt)

variable {timely : Time.Clock → Prop} {clock : Time.Clock}

/-! ## A cache in memory -/

namespace Volatile

variable {c c' : Volatile} {key k value : String} {ttl : Time.Duration}

theorem sameAt_of_held? (h : c'.held? key = c.held? key) : SameAt timely key clock c c' := by
  intro d _
  rw [fst_get, fst_get, h]

/-- What is over when it goes is over at any later time. -/
theorem sameAt_of_trims (h : Trims (IsOver clock) c.held? c'.held?) :
    SameAt timely key clock c c' := by
  intro d _
  have hlater : Trims (IsOver (clock.advance d)) c.held? c'.held? :=
    h.mono fun entry hover => Nat.le_trans hover (Nat.le_add_right _ _)
  rw [fst_get, fst_get, hlater.bind_eq _ fun _ => readEntry_of_isOver]

theorem sameAt_get (c : Volatile) (key k : String) (clock : Time.Clock) :
    SameAt timely k clock c (Cache.get key clock c).2 := sameAt_of_trims (c.trims_get key clock)

/-- A write is only noticed under its key, and only if it succeeds. -/
theorem sameAt_set (c : Volatile) (value : String)
    (h : k ≠ key ∨ ¬ clock.running + ttl < clockEnd) :
    SameAt timely k clock c (Cache.set key value ttl clock c).2 := by
  by_cases hend : clock.running + ttl < clockEnd
  · obtain ⟨c', hset, hentries, -⟩ := c.set_eq_ok key value hend
    have hsnd : (Cache.set key value ttl clock c).2 = c' := congrArg Prod.snd hset
    have hk : k ≠ key := h.resolve_right (not_not_intro hend)
    rw [hsnd]
    refine (sameAt_of_trims (reclaimed_swept clock c).trims).trans (sameAt_of_held? ?_)
    rw [hentries, if_neg hk]
  · have hsnd : (Cache.set key value ttl clock c).2 = c := by
      show (c.set key value ttl clock).2 = c
      rw [set, if_pos (Nat.not_lt.mp hend)]
    rw [hsnd]
    exact .refl _ _ _ _

/-- One write to both caches is noticed in the same way. -/
theorem sameAt_set_set (h : SameAt timely k clock c c') (key value : String) (ttl : Time.Duration) :
    SameAt timely k clock (Cache.set key value ttl clock c).2
      (Cache.set key value ttl clock c').2 := by
  by_cases hwritten : k = key ∧ clock.running + ttl < clockEnd
  · obtain ⟨rfl, hend⟩ := hwritten
    obtain ⟨d, hset, hentries, -⟩ := c.set_eq_ok k value hend
    obtain ⟨d', hset', hentries', -⟩ := c'.set_eq_ok k value hend
    have hsnd : (Cache.set k value ttl clock c).2 = d := congrArg Prod.snd hset
    have hsnd' : (Cache.set k value ttl clock c').2 = d' := congrArg Prod.snd hset'
    rw [hsnd, hsnd']
    refine sameAt_of_held? ?_
    rw [hentries, hentries', if_pos rfl, if_pos rfl]
  · have hother := not_and_or.mp hwritten
    exact (sameAt_set c value hother).symm.trans (h.trans (sameAt_set c' value hother))

end Volatile

/-! ## A durable cache -/

namespace Durable

variable {c c' : Durable} {key k value : String} {ttl : Time.Duration}

/-- Whether there are dates at a time, or will be. -/
def InCalendar (clock : Time.Clock) : Prop := clock.second ≤ Time.Timestamp.lastSecond

theorem has_eq (c : Durable) (key : String) : c.has key = (c.row? (Utf8.ofString key)).isSome := by
  rw [has, row?, Tables.row?, Std.ExtTreeMap.isSome_getElem?_eq_contains]

theorem sameAt_of_row? (h : c'.row? (Utf8.ofString key) = c.row? (Utf8.ofString key)) :
    SameAt timely key clock c c' := by
  intro d _
  show (c.getByClock key _).1 = (c'.getByClock key _).1
  unfold getByClock
  simp only [has_eq, h]
  cases (clock.advance d).millis with
  | ok now => simp only [fst_get_congr now h]
  | error b =>
    simp only
    split
    · rfl
    · rw [fst_get_congr 0 h]

/-- What is over when it goes is over at any later time in the calendar. -/
theorem sameAt_of_trims (htimely : ∀ clock, timely clock → InCalendar clock)
    (hclock : clock.Readable) (h : Trims (IsOver clock.millisecond) c.row? c'.row?) :
    SameAt timely key clock c c' := by
  intro d hd
  have hlater := hclock.advance (htimely _ hd)
  show (c.getByClock key _).1 = (c'.getByClock key _).1
  rw [getByClock_of_millis (Time.Clock.millis_of_readable hlater),
    getByClock_of_millis (Time.Clock.millis_of_readable hlater)]
  refine congrArg (Except.mapError Fault.toOperation) ?_
  rcases h (Utf8.ofString key) with hsame | ⟨hnone, row, hrow, hgone⟩
  · exact (fst_get_congr _ hsame).symm
  · by_cases hkey : Utf8.ofString key = []
    · rw [fst_get_of_empty c _ hkey, fst_get_of_empty c' _ hkey]
    · have hover : IsOver (clock.advance d).millisecond row :=
        hgone.mono (Time.Clock.millisecond_le_advance hlater)
      rw [fst_get c _ hkey, fst_get c' _ hkey, hnone, hrow, told_of_isOver hover]
      rfl

/-- Where nothing is stored under a key, a read changes no rows. -/
theorem row?_get_of_not_has (h : ¬ c.has key = true) (now : Int64) :
    (c.get key now).2.row? = c.row? := by
  have hnone : c.tables.entries[Utf8.ofString key]? = none := by
    rw [has_eq] at h
    exact Option.not_isSome_iff_eq_none.mp h
  have hfind : c.tables.find? (Utf8.ofString key) = .error .badKeyLength ∨
      c.tables.find? (Utf8.ofString key) = .ok none := by
    unfold Tables.find?
    split
    · exact Or.inl rfl
    · exact Or.inr (congrArg Except.ok hnone)
  rcases hfind with hfind | hfind
  · rw [get, hfind]
    rfl
  · rw [get, hfind]
    rfl

theorem sameAt_get (htimely : ∀ clock, timely clock → InCalendar clock) (c : Durable)
    (key k : String) (clock : Time.Clock) :
    SameAt timely k clock c (Cache.get key clock c).2 := by
  show SameAt timely k clock c (c.getByClock key clock).2
  unfold getByClock
  cases hmillis : clock.millis with
  | ok now =>
    obtain ⟨hclock, rfl⟩ := Time.Clock.readable_of_millis hmillis
    exact sameAt_of_trims htimely hclock (trims_get c key _)
  | error b =>
    simp only
    split
    · exact .refl _ _ _ _
    · next hhas => exact sameAt_of_row? (congrFun (row?_get_of_not_has hhas 0) _)

/-- Whether an entry can be stored at a given time. -/
def Stores (key value : String) (ttl : Time.Duration) (clock : Time.Clock) (c : Durable) : Prop :=
  clock.Readable ∧ c.Accepts key value ttl clock.millisecond

/-- Whether a write finds a full map: what it writes is not too long, but there is no room for it, not
even after a purge. -/
def MeetsFull (key value : String) (ttl : Time.Duration) (clock : Time.Clock) (c : Durable) : Prop :=
  clock.Readable ∧ 8 + (Utf8.ofString value).length ≤ c.room.longest ∧
    ¬ c.HasRoom key value ttl clock.millisecond

instance (key value : String) (ttl : Time.Duration) (clock : Time.Clock) (c : Durable) :
    Decidable (c.MeetsFull key value ttl clock) :=
  inferInstanceAs (Decidable (_ ∧ _ ∧ ¬ _))

/-- As long as the map is not full, what is stored does not matter to a write. -/
theorem stores_iff (hfull : ¬ c.MeetsFull key value ttl clock) :
    c.Stores key value ttl clock ↔ clock.Readable ∧ Utf8.ofString key ≠ [] ∧
      (Utf8.ofString key).length ≤ 503 ∧ 8 + (Utf8.ofString value).length ≤ c.room.longest := by
  refine and_congr_right fun hclock => and_congr_right fun _ => and_congr_right fun _ => ?_
  refine ⟨fun hroom => hroom.1, fun hle => ?_⟩
  by_contra hnot
  exact hfull ⟨hclock, hle, hnot⟩

/-- What a write leaves: the row that is written, if it can be stored. -/
theorem row?_setByClock (h : c.Stores key value ttl clock) :
    (Cache.set key value ttl clock c).2.row? (Utf8.ofString key) =
      some (encodeEntry value (expiryAfter ttl clock.millisecond)) := by
  obtain ⟨hclock, haccepts⟩ := h
  show (c.setByClock key value ttl clock).2.row? _ = _
  rw [setByClock_of_millis (Time.Clock.millis_of_readable hclock)]
  rcases c.set_cases key value ttl clock.millisecond with ⟨-, c', hset, hrows, -⟩ | ⟨hnot, -⟩
  · rw [hset, hrows, if_pos rfl]
  · exact absurd haccepts hnot

/-- A write is only noticed under its key, and only if it succeeds. -/
theorem sameAt_set (htimely : ∀ clock, timely clock → InCalendar clock) (c : Durable)
    (value : String) (h : k ≠ key ∨ ¬ c.Stores key value ttl clock) :
    SameAt timely k clock c (Cache.set key value ttl clock c).2 := by
  show SameAt timely k clock c (c.setByClock key value ttl clock).2
  cases hmillis : clock.millis with
  | error b =>
    unfold setByClock
    rw [hmillis]
    exact sameAt_of_row? rfl
  | ok now =>
    obtain ⟨hclock, rfl⟩ := Time.Clock.readable_of_millis hmillis
    rw [setByClock_of_millis hmillis]
    have hleft : SameAt timely k clock c (c.atWrite key value ttl clock.millisecond) :=
      sameAt_of_trims htimely hclock (c.reclaimed_atWrite key value ttl clock.millisecond).trims
    rcases c.set_cases key value ttl clock.millisecond with
      ⟨haccepts, c', hset, hrows, -⟩ | ⟨-, f, hset⟩
    · have hk : k ≠ key := h.resolve_right (not_not_intro ⟨hclock, haccepts⟩)
      rw [hset]
      refine hleft.trans (sameAt_of_row? ?_)
      rw [hrows, if_neg fun he => hk (Utf8.ofString_injective he)]
    · rw [hset]
      exact hleft

/-- One write to both caches is noticed in the same way, if they have the same room and neither is
full. -/
theorem sameAt_set_set (htimely : ∀ clock, timely clock → InCalendar clock) (hroom : c.room = c'.room)
    (hfull : ¬ c.MeetsFull key value ttl clock) (hfull' : ¬ c'.MeetsFull key value ttl clock)
    (h : SameAt timely k clock c c') :
    SameAt timely k clock (Cache.set key value ttl clock c).2
      (Cache.set key value ttl clock c').2 := by
  have hstores : c.Stores key value ttl clock ↔ c'.Stores key value ttl clock := by
    rw [stores_iff hfull, stores_iff hfull', hroom]
  by_cases hwritten : k = key ∧ c.Stores key value ttl clock
  · obtain ⟨rfl, hstored⟩ := hwritten
    refine sameAt_of_row? ?_
    rw [row?_setByClock hstored, row?_setByClock (hstores.mp hstored)]
  · have hother := not_and_or.mp hwritten
    exact (sameAt_set htimely c value hother).symm.trans
      (h.trans (sameAt_set htimely c' value (hother.imp_right (mt hstores.mpr))))

theorem room_get (c : Durable) (key : String) (clock : Time.Clock) :
    (Cache.get key clock c).2.room = c.room := by
  have hget : ∀ now, (c.get key now).2.room = c.room := by
    intro now
    unfold get
    simp only
    split
    · rfl
    · rfl
    · split
      · rfl
      · rfl
      · split
        · rfl
        · rfl
        · rfl
  show (c.getByClock key clock).2.room = c.room
  unfold getByClock
  split
  · exact hget _
  · split
    · rfl
    · exact hget 0

theorem room_set (c : Durable) (key value : String) (ttl : Time.Duration) (clock : Time.Clock) :
    (Cache.set key value ttl clock c).2.room = c.room := by
  show (c.setByClock key value ttl clock).2.room = c.room
  cases hmillis : clock.millis with
  | error b =>
    unfold setByClock
    rw [hmillis]
  | ok now =>
    rw [setByClock_of_millis hmillis]
    rcases c.set_cases key value ttl now with ⟨-, c', hset, -, hroom, -⟩ | ⟨-, f, hset⟩
    · rw [hset]
      exact hroom
    · rw [hset]
      exact (c.reclaimed_atWrite key value ttl now).room

end Durable

/-! ## Either cache -/

namespace Backend

variable {keys : String → Prop} {c c' c'' : Backend} {key value : String} {ttl : Time.Duration}

/-- Whether a write finds a full map. A cache in memory is never full. -/
def MeetsFull (key value : String) (ttl : Time.Duration) (clock : Time.Clock) : Backend → Prop
  | .volatile _ => False
  | .durable c => c.MeetsFull key value ttl clock

instance (key value : String) (ttl : Time.Duration) (clock : Time.Clock) (c : Backend) :
    Decidable (c.MeetsFull key value ttl clock) :=
  match c with
  | .volatile _ => inferInstanceAs (Decidable False)
  | .durable c => inferInstanceAs (Decidable (c.MeetsFull key value ttl clock))

/-- Whether two caches of one kind tell the same under some keys from now on. -/
inductive SameFor (timely : Time.Clock → Prop) (keys : String → Prop) (clock : Time.Clock) :
    Backend → Backend → Prop where
  | volatile {c c' : Volatile} (h : ∀ key, keys key → SameAt timely key clock c c') :
      SameFor timely keys clock (.volatile c) (.volatile c')
  | durable {c c' : Durable} (htimely : ∀ clock, timely clock → Durable.InCalendar clock)
      (hroom : c.room = c'.room) (h : ∀ key, keys key → SameAt timely key clock c c') :
      SameFor timely keys clock (.durable c) (.durable c')

namespace SameFor

theorem empty {choice : CacheChoice}
    (htimely : choice = .durable → ∀ clock, timely clock → Durable.InCalendar clock)
    (keys : String → Prop) (clock : Time.Clock) (room : Durable.Room) :
    SameFor timely keys clock (Backend.empty choice room) (Backend.empty choice room) := by
  cases choice with
  | memory => exact .volatile fun key _ => .refl _ _ _ _
  | durable => exact .durable (htimely rfl) rfl fun key _ => .refl _ _ _ _

theorem symm (h : SameFor timely keys clock c c') : SameFor timely keys clock c' c := by
  cases h with
  | volatile h => exact .volatile fun key hkey => (h key hkey).symm
  | durable htimely hroom h => exact .durable htimely hroom.symm fun key hkey => (h key hkey).symm

theorem trans (h : SameFor timely keys clock c c') (h' : SameFor timely keys clock c' c'') :
    SameFor timely keys clock c c'' := by
  cases h with
  | volatile h =>
    cases h' with
    | volatile h' => exact .volatile fun key hkey => (h key hkey).trans (h' key hkey)
  | durable htimely hroom h =>
    cases h' with
    | durable _ hroom' h' =>
      exact .durable htimely (hroom.trans hroom') fun key hkey => (h key hkey).trans (h' key hkey)

theorem advance (h : SameFor timely keys clock c c') (d : Time.Duration) :
    SameFor timely keys (clock.advance d) c c' := by
  cases h with
  | volatile h => exact .volatile fun key hkey => (h key hkey).advance d
  | durable htimely hroom h => exact .durable htimely hroom fun key hkey => (h key hkey).advance d

theorem fst_get (h : SameFor timely keys clock c c') (hkey : keys key) (hclock : timely clock) :
    (Cache.get key clock c).1 = (Cache.get key clock c').1 := by
  cases h with
  | volatile h => exact (h key hkey).now hclock
  | durable htimely hroom h => exact (h key hkey).now hclock

/-- **A read is not noticed**, whatever key is read. -/
theorem get (h : SameFor timely keys clock c c') (key : String) :
    SameFor timely keys clock c (Cache.get key clock c').2 := by
  cases h with
  | volatile h => exact .volatile fun k hk => (h k hk).trans (Volatile.sameAt_get _ key k clock)
  | durable htimely hroom h =>
    exact .durable htimely (hroom.trans (Durable.room_get _ key clock).symm) fun k hk =>
      (h k hk).trans (Durable.sameAt_get htimely _ key k clock)

/-- **A write under another key is not noticed.** -/
theorem set_other (h : SameFor timely keys clock c c') (hkey : ¬ keys key) (value : String)
    (ttl : Time.Duration) : SameFor timely keys clock c (Cache.set key value ttl clock c').2 := by
  have hne : ∀ k, keys k → k ≠ key := fun k hk he => hkey (he ▸ hk)
  cases h with
  | volatile h =>
    exact .volatile fun k hk => (h k hk).trans (Volatile.sameAt_set _ value (Or.inl (hne k hk)))
  | durable htimely hroom h =>
    exact .durable htimely (hroom.trans (Durable.room_set _ key value ttl clock).symm) fun k hk =>
      (h k hk).trans (Durable.sameAt_set htimely _ value (Or.inl (hne k hk)))

/-- **One write to both caches keeps them the same**, unless it finds one of them full. -/
theorem set (h : SameFor timely keys clock c c') (hfull : ¬ c.MeetsFull key value ttl clock)
    (hfull' : ¬ c'.MeetsFull key value ttl clock) :
    SameFor timely keys clock (Cache.set key value ttl clock c).2
      (Cache.set key value ttl clock c').2 := by
  cases h with
  | volatile h => exact .volatile fun k hk => Volatile.sameAt_set_set (h k hk) key value ttl
  | durable htimely hroom h =>
    refine .durable htimely ?_ fun k hk =>
      Durable.sameAt_set_set htimely hroom hfull hfull' (h k hk)
    rw [Durable.room_set, Durable.room_set, hroom]

end SameFor

end Backend

/-! ## Monitored caches -/

namespace MonitoredCache

variable {keys : String → Prop} {c c' c'' : MonitoredCache Backend} {key value : String}
  {ttl : Time.Duration}

/-- Whether two monitored caches tell the same under some keys. Their counters may differ. -/
structure SameFor (timely : Time.Clock → Prop) (keys : String → Prop) (clock : Time.Clock)
    (c c' : MonitoredCache Backend) : Prop where
  failing : c.failing = c'.failing
  inner : c.inner.SameFor timely keys clock c'.inner

namespace SameFor

theorem symm (h : SameFor timely keys clock c c') : SameFor timely keys clock c' c :=
  ⟨h.failing.symm, h.inner.symm⟩

theorem trans (h : SameFor timely keys clock c c') (h' : SameFor timely keys clock c' c'') :
    SameFor timely keys clock c c'' :=
  ⟨h.failing.trans h'.failing, h.inner.trans h'.inner⟩

theorem fst_get (h : SameFor timely keys clock c c') (hkey : keys key) (hclock : timely clock) :
    (Cache.get key clock c).1 = (Cache.get key clock c').1 := by
  by_cases hfail : c'.failing.gets = true
  · simp only [Cache.get, h.failing, if_pos hfail]
  · have hinner := h.inner.fst_get hkey hclock
    simp only [Cache.get, h.failing, if_neg hfail]
    exact hinner

theorem get (h : SameFor timely keys clock c c') (key : String) :
    SameFor timely keys clock c (Cache.get key clock c').2 := by
  rw [get_eq]
  refine ⟨h.failing, ?_⟩
  simp only
  split
  · exact h.inner
  · exact h.inner.get key

theorem set_other (h : SameFor timely keys clock c c') (hkey : ¬ keys key) (value : String)
    (ttl : Time.Duration) : SameFor timely keys clock c (Cache.set key value ttl clock c').2 := by
  refine ⟨h.failing.trans (failing_set key value ttl clock c').symm, ?_⟩
  rw [inner_set]
  split
  · exact h.inner
  · exact h.inner.set_other hkey value ttl

theorem set (h : SameFor timely keys clock c c') (hfull : ¬ c.inner.MeetsFull key value ttl clock)
    (hfull' : ¬ c'.inner.MeetsFull key value ttl clock) :
    SameFor timely keys clock (Cache.set key value ttl clock c).2
      (Cache.set key value ttl clock c').2 := by
  constructor
  · rw [failing_set, failing_set, h.failing]
  · rw [inner_set, inner_set, h.failing]
    split
    · exact h.inner
    · exact h.inner.set hfull hfull'

end SameFor

end MonitoredCache

end LikedYou
