import LikedYou.Proofs.Cache.Agreement

/-!
# Two caches that answer alike

* `Twins.Written.not_isOver_iff` — the clock of a durable cache against the running clock
* `Twins.Agree.get_volatile`, `Twins.Agree.get_durable` — a read tells the last write
* `Twins.Alike.run` — in whole milliseconds both caches find and miss equally often
* `Twins.same_answers` — a text is read if it was written last and its time is not over, from either
  cache; only within a millisecond the durable cache may miss it earlier

An entry whose time is over reads as missing whether it is still there or not, so it does not matter
when a cache removes it: when it is read, in a sweep or a purge that comes with a write, or on
demand.
-/

namespace LikedYou.Twins

variable {s : Twins} {events : List Event} {key : String} {ledger : String → Option Written}

/-! ## What a read makes of a write -/

namespace Written

/-- Whether the time of a write is not over. -/
def Lasts (clock : Time.Clock) (w : Written) : Prop := clock.running < w.since.running + w.ttl

instance (clock : Time.Clock) (w : Written) : Decidable (w.Lasts clock) :=
  inferInstanceAs (Decidable (clock.running < w.since.running + w.ttl))

/-- Whether a durable cache takes the time of a write to be over. -/
def IsOver (clock : Time.Clock) (w : Written) : Prop :=
  Durable.expiryAfter w.ttl w.since.millisecond ≤ clock.millisecond

instance (clock : Time.Clock) (w : Written) : Decidable (w.IsOver clock) :=
  inferInstanceAs (Decidable (_ ≤ clock.millisecond))

/-- What a cache in memory makes of a write. -/
def fromVolatile (clock : Time.Clock) (w : Written) : Option String :=
  if w.Lasts clock then some w.value else none

/-- What a durable cache makes of a write. -/
def fromDurable (clock : Time.Clock) (w : Written) : Option String :=
  if w.IsOver clock then none else some w.value

variable {w : Written} {d : Time.Duration}

theorem lasts_advance_iff : w.Lasts (w.since.advance d) ↔ d < w.ttl := by
  show w.since.running + d < w.since.running + w.ttl ↔ d < w.ttl
  exact Nat.add_lt_add_iff_left

/-- The time is over for a durable cache when so many milliseconds have begun. -/
theorem isOver_iff {clock : Time.Clock} (hsince : w.since.Readable) (hclock : clock.Readable) :
    w.IsOver clock ↔
      w.since.wall / 1000000 + (w.ttl / 1000000 : Nat) ≤ clock.wall / 1000000 := by
  obtain ⟨hthen, -⟩ := Time.Clock.toInt_millisecond hsince
  obtain ⟨hnow, hnowLt⟩ := Time.Clock.toInt_millisecond hclock
  have hwall := hsince.1
  have hlast : Durable.lastMillisecond = 2 ^ 63 - 1 := rfl
  rw [IsOver, Durable.expiryAfter_le_iff _ (by omega) (by omega), hthen, hnow]
  rfl

theorem millis_add_le {wall : Int} {ttl d : Nat} (h : ttl ≤ d) :
    wall / 1000000 + (ttl / 1000000 : Nat) ≤ (wall + d) / 1000000 := by
  omega

theorem lt_millis_add {wall : Int} {ttl d : Nat} (hwhole : 1000000 ∣ ttl) (hd : 1000000 ∣ d)
    (h : d < ttl) : (wall + d) / 1000000 < wall / 1000000 + (ttl / 1000000 : Nat) := by
  omega

/-- A durable cache keeps a text no longer than a cache in memory does. -/
theorem lasts_of_not_isOver (hsince : w.since.Readable) (hclock : (w.since.advance d).Readable)
    (h : ¬ w.IsOver (w.since.advance d)) : w.Lasts (w.since.advance d) := by
  rw [isOver_iff hsince hclock] at h
  rw [lasts_advance_iff]
  exact Nat.not_le.mp fun hle => h (millis_add_le hle)

/-- After whole milliseconds both caches take the time of a write to be over or neither does. -/
theorem not_isOver_iff (hsince : w.since.Readable) (hclock : (w.since.advance d).Readable)
    (hwhole : 1000000 ∣ w.ttl) (hd : 1000000 ∣ d) :
    ¬ w.IsOver (w.since.advance d) ↔ w.Lasts (w.since.advance d) := by
  refine ⟨lasts_of_not_isOver hsince hclock, fun hlasts => ?_⟩
  rw [lasts_advance_iff] at hlasts
  rw [isOver_iff hsince hclock]
  exact Int.not_le.mpr (lt_millis_add hwhole hd hlasts)

end Written

/-! ## Reading -/

namespace Agree

theorem get_volatile (h : s.Agree ledger) (key : String) :
    ∃ c, s.volatile.get key s.clock = ((ledger key).bind (Written.fromVolatile s.clock), c) ∧
      (if ((ledger key).bind (Written.fromVolatile s.clock)).isSome then
        c.hits = s.volatile.hits + 1 ∧ c.misses = s.volatile.misses
      else c.hits = s.volatile.hits ∧ c.misses = s.volatile.misses + 1) := by
  obtain ⟨c, hget, -, hcounters⟩ := s.volatile.get_eq key s.clock
  have hread : (s.volatile.held? key).bind (Volatile.readEntry s.clock) =
      (ledger key).bind (Written.fromVolatile s.clock) := by
    rw [h.volatile.bind_eq _ (fun _ => Volatile.readEntry_of_isOver), Option.bind_map]
    rfl
  rw [hread] at hget hcounters
  exact ⟨c, hget, hcounters⟩

theorem get_durable (h : s.Agree ledger) (hkey : IsKey key) :
    ∃ c, s.durable.get key s.clock.millisecond =
        (.ok ((ledger key).bind (Written.fromDurable s.clock)), c) ∧
      (if ((ledger key).bind (Written.fromDurable s.clock)).isSome then
        c.hits = s.durable.hits + 1 ∧ c.misses = s.durable.misses
      else c.hits = s.durable.hits ∧ c.misses = s.durable.misses + 1) := by
  obtain ⟨c, hget, -, -, hcounters⟩ :=
    Durable.get_eq_ok hkey.1 (fun row hrow => h.decodeEntry_row hrow)
  have hread : (s.durable.row? (Utf8.ofString key)).bind (Durable.readRow s.clock.millisecond) =
      (ledger key).bind (Written.fromDurable s.clock) := by
    have hbind := h.durable.bind_eq (Durable.readRow s.clock.millisecond)
      (fun _ => Durable.readRow_of_isOver) key
    rw [Function.comp_apply, Option.bind_map] at hbind
    rw [hbind]
    exact congrArg (ledger key).bind (funext fun w => Durable.readRow_encodeEntry _ _ _)
  rw [hread] at hget hcounters
  exact ⟨c, hget, hcounters⟩

end Agree

/-! ## The clock of a run -/

/-- Whether time only goes on in whole milliseconds. -/
def InMillis (events : List Event) : Prop := ∀ d, .advance d ∈ events → 1000000 ∣ d

theorem clock_run (s : Twins) (events : List Event) :
    ∃ d, (s.run events).clock = s.clock.advance d ∧ (InMillis events → 1000000 ∣ d) := by
  induction events generalizing s with
  | nil => exact ⟨0, by simp [run, Time.Clock.advance], fun _ => Nat.dvd_zero _⟩
  | cons e events ih =>
    obtain ⟨d, hclock, hwhole⟩ := ih (s.step e)
    have hrest : InMillis (e :: events) → 1000000 ∣ d := fun h =>
      hwhole fun d' hd' => h d' (List.mem_cons_of_mem e hd')
    cases e with
    | advance d₁ =>
      -- lengths of time add up, on both clocks
      refine ⟨d₁ + d, ?_, fun h => Nat.dvd_add (h d₁ List.mem_cons_self) (hrest h)⟩
      show ((s.step (.advance d₁)).run events).clock = _
      rw [hclock]
      simp [step, Time.Clock.advance, Int.add_assoc, Nat.add_assoc]
    | _ => exact ⟨d, hclock, hrest⟩

/-- What is asked of the call that made the last write, and how long ago it was. -/
theorem LastSet.bounds {w : Written} (h : s.Proper events) (hlast : s.LastSet events key w) :
    w.since.Readable ∧ 1000000 ∣ w.ttl ∧
      ∃ d, (s.run events).clock = w.since.advance d ∧ (InMillis events → 1000000 ∣ d) := by
  obtain ⟨earlier, later, rfl, -, hsince⟩ := hlast
  obtain ⟨-, -, hwhole, -⟩ := h.fits earlier _ later rfl
  obtain ⟨d, hclock, hd⟩ := ((s.run earlier).step (.set key w.value w.ttl)).clock_run later
  refine ⟨hsince ▸ h.readable earlier _ rfl, hwhole, d, ?_, fun hmillis => hd fun d' hd' => ?_⟩
  · rw [run, List.foldl_append, List.foldl_cons, hsince]
    exact hclock
  · exact hmillis d' (List.mem_append_right _ (List.mem_cons_of_mem _ hd'))

namespace LastSet

variable {w : Written}

/-- A durable cache makes nothing else of the last write than a cache in memory, if anything. -/
theorem fromDurable_eq (h : s.Proper events) (hlast : s.LastSet events key w) :
    w.fromDurable (s.run events).clock = none ∨
      w.fromDurable (s.run events).clock = w.fromVolatile (s.run events).clock := by
  have hclock := h.readable events [] (List.append_nil _).symm
  obtain ⟨hsince, -, d, hd, -⟩ := hlast.bounds h
  rw [hd] at hclock ⊢
  by_cases hover : w.IsOver (w.since.advance d)
  · exact Or.inl (if_pos hover)
  · have hlasts := Written.lasts_of_not_isOver hsince hclock hover
    rw [Written.fromDurable, Written.fromVolatile, if_neg hover, if_pos hlasts]
    exact Or.inr rfl

theorem fromDurable_eq_of_inMillis (h : s.Proper events) (hlast : s.LastSet events key w)
    (hmillis : InMillis events) :
    w.fromDurable (s.run events).clock = w.fromVolatile (s.run events).clock := by
  have hclock := h.readable events [] (List.append_nil _).symm
  obtain ⟨hsince, hwhole, d, hd, hdWhole⟩ := hlast.bounds h
  rw [hd] at hclock ⊢
  have hiff := Written.not_isOver_iff hsince hclock hwhole (hdWhole hmillis)
  by_cases hover : w.IsOver (w.since.advance d)
  · rw [Written.fromDurable, Written.fromVolatile, if_pos hover,
      if_neg fun hlasts => hiff.mpr hlasts hover]
  · rw [Written.fromDurable, Written.fromVolatile, if_neg hover, if_pos (hiff.mp hover)]

end LastSet

/-! ## Counting -/

/-- Whether both caches found and missed equally often. -/
structure Alike (s : Twins) : Prop where
  hits : s.durable.hits = s.volatile.hits
  misses : s.durable.misses = s.volatile.misses

/-- What one event preserves, if reads of both caches answer alike before it. -/
theorem Alike.step {e : Event} (h : s.Alike) (hagree : s.Agree ledger)
    (hfits : e.Fits s) (hreadable : s.clock.Readable) (hopen : e ≠ .reopen)
    (hsame : ∀ key, (ledger key).bind (Written.fromDurable s.clock) =
      (ledger key).bind (Written.fromVolatile s.clock)) :
    (s.step e).Alike := by
  cases e with
  | advance d => exact ⟨h.hits, h.misses⟩
  | get key =>
    obtain ⟨volatile', hvolatile, hcounted⟩ := hagree.get_volatile key
    obtain ⟨durable', hdurable, hcounted'⟩ := hagree.get_durable hfits
    rw [step_get hreadable, hvolatile, hdurable]
    rw [hsame key] at hcounted'
    split at hcounted
    · next hfound =>
      rw [if_pos hfound] at hcounted'
      exact ⟨by rw [hcounted.1, hcounted'.1, h.hits], by rw [hcounted.2, hcounted'.2, h.misses]⟩
    · next hmissed =>
      rw [if_neg hmissed] at hcounted'
      exact ⟨by rw [hcounted.1, hcounted'.1, h.hits], by rw [hcounted.2, hcounted'.2, h.misses]⟩
  | set key value ttl =>
    obtain ⟨hkey, hroom, -, hend⟩ := hfits
    obtain ⟨volatile', hvolatile, -, hhits, hmisses⟩ :=
      Volatile.set_eq_ok s.volatile key value hend
    obtain ⟨durable', hdurable, -, -, hhits', hmisses'⟩ :=
      s.durable.set_eq_ok (hkey.accepts hroom)
    rw [step_set hreadable, hvolatile, hdurable]
    exact ⟨by rw [hhits, hhits', h.hits], by rw [hmisses, hmisses', h.misses]⟩
  | delete keys =>
    obtain ⟨-, hhits, hmisses⟩ := s.volatile.held?_delete keys
    obtain ⟨deleted, durable', hdurable, -, -, hhits', hmisses'⟩ :=
      Durable.delete_eq_ok (c := s.durable) (fun key hkey => (hfits key hkey).1)
    rw [step_delete, hdurable]
    exact ⟨by rw [hhits, hhits', h.hits], by rw [hmisses, hmisses', h.misses]⟩
  | purge =>
    have hvolatile := Volatile.reclaimed_purge s.clock s.volatile
    have hdurable := Durable.reclaimed_purge s.durable s.clock.millisecond
    rw [step_purge hreadable]
    exact ⟨by rw [hvolatile.hits, hdurable.hits, h.hits],
      by rw [hvolatile.misses, hdurable.misses, h.misses]⟩
  | reopen => exact absurd rfl hopen

/-! ## Runs -/

variable {clock : Time.Clock} {room : Durable.Room}

theorem InMillis.init {e : Event} (h : InMillis (events ++ [e])) : InMillis events :=
  fun d hd => h d (List.mem_append_left _ hd)

/-- **What a run in whole milliseconds preserves**, if the durable cache is not opened anew. -/
theorem Alike.run (h : (Twins.start clock room).Proper events) (hmillis : InMillis events)
    (hopen : .reopen ∉ events) : ((Twins.start clock room).run events).Alike := by
  induction events using List.reverseRecOn with
  | nil => exact ⟨rfl, rfl⟩
  | append_singleton events e ih =>
    obtain ⟨ledger, hledger, hagree⟩ := exists_agree h.init
    rw [List.mem_append, List.mem_singleton, not_or] at hopen
    rw [run_append_singleton]
    refine (ih h.init hmillis.init hopen.1).step hagree (h.fits events e [] rfl)
      (h.readable events [e] rfl) (Ne.symm hopen.2) fun key => ?_
    cases hlast : ledger key with
    | none => rfl
    | some w =>
      exact ((hledger key w).mp hlast).fromDurable_eq_of_inMillis h.init hmillis.init

/-- **Both caches answer alike.** After any run of calls,
* a read of the cache in memory gives the text that was written last, if its time is not over;
* a read of the durable cache gives the same or nothing, and the same if time went on in whole
  milliseconds;
* in that case both counted the same finds and misses, unless the durable one was opened anew. -/
theorem same_answers (h : (Twins.start clock room).Proper events) (hkey : IsKey key) :
    let s := (Twins.start clock room).run events
    ∃ a b, (Cache.get key s.clock s.volatile).1 = .ok a ∧
      (Cache.get key s.clock s.durable).1 = .ok b ∧
      (∀ value, a = some value ↔ ∃ w, (Twins.start clock room).LastSet events key w ∧
        w.Lasts s.clock ∧ w.value = value) ∧
      (b = none ∨ b = a) ∧
      (InMillis events → b = a) ∧
      (InMillis events → .reopen ∉ events → s.Alike) := by
  intro s
  obtain ⟨ledger, hledger, hagree⟩ := exists_agree h
  obtain ⟨volatile', hvolatile, -⟩ := hagree.get_volatile key
  obtain ⟨durable', hdurable, -⟩ := hagree.get_durable hkey
  have hclock := h.readable events [] (List.append_nil _).symm
  refine ⟨(ledger key).bind (Written.fromVolatile s.clock),
    (ledger key).bind (Written.fromDurable s.clock), ?_, ?_, fun value => ?_, ?_, fun hmillis => ?_,
    fun hmillis hopen => Alike.run h hmillis hopen⟩
  · exact congrArg Except.ok (congrArg Prod.fst hvolatile)
  · show (s.durable.getByClock key s.clock).1 = _
    rw [Durable.getByClock_of_millis (Time.Clock.millis_of_readable hclock), hdurable]
    rfl
  · rw [Option.bind_eq_some_iff]
    refine exists_congr fun w => and_congr (hledger key w) ?_
    rw [Written.fromVolatile, Option.ite_none_right_eq_some, Option.some.injEq]
  · cases hlast : ledger key with
    | none => exact Or.inl rfl
    | some w => exact ((hledger key w).mp hlast).fromDurable_eq h
  · cases hlast : ledger key with
    | none => rfl
    | some w => exact ((hledger key w).mp hlast).fromDurable_eq_of_inMillis h hmillis

/-- A text is kept for two milliseconds, and one goes by. -/
def oneWrite : List Event := [.set "a" "x" 2000000, .advance 1000000]

theorem proper_oneWrite : (Twins.start (.start 0 0) (.ofBytes 10)).Proper oneWrite := by
  refine ⟨fun earlier e later hevents => ?_, fun earlier later hevents => ?_⟩
  · rcases earlier with _ | ⟨_, _ | ⟨_, _ | ⟨_, _⟩⟩⟩
    · cases hevents
      exact ⟨by decide, by decide, by decide, by decide⟩
    · cases hevents
      trivial
    · cases hevents
    · cases hevents
  · rcases earlier with _ | ⟨_, _ | ⟨_, _ | ⟨_, _⟩⟩⟩
    · exact ⟨by decide, by decide⟩
    · cases hevents
      exact ⟨by decide, by decide⟩
    · cases hevents
      exact ⟨by decide, by decide⟩
    · cases hevents

theorem same_answers_oneWrite :
    let s := (Twins.start (.start 0 0) (.ofBytes 10)).run oneWrite
    (Cache.get "a" s.clock s.volatile).1 = .ok (some "x") ∧
      (Cache.get "a" s.clock s.durable).1 = .ok (some "x") ∧ s.Alike := by
  intro s
  obtain ⟨a, b, hvolatile, hdurable, hread, -, hsame, halike⟩ :=
    same_answers proper_oneWrite (show IsKey "a" by decide)
  have hmillis : InMillis oneWrite := by
    intro d hd
    simp only [oneWrite, List.mem_cons, List.not_mem_nil, or_false, reduceCtorEq, false_or] at hd
    cases hd
    decide
  have hlast : (Twins.start (.start 0 0) (.ofBytes 10)).LastSet oneWrite "a" ⟨"x", .start 0 0, 2000000⟩ :=
    ⟨[], [.advance 1000000], rfl, by simp [Event.Names], rfl⟩
  have ha : a = some "x" := (hread "x").mpr ⟨_, hlast, by decide, rfl⟩
  rw [hsame hmillis, ha] at hdurable
  rw [ha] at hvolatile
  exact ⟨hvolatile, hdurable, halike hmillis (by simp [oneWrite])⟩

end LikedYou.Twins
