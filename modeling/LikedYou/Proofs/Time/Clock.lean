import LikedYou.Time.Clock
import Mathlib.Algebra.Group.Int.Defs

/-!
# What a clock shows

* `Clock.seconds_of_now` — the second of the current point in time
* `Clock.toInt_millisecond` — the current millisecond
* `Clock.second_le_advance`, `Clock.millisecond_le` — time does not go back
-/

namespace LikedYou.Time

theorem Timestamp.lastSecond_lt : Timestamp.lastSecond < 2 ^ 43 := by decide

namespace Clock

/-- The second that a clock shows, also where it cannot be read. -/
def second (c : Clock) : Int := c.wall / 1000000000

theorem second_le_advance (c : Clock) (d : Duration) : c.second ≤ (c.advance d).second := by
  unfold second advance
  simp only
  omega

@[simp] theorem advance_zero (c : Clock) : c.advance 0 = c := by simp [advance]

theorem advance_advance (c : Clock) (d d' : Duration) :
    (c.advance d).advance d' = c.advance (d + d') := by
  simp [advance, Int.add_assoc, Nat.add_assoc]

/-- Whether a clock can be read. -/
def Readable (c : Clock) : Prop := 0 ≤ c.wall ∧ c.second ≤ Timestamp.lastSecond

instance (c : Clock) : Decidable c.Readable := inferInstanceAs (Decidable (_ ∧ _))

theorem read_of_readable {c : Clock} (h : c.Readable) : c.read = .ok c.wall.toNat :=
  read_eq_ok_iff.mpr ⟨h.1, h.2, rfl⟩

theorem exists_now {c : Clock} (h : c.Readable) : ∃ t, c.now = .ok t := by
  rw [now, read_of_readable h]
  exact ⟨_, rfl⟩

theorem readable_of_now {c : Clock} {t : Timestamp} (h : c.now = .ok t) : c.Readable := by
  cases hread : c.read with
  | error b => simp [now, hread, Except.map] at h
  | ok n =>
    obtain ⟨hwall, hlast, -⟩ := read_eq_ok_iff.mp hread
    exact ⟨hwall, hlast⟩

/-- **The second of the current point in time is the second that the clock shows.** -/
theorem seconds_of_now {c : Clock} {t : Timestamp} (h : c.now = .ok t) :
    t.seconds.toInt = c.second := by
  cases hread : c.read with
  | error b => simp [now, hread, Except.map] at h
  | ok n =>
    obtain ⟨hwall, hlast, rfl⟩ := read_eq_ok_iff.mp hread
    simp only [now, hread, Except.map, Except.ok.injEq] at h
    subst h
    have hlt := Timestamp.lastSecond_lt
    rw [second, Int64.toInt_ofNat_of_lt (by omega)]
    omega

/-- The millisecond that a clock shows. -/
def millisecond (c : Clock) : Int64 := Int64.ofNat (c.wall.toNat / 1000000)

theorem millis_of_readable {c : Clock} (h : c.Readable) : c.millis = .ok c.millisecond := by
  rw [millis, read_of_readable h]
  rfl

theorem readable_of_millis {c : Clock} {now : Int64} (h : c.millis = .ok now) :
    c.Readable ∧ now = c.millisecond := by
  cases hread : c.read with
  | error b => simp [millis, hread, Except.map] at h
  | ok n =>
    obtain ⟨hwall, hlast, rfl⟩ := read_eq_ok_iff.mp hread
    simp only [millis, hread, Except.map, Except.ok.injEq] at h
    exact ⟨⟨hwall, hlast⟩, h.symm⟩

/-- **The current millisecond is the wall time in milliseconds, rounded down.** -/
theorem toInt_millisecond {c : Clock} (h : c.Readable) :
    c.millisecond.toInt = c.wall / 1000000 ∧ c.wall / 1000000 < 2 ^ 53 := by
  obtain ⟨hwall, hlast⟩ := h
  have hlt := Timestamp.lastSecond_lt
  rw [second] at hlast
  rw [millisecond, Int64.toInt_ofNat_of_lt (by omega)]
  omega

theorem nonneg_of_millis {c : Clock} {now : Int64} (h : c.millis = .ok now) : 0 ≤ now.toInt := by
  obtain ⟨hreadable, rfl⟩ := readable_of_millis h
  have hwall := hreadable.1
  rw [(toInt_millisecond hreadable).1]
  omega

/-- A clock that can be read can be read later, up to the end of the calendar. -/
theorem Readable.advance {c : Clock} (h : c.Readable) {d : Duration}
    (hlast : (c.advance d).second ≤ Timestamp.lastSecond) : (c.advance d).Readable :=
  ⟨Int.le_trans h.1 (Int.le_add_of_nonneg_right (Int.natCast_nonneg d)), hlast⟩

theorem millisecond_le {c c' : Clock} (h' : c'.Readable) (hle : c.wall ≤ c'.wall) :
    c.millisecond ≤ c'.millisecond := by
  have hlt := (toInt_millisecond h').2
  rw [Int64.le_iff_toInt_le, (toInt_millisecond h').1, millisecond,
    Int64.toInt_ofNat_of_lt (by omega)]
  have hwall := h'.1
  omega

theorem millisecond_le_advance {c : Clock} {d : Duration} (h' : (c.advance d).Readable) :
    c.millisecond ≤ (c.advance d).millisecond :=
  millisecond_le h' (Int.le_add_of_nonneg_right (Int.natCast_nonneg d))

end Clock

end LikedYou.Time
