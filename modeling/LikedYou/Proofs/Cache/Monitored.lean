import LikedYou.Proofs.Cache.Backend

/-!
# Monitored caches

* `MonitoredCache.get_of_ok` — what is found is what the cache behind finds
* `Backend.Within.get_monitored`, `Backend.Within.set_monitored` — a call that is made to fail leaves
  what the cache keeps as it is
* `Backend.not_breaksDown_set` — when a write does not break down, so that it is counted
-/

namespace LikedYou

namespace MonitoredCache

variable {κ : Type} [Cache κ] {key value : String} {ttl : Time.Duration} {clock : Time.Clock}
  {c : MonitoredCache κ}

/-! ## Reads -/

/-- What a read leaves: one call more, and what a read that is not made to fail leaves behind. -/
theorem get_eq (key : String) (clock : Time.Clock) (c : MonitoredCache κ) :
    (Cache.get key clock c).2 =
      { c with
        getCalls := c.getCalls + 1
        inner := if c.failing.gets then c.inner else (Cache.get key clock c.inner).2 } := by
  by_cases hfail : c.failing.gets = true
  · simp [Cache.get, hfail]
  · simp [Cache.get, hfail]

theorem get_of_ok {found : Option String} (h : (Cache.get key clock c).1 = .ok found) :
    (Cache.get key clock c.inner).1 = .ok found := by
  by_cases hfail : c.failing.gets = true
  · simp [Cache.get, hfail] at h
  · simpa [Cache.get, hfail] using h

theorem get_of_breakdown {b : Breakdown} (h : (Cache.get key clock c).1 = .error (.breakdown b)) :
    (Cache.get key clock c.inner).1 = .error (.breakdown b) := by
  by_cases hfail : c.failing.gets = true
  · simp [Cache.get, hfail] at h
  · simpa [Cache.get, hfail] using h

/-! ## Writes -/

theorem inner_set (key value : String) (ttl : Time.Duration) (clock : Time.Clock)
    (c : MonitoredCache κ) :
    (Cache.set key value ttl clock c).2.inner =
      if c.failing.sets then c.inner else (Cache.set key value ttl clock c.inner).2 := by
  by_cases hfail : c.failing.sets = true
  · simp [Cache.set, hfail]
  · rw [show Cache.set key value ttl clock c = _ from if_neg hfail, if_neg hfail]
    split
    · next h => rw [h]
    · next h => rw [h]

theorem failing_set (key value : String) (ttl : Time.Duration) (clock : Time.Clock)
    (c : MonitoredCache κ) : (Cache.set key value ttl clock c).2.failing = c.failing := by
  by_cases hfail : c.failing.sets = true
  · simp [Cache.set, hfail]
  · rw [show Cache.set key value ttl clock c = _ from if_neg hfail]
    split
    · rfl
    · rfl

/-- A write that does not break down is counted once, also when it fails. -/
theorem setAttempts_set
    (h : ∀ b, (Cache.set key value ttl clock c.inner).1 ≠ .error (.breakdown b)) :
    (Cache.set key value ttl clock c).2.setAttempts = c.setAttempts + 1 := by
  by_cases hfail : c.failing.sets = true
  · simp [Cache.set, hfail]
  · rw [show Cache.set key value ttl clock c = _ from if_neg hfail]
    split
    · next b inner hset => exact absurd (congrArg Prod.fst hset) (h b)
    · rfl

end MonitoredCache

namespace Backend

open Twins (Written)

variable {key value : String} {ttl : Time.Duration} {clock : Time.Clock}
  {c : MonitoredCache Backend} {p : String → Written → Prop}

/-! ## What is kept -/

namespace Within

theorem get_monitored (h : c.inner.Within p) (key : String) (clock : Time.Clock) :
    (Cache.get key clock c).2.inner.Within p := by
  rw [MonitoredCache.get_eq]
  simp only
  split
  · exact h
  · exact h.get key clock

theorem set_monitored (h : c.inner.Within p) (hp : p key ⟨value, clock, ttl⟩) :
    (Cache.set key value ttl clock c).2.inner.Within p := by
  rw [MonitoredCache.inner_set]
  split
  · exact h
  · exact h.set hp

end Within

/-! ## Breakdowns -/

theorem mapError_toOperation_ne {α : Type} (x : Except Durable.Fault α) (b : Breakdown) :
    x.mapError Durable.Fault.toOperation ≠ .error (.breakdown b) := by
  intro h
  cases x with
  | ok a => cases h
  | error f => cases h

theorem not_breaksDown_get (hclock : clock.Readable) (key : String) (c : Backend) (b : Breakdown) :
    (Cache.get key clock c).1 ≠ .error (.breakdown b) := by
  cases c with
  | volatile c =>
    intro h
    cases h
  | durable c =>
    show (c.getByClock key clock).1 ≠ _
    rw [Durable.getByClock_of_millis (Time.Clock.millis_of_readable hclock)]
    exact mapError_toOperation_ne _ b

theorem not_breaksDown_set (hclock : clock.Readable) (hend : clock.running + ttl < Volatile.clockEnd)
    (key value : String) (c : Backend) (b : Breakdown) :
    (Cache.set key value ttl clock c).1 ≠ .error (.breakdown b) := by
  cases c with
  | volatile c =>
    obtain ⟨c', hok, -⟩ := Volatile.set_eq_ok c key value hend
    show (c.set key value ttl clock).1 ≠ _
    rw [hok]
    intro h
    cases h
  | durable c =>
    show (c.setByClock key value ttl clock).1 ≠ _
    rw [Durable.setByClock_of_millis (Time.Clock.millis_of_readable hclock)]
    exact mapError_toOperation_ne _ b

end Backend

end LikedYou
