import LikedYou.Proofs.Cache.Twins
import Mathlib.Data.List.Induction

/-!
# What two caches hold

* `Twins.Agree` — each cache holds the last writes, less some of those whose time is over
* `Twins.Agree.step`, `Twins.exists_agree` — what one event and what any run preserves

The caches remove entries at different moments: when they are read, by sweeps and purges of writes,
by explicit purges. All of these remove entries whose time is over, and such an entry reads as
missing whether it is there or not.
-/

namespace LikedYou.Twins

variable {s : Twins} {events : List Event} {key : String} {ledger : String → Option Written}

/-! ## The ledger of last writes -/

/-- The entry in memory that a write makes. -/
def Written.entry (w : Written) : String × Time.Duration := (w.value, w.since.running + w.ttl)

/-- The stored row that a write makes. -/
def Written.row (w : Written) : Bytes :=
  Durable.encodeEntry w.value (Durable.expiryAfter w.ttl w.since.millisecond)

/-- The last writes after one more event. -/
def noted (clock : Time.Clock) (ledger : String → Option Written) :
    Event → String → Option Written
  | .set key value ttl => fun k => if k = key then some ⟨value, clock, ttl⟩ else ledger k
  | .delete keys => fun k => if k ∈ keys then none else ledger k
  | _ => ledger

theorem noted_set (clock : Time.Clock) (ledger : String → Option Written) (key value : String)
    (ttl : Time.Duration) (k : String) :
    noted clock ledger (.set key value ttl) k =
      if k = key then some ⟨value, clock, ttl⟩ else ledger k := rfl

theorem noted_delete (clock : Time.Clock) (ledger : String → Option Written) (keys : List String)
    (k : String) :
    noted clock ledger (.delete keys) k = if k ∈ keys then none else ledger k := rfl

/-- The ledger tells the last write under each key. -/
theorem noted_eq_some_iff (h : ∀ key w, ledger key = some w ↔ s.LastSet events key w) (e : Event)
    (key : String) (w : Written) :
    noted (s.run events).clock ledger e key = some w ↔ s.LastSet (events ++ [e]) key w := by
  rw [lastSet_append_iff, ← h]
  cases e with
  | set k value ttl =>
    simp only [noted, Event.Names]
    by_cases hk : key = k
    · subst hk
      obtain ⟨value', since, ttl'⟩ := w
      simp [eq_comm, and_assoc, and_left_comm, and_comm]
    · simp [hk, Ne.symm hk]
  | delete keys =>
    simp only [noted, Event.Names]
    by_cases hk : key ∈ keys
    · simp [hk]
    · simp [hk]
  | _ => simp [noted, Event.Names]

/-! ## The invariant -/

/-- Whether each cache holds the last writes, less some of those whose time is over. -/
structure Agree (ledger : String → Option Written) (s : Twins) : Prop where
  volatile : Trims (Volatile.IsOver s.clock) (fun key => (ledger key).map Written.entry)
    s.volatile.held?
  durable : Trims (Durable.IsOver s.clock.millisecond) (fun key => (ledger key).map Written.row)
    (s.durable.row? ∘ Utf8.ofString)

namespace Agree

theorem start (clock : Time.Clock) (room : Durable.Room) :
    Agree (fun _ => none) (Twins.start clock room) :=
  ⟨fun _ => Or.inl rfl, fun _ => Or.inl rfl⟩

/-- All rows can be read. -/
theorem decodeEntry_row (h : s.Agree ledger) {row : Bytes}
    (hrow : s.durable.row? (Utf8.ofString key) = some row) :
    ∃ reading, Durable.decodeEntry row s.clock.millisecond = .ok reading := by
  obtain ⟨w, -, rfl⟩ := Option.map_eq_some_iff.mp (h.durable.eq_some hrow)
  exact ⟨_, Durable.decodeEntry_encodeEntry _ _ _⟩

theorem advance (h : s.Agree ledger) (d : Time.Duration)
    (hreadable : (s.clock.advance d).Readable) : Agree ledger (s.step (.advance d)) := by
  refine ⟨h.volatile.mono fun entry hover => ?_, h.durable.mono fun row hover => ?_⟩
  · exact Nat.le_trans hover (Nat.le_add_right _ _)
  · -- what was over stays over, since milliseconds do not go back
    exact hover.mono (Time.Clock.millisecond_le_advance hreadable)

theorem get (h : s.Agree ledger) (hreadable : s.clock.Readable) (hkey : IsKey key) :
    Agree ledger (s.step (.get key)) := by
  obtain ⟨volatile', hvolatile, htrims, -⟩ := s.volatile.get_eq key s.clock
  obtain ⟨durable', hdurable, htrims', -⟩ :=
    Durable.get_eq_ok hkey.1 (fun row hrow => h.decodeEntry_row hrow)
  rw [step_get hreadable, hvolatile, hdurable]
  exact ⟨h.volatile.trans htrims, h.durable.trans (htrims'.comp Utf8.ofString)⟩

theorem set {value : String} {ttl : Time.Duration} (h : s.Agree ledger)
    (hreadable : s.clock.Readable) (hfits : (Event.set key value ttl).Fits s) :
    Agree (noted s.clock ledger (.set key value ttl)) (s.step (.set key value ttl)) := by
  obtain ⟨hkey, hroom, -, hend⟩ := hfits
  obtain ⟨volatile', hvolatile, hentries, -⟩ :=
    Volatile.set_eq_ok s.volatile key value hend
  obtain ⟨durable', hdurable, hrows, -⟩ := s.durable.set_eq_ok (hkey.accepts hroom)
  have hswept := (Volatile.reclaimed_swept s.clock s.volatile).trims
  have hleft := (s.durable.reclaimed_atWrite key value ttl s.clock.millisecond).trims
  rw [step_set hreadable, hvolatile, hdurable]
  refine ⟨?_, ?_⟩
  · refine (h.volatile.trans hswept).update (· = key) (fun k hk => ?_) (fun k hk => ?_)
      (fun k hk => ?_)
    · rw [hentries, noted_set, if_pos hk, if_pos hk]
      rfl
    · rw [noted_set, if_neg hk]
    · rw [hentries, if_neg hk]
  · -- keys of the tables are bytes, and different texts have different bytes
    refine (h.durable.trans (hleft.comp Utf8.ofString)).update (· = key) (fun k hk => ?_)
      (fun k hk => ?_) (fun k hk => ?_)
    · rw [Function.comp_apply, hrows, noted_set, if_pos (congrArg Utf8.ofString hk), if_pos hk]
      rfl
    · rw [noted_set, if_neg hk]
    · rw [Function.comp_apply, hrows, if_neg fun he => hk (Utf8.ofString_injective he)]
      rfl

theorem delete {keys : List String} (h : s.Agree ledger) (hkeys : ∀ key ∈ keys, IsKey key) :
    Agree (noted s.clock ledger (.delete keys)) (s.step (.delete keys)) := by
  obtain ⟨hentries, -⟩ := s.volatile.held?_delete keys
  obtain ⟨deleted, durable', hdurable, hrows, -⟩ :=
    Durable.delete_eq_ok (c := s.durable) (fun key hkey => (hkeys key hkey).1)
  rw [step_delete, hdurable]
  refine ⟨?_, ?_⟩
  · refine h.volatile.update (· ∈ keys) (fun k hk => ?_) (fun k hk => ?_) (fun k hk => ?_)
    · rw [hentries, noted_delete, if_pos hk, if_pos hk]
      rfl
    · rw [noted_delete, if_neg hk]
    · rw [hentries, if_neg hk]
  · refine h.durable.update (· ∈ keys) (fun k hk => ?_) (fun k hk => ?_) (fun k hk => ?_)
    · rw [Function.comp_apply, hrows, noted_delete, if_pos (Utf8.ofString_mem_map_iff.mpr hk), if_pos hk]
      rfl
    · rw [noted_delete, if_neg hk]
    · rw [Function.comp_apply, hrows, if_neg (mt Utf8.ofString_mem_map_iff.mp hk)]
      rfl

theorem purge (h : s.Agree ledger) (hreadable : s.clock.Readable) :
    Agree ledger (s.step .purge) := by
  have hvolatile := (Volatile.reclaimed_purge s.clock s.volatile).trims
  have hdurable := (Durable.reclaimed_purge s.durable s.clock.millisecond).trims
  rw [step_purge hreadable]
  exact ⟨h.volatile.trans hvolatile, h.durable.trans (hdurable.comp Utf8.ofString)⟩

/-- **What one event preserves.** -/
theorem step {e : Event} (h : s.Agree ledger) (hfits : e.Fits s)
    (hreadable : s.clock.Readable) (hreadable' : (s.step e).clock.Readable) :
    Agree (noted s.clock ledger e) (s.step e) := by
  cases e with
  | advance d => exact h.advance d hreadable'
  | get key => exact h.get hreadable hfits
  | set key value ttl => exact h.set hreadable hfits
  | delete keys => exact h.delete hfits
  | purge => exact h.purge hreadable
  | reopen => exact ⟨h.volatile, h.durable⟩

end Agree

/-- **What any run preserves.** -/
theorem exists_agree {clock : Time.Clock} {room : Durable.Room}
    (h : (Twins.start clock room).Proper events) :
    ∃ ledger, (∀ key w, ledger key = some w ↔ (Twins.start clock room).LastSet events key w) ∧
      Agree ledger ((Twins.start clock room).run events) := by
  induction events using List.reverseRecOn with
  | nil =>
    refine ⟨_, fun key w => ?_, .start clock room⟩
    exact iff_of_false nofun (not_lastSet_nil _ key w)
  | append_singleton events e ih =>
    obtain ⟨ledger, hledger, hagree⟩ := ih h.init
    refine ⟨_, noted_eq_some_iff hledger e, ?_⟩
    rw [run_append_singleton]
    refine hagree.step (h.fits events e [] rfl) (h.readable events [e] rfl) ?_
    rw [← run_append_singleton]
    exact h.readable (events ++ [e]) [] (List.append_nil _).symm

end LikedYou.Twins
