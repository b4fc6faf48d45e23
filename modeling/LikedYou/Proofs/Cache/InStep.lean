import LikedYou.Proofs.Cache.Durable
import LikedYou.Proofs.Cache.Index
import LikedYou.Proofs.Cache.Transactions
import LikedYou.Proofs.Time.Clock

/-!
# The tables of a durable cache stay in step

* `Durable.run` — calls of a durable cache, each by a clock of its own
* `Durable.Indexed.serve` — what one call preserves
* `Durable.in_step` — whatever was called, there is one index row for each entry, and a purge does
  what a scan would do

Every transaction keeps the two tables in step, so every call does that is made of transactions, and
also a call that fails in the middle: the transaction it fails in leaves no trace.
-/

namespace LikedYou.Durable

variable {c : Durable} {key value : String} {now : Int64} {clock : Time.Clock}

/-! ## Calls -/

/-- A call of a durable cache. -/
inductive Call where
  | get (key : String)
  | set (key value : String) (ttl : Time.Duration)
  | delete (keys : List String)
  | purge
  /-- The cache is opened once more. -/
  | reopen

/-- The cache after a call. -/
def serve (clock : Time.Clock) (c : Durable) : Call → Durable
  | .get key => (Cache.get key clock c).2
  | .set key value ttl => (Cache.set key value ttl clock c).2
  | .delete keys => (Cache.delete keys c).2
  | .purge =>
    match c.purgeByClock clock with
    | .ok (_, c) => c
    | .error _ => c
  | .reopen => c.reopen

/-- The cache after calls, each of which comes with what the clock shows then. -/
def run (c : Durable) (calls : List (Time.Clock × Call)) : Durable :=
  calls.foldl (fun c (clock, call) => c.serve clock call) c

/-! ## What the calls preserve -/

/-- Whether the tables of a cache are in step. -/
def Indexed (c : Durable) : Prop := c.tables.Indexed

namespace Indexed

theorem new (room : Room) : (Durable.new room).Indexed := Tables.Indexed.empty

theorem purge (h : c.Indexed) (now : Int64) : (c.purge now).2.Indexed := by
  obtain ⟨t', hpurge, hindexed, -⟩ := Tables.Indexed.purge h now
  rw [Durable.purge, hpurge]
  exact hindexed

theorem countWrite (h : c.Indexed) (now : Int64) : (c.countWrite now).Indexed := by
  unfold Durable.countWrite
  simp only
  split
  · exact purge (c := { c with writes := c.writes + 1 }) h now
  · exact h

/-- All transactions of a time that can be read preserve that. -/
theorem lasting (hnow : 0 ≤ now.toInt) : Lasting now Tables.Indexed where
  write {t t' room key value ttl} h hwrite := by
    have hnonneg : 0 ≤ (expiryAfter ttl now).toInt := by
      have hexpiry := toInt_expiryAfter ttl hnow
      omega
    exact h.write (entryExpiry?_encodeEntry value _) hnonneg hwrite
  removeAll h hall := h.removeAll hall
  reclaim h hreclaim := h.reclaim hreclaim
  purge {t t' removed} h hpurge := by
    obtain ⟨t'', hpurge', hindexed, -⟩ := h.purge now
    rw [hpurge] at hpurge'
    cases hpurge'
    exact hindexed

theorem set (h : c.Indexed) (key value : String) (ttl : Time.Duration) (hnow : 0 ≤ now.toInt) :
    (c.set key value ttl now).2.Indexed := (lasting hnow).after_set h key value ttl

/-- **What one call preserves**, whether it succeeds or fails. -/
theorem serve (h : c.Indexed) (clock : Time.Clock) (call : Call) : (c.serve clock call).Indexed := by
  have hzero : 0 ≤ (0 : Int64).toInt := by decide
  cases call with
  | get key =>
    show (c.getByClock key clock).2.Indexed
    unfold getByClock
    cases hmillis : clock.millis with
    | ok now => exact (lasting (Time.Clock.nonneg_of_millis hmillis)).after_get h key
    | error b =>
      -- a clock that cannot be read ends the call, or does not matter to it
      simp only
      split
      · exact h
      · exact (lasting hzero).after_get h key
  | set key value ttl =>
    show (c.setByClock key value ttl clock).2.Indexed
    unfold setByClock
    cases hmillis : clock.millis with
    | ok now => exact h.set key value ttl (Time.Clock.nonneg_of_millis hmillis)
    | error b => exact h
  | delete keys => exact (lasting hzero).after_delete h keys
  | purge =>
    show (match c.purgeByClock clock with
      | .ok (_, c) => c
      | .error _ => c).Indexed
    unfold purgeByClock
    cases hmillis : clock.millis with
    | ok now => exact h.purge now
    | error b => exact h
  | reopen => exact h

/-- **What any run preserves.** -/
theorem run (h : c.Indexed) (calls : List (Time.Clock × Call)) : (c.run calls).Indexed := by
  induction calls generalizing c with
  | nil => exact h
  | cons first rest ih => exact ih (h.serve first.1 first.2)

end Indexed

/-! ## The tables after a run -/

/-- Whether the index rows are those of the entries, one for each and none besides. An index row
carries nothing, and an entry without an expiry has none. -/
def Tables.InStep (t : Tables) : Prop :=
  (t.expiry.toList.map some).Perm (t.entries.toList.map fun (key, row) =>
    (entryExpiry? row).map fun expiresAt => (indexRow expiresAt key, []))

/-- **The tables stay in step.** Whatever room there is, after any calls by any clocks, failed ones
included,
* the index rows are those of the entries, one for each;
* a purge removes the entries that a scan of all would find, tells how many they were, and leaves
  the other entries and their index rows as they were. -/
theorem in_step (room : Room) (calls : List (Time.Clock × Call)) :
    let c := (Durable.new room).run calls
    c.tables.InStep ∧
      ∀ now, ∃ (removed : Nat) (tables : Tables),
        c.purge now = (.ok removed, { c with tables, evictions := c.evictions + removed }) ∧
        (removed = c.tables.entries.toList.countP fun (_, row) => IsOver now row) ∧
        tables.entries = c.tables.entries.filter (fun _ row => !decide (IsOver now row)) ∧
        tables.InStep ∧
        ∀ key expiresAt, c.tables.expiresAt? key = some expiresAt → now < expiresAt →
          tables.expiry[indexRow expiresAt key]? = c.tables.expiry[indexRow expiresAt key]? := by
  intro c
  have hindexed : c.tables.Indexed := (Indexed.new room).run calls
  refine ⟨hindexed.perm, fun now => ?_⟩
  obtain ⟨tables, hpurge, hindexed', hentries⟩ := hindexed.purge now
  refine ⟨_, tables, ?_, rfl, hentries, hindexed'.perm, fun key expiresAt he hlive => ?_⟩
  · rw [Durable.purge, hpurge]
  · -- the entry is still there, so its index row is
    obtain ⟨row, hrow, hexpiry⟩ := Tables.Indexed.expiresAt?_eq_some_iff.mp he
    have hkept : tables.row? key = some row := by
      have hnot : ¬ IsOver now row := by
        rintro ⟨e, he', hle⟩
        rw [hexpiry] at he'
        cases he'
        exact Int64.not_lt.mpr hle hlive
      rw [Tables.row?, hentries, Std.ExtTreeMap.getElem?_filter']
      show (c.tables.row? key).filter _ = _
      rw [hrow, Option.filter_some_pos]
      simp [hnot]
    have hkept' : tables.expiresAt? key = some expiresAt :=
      Tables.Indexed.expiresAt?_eq_some_iff.mpr ⟨row, hkept, hexpiry⟩
    rw [(hindexed'.index _ []).mpr ⟨rfl, key, expiresAt, hkept', rfl⟩,
      (hindexed.index _ []).mpr ⟨rfl, key, expiresAt, he, rfl⟩]

end LikedYou.Durable
