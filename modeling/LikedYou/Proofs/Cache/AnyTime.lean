import LikedYou.Proofs.Cache.InStep
import LikedYou.Proofs.Cache.Purge

/-!
# Purging at any time

* `Durable.runAt` — calls of a durable cache at given milliseconds, before 1970 or after
* `Tables.Filed.purge`, `Tables.Filed.runAt` — what a purge and a run preserve at any time
* `Durable.tidies_iff` — a purge by a clock leaves the tables tidy if and only if the clock can be
  read; at a given millisecond it does unless there is an entry whose time was over before 1970

An entry tells its expiry with a sign and its index row without one: there an expiry before 1970 stands
as the beginning of 1970. So a purge of that time does not find such an entry, and a later one removes
the index row, but takes it for that of another entry, and leaves the entry.
-/

namespace LikedYou.Durable

variable {c : Durable} {now expiresAt : Int64} {key r : Bytes} {clock : Time.Clock}

/-! ## Calls at any time -/

/-- The cache after a call at a given millisecond, which may be any. -/
def serveAt (now : Int64) (c : Durable) : Call → Durable
  | .get key => (c.get key now).2
  | .set key value ttl => (c.set key value ttl now).2
  | .delete keys => (c.delete keys).2
  | .purge => (c.purge now).2
  | .reopen => c.reopen

/-- The cache after calls, each of which comes with its millisecond. -/
def runAt (c : Durable) (calls : List (Int64 × Call)) : Durable :=
  calls.foldl (fun c (now, call) => c.serveAt now call) c

/-- By a clock that can be read a call is the call at its millisecond. -/
theorem serve_of_millis (h : clock.millis = .ok now) (c : Durable) (call : Call) :
    c.serve clock call = c.serveAt now call := by
  cases call with
  | get key => exact congrArg Prod.snd (getByClock_of_millis h)
  | set key value ttl => exact congrArg Prod.snd (setByClock_of_millis h)
  | delete keys => rfl
  | purge => simp only [serve, serveAt, purgeByClock, h, Except.map]
  | reopen => rfl

theorem serve_purge_of_error {b : Breakdown} (h : clock.millis = .error b) (c : Durable) :
    c.serve clock .purge = c := by
  simp only [serve, purgeByClock, h, Except.map]

/-! ## Index rows without sign -/

/-- An expiry before 1970 is put at its beginning. -/
theorem indexRow_of_neg (h : expiresAt.toInt < 0) (key : Bytes) :
    indexRow expiresAt key = indexRow 0 key := by
  rw [indexRow, indexRow, Int.toNat_of_nonpos (Int.le_of_lt h)]
  rfl

theorem nonneg_of_splitIndexRow? (h : splitIndexRow? r = some (expiresAt, key)) :
    0 ≤ expiresAt.toInt := by
  obtain ⟨first, -, -, rfl⟩ := splitIndexRow?_eq_some_iff.mp h
  rw [toInt_min_lastMillisecond]
  omega

namespace Tables

variable {t t' : Tables} {q : Int64 → Prop} {removed : Nat}

/-- Whether an entry of a given expiry has its index row as long as no purge was later than `now`. -/
def IsFiledAt (now expiresAt : Int64) : Prop := 0 ≤ expiresAt.toInt ∨ now.toInt < 0

theorem IsFiledAt.of_le {now' : Int64} (h : IsFiledAt now' expiresAt) (hle : now ≤ now') :
    IsFiledAt now expiresAt := by
  rw [Int64.le_iff_toInt_le] at hle
  exact h.imp_right fun hneg => Int.lt_of_le_of_lt hle hneg

/-- Whether tables are as a purge should leave them: no entry is left whose time is over, and all that
are left have their index rows. -/
structure Tidy (now : Int64) (t : Tables) : Prop where
  live : ∀ key row, t.row? key = some row → ¬ IsOver now row
  listed : ∀ key e, t.expiresAt? key = some e → t.expiry[indexRow e key]? = some []

namespace Filed

theorem unloaded {p : Int64 → Prop} (h : t.Filed p q) : t.Unloaded := fun r load hr =>
  (h.sound r load hr).1

theorem not_blocked {p : Int64 → Prop} (h : t.Filed p q) (now : Int64) : ¬ t.Blocked now := by
  rintro ⟨r, hr, hlength, -⟩
  obtain ⟨load, hload⟩ :=
    Option.isSome_iff_exists.mp (Std.ExtTreeMap.mem_iff_isSome_getElem?.mp hr)
  obtain ⟨-, key, e, he, rfl⟩ := h.sound r load hload
  rw [length_indexRow] at hlength
  exact h.ne_nil he (List.length_eq_zero_iff.mp (by omega))

/-- A purge finds the entries whose time is over, and was not over before 1970. -/
theorem doomed_iff (h : t.Filed (IsFiledAt now) q) (he : t.expiresAt? key = some expiresAt) :
    t.Doomed now key ↔ expiresAt ≤ now ∧ 0 ≤ expiresAt.toInt := by
  constructor
  · rintro ⟨e, he', hle, r, -, hsplit⟩
    rw [he] at he'
    cases he'
    exact ⟨hle, nonneg_of_splitIndexRow? hsplit⟩
  · rintro ⟨hle, hnonneg⟩
    have hrow := h.listed key expiresAt he (Or.inl hnonneg)
    refine ⟨expiresAt, he, hle, indexRow expiresAt key, ?_, splitIndexRow?_indexRow hnonneg key⟩
    exact Std.ExtTreeMap.mem_iff_isSome_getElem?.mpr (Option.isSome_iff_exists.mpr ⟨_, hrow⟩)

end Filed

/-- What is left of the entries after a purge. -/
theorem PurgedAt.row?_eq_some_iff (h : t.PurgedAt now t' removed) {row : Bytes} :
    t'.row? key = some row ↔ t.row? key = some row ∧ ¬ t.Doomed now key := by
  by_cases hdoomed : t.Doomed now key
  · rw [h.gone key hdoomed]
    exact iff_of_false nofun fun hleft => hleft.2 hdoomed
  · rw [h.spared key hdoomed, and_iff_left hdoomed]

theorem PurgedAt.expiresAt?_eq_some_iff (h : t.PurgedAt now t' removed) :
    t'.expiresAt? key = some expiresAt ↔
      t.expiresAt? key = some expiresAt ∧ ¬ t.Doomed now key := by
  simp only [Indexed.expiresAt?_eq_some_iff, h.row?_eq_some_iff, and_right_comm,
    exists_and_right]

namespace Filed

/-- What is left after a purge is filed as before, if an expiry before 1970 only counts before it. -/
theorem purgedAt (h : t.Filed (IsFiledAt now) q) (hpurged : t.PurgedAt now t' removed) :
    t'.Filed (IsFiledAt now) q := by
  refine ⟨?_, fun key row hrow => ?_, fun r load hload => ?_, fun key e he hfiled => ?_⟩
  · rw [Option.eq_none_iff_forall_ne_some]
    intro row hrow
    have hnil := (hpurged.row?_eq_some_iff.mp hrow).1
    rw [h.row?_nil] at hnil
    cases hnil
  · exact h.dated key row (hpurged.row?_eq_some_iff.mp hrow).1
  · obtain ⟨hempty, key, e, he, rfl⟩ := h.sound r load (hpurged.old r load hload)
    refine ⟨hempty, key, e, hpurged.expiresAt?_eq_some_iff.mpr ⟨he, fun hdoomed => ?_⟩, rfl⟩
    -- an entry that went has taken its index row with it
    obtain ⟨hle, hnonneg⟩ := (h.doomed_iff he).mp hdoomed
    rw [hpurged.due _ e key (splitIndexRow?_indexRow hnonneg key) hle] at hload
    cases hload
  · obtain ⟨he, hlive⟩ := hpurged.expiresAt?_eq_some_iff.mp he
    have hrow := h.listed key e he hfiled
    by_cases hnonneg : 0 ≤ e.toInt
    · have hlt : now < e := by
        rw [← Int64.not_le]
        exact fun hle => hlive ((h.doomed_iff he).mpr ⟨hle, hnonneg⟩)
      rw [hpurged.undue _ e key (splitIndexRow?_indexRow hnonneg key) hlt, hrow]
    · -- the index row stands at the beginning of 1970, which is still to come
      have hlt : now < 0 := Int64.lt_iff_toInt_lt.mpr (hfiled.resolve_left hnonneg)
      rw [indexRow_of_neg (Int.not_le.mp hnonneg)] at hrow ⊢
      rw [hpurged.undue _ 0 key (splitIndexRow?_indexRow (Int.le_refl _) key) hlt, hrow]

/-- **When a purge leaves the tables tidy**: unless an entry was over before 1970. -/
theorem tidy_iff (h : t.Filed (IsFiledAt now) q) (hpurged : t.PurgedAt now t' removed) :
    t'.Tidy now ↔ ∀ key e, t.expiresAt? key = some e → e ≤ now → 0 ≤ e.toInt := by
  constructor
  · intro htidy key e he hle
    by_cases hdoomed : t.Doomed now key
    · exact ((h.doomed_iff he).mp hdoomed).2
    · -- the purge did not find the entry, so it is still there
      obtain ⟨row, hrow, hexpiry⟩ :=
        Indexed.expiresAt?_eq_some_iff.mp (hpurged.expiresAt?_eq_some_iff.mpr ⟨he, hdoomed⟩)
      exact absurd ⟨e, hexpiry, hle⟩ (htidy.live key row hrow)
  · intro hearly
    have hlive : ∀ key e, t'.expiresAt? key = some e → now < e := by
      intro key e he
      obtain ⟨he, hlive⟩ := hpurged.expiresAt?_eq_some_iff.mp he
      rw [← Int64.not_le]
      exact fun hle => hlive ((h.doomed_iff he).mpr ⟨hle, hearly key e he hle⟩)
    refine ⟨fun key row hrow => ?_, fun key e he => ?_⟩
    · rintro ⟨e, hexpiry, hle⟩
      exact Int64.not_le.mpr (hlive key e (Indexed.expiresAt?_eq_some_iff.mpr ⟨row, hrow, hexpiry⟩))
        hle
    · refine (h.purgedAt hpurged).listed key e he ?_
      have hlt := hlive key e he
      rw [Int64.lt_iff_toInt_lt] at hlt
      rw [IsFiledAt]
      omega

/-- All transactions of a time preserve that tables are filed as they are at that time. -/
theorem lasting (now : Int64) : Lasting now (Filed (IsFiledAt now) fun _ => True) where
  write h hwrite := h.write (entryExpiry?_encodeEntry _ _) trivial hwrite
  removeAll h hall := h.removeAll hall
  reclaim h hreclaim := h.reclaim hreclaim
  purge {t t' removed} h hpurge := by
    rcases h.unloaded.purge_cases now with ⟨hblocked, -⟩ | ⟨-, removed', t'', hpurge', hpurged⟩
    · exact absurd hblocked (h.not_blocked now)
    · rw [hpurge] at hpurge'
      cases hpurge'
      exact h.purgedAt hpurged

/-- **What one call at any time preserves.** -/
theorem serveAt (h : c.tables.Filed (IsFiledAt now) fun _ => True) (call : Call) :
    (c.serveAt now call).tables.Filed (IsFiledAt now) fun _ => True := by
  cases call with
  | get key => exact (lasting now).after_get h key
  | set key value ttl => exact (lasting now).after_set h key value ttl
  | delete keys => exact (lasting now).after_delete h keys
  | purge => exact (lasting now).after_purge h
  | reopen => exact h

/-- **What any run preserves** whose time does not go back. -/
theorem runAt {calls : List (Int64 × Call)}
    (hforward : (calls.map Prod.fst ++ [now]).Pairwise (· ≤ ·))
    (h : ∀ t ∈ calls.map Prod.fst ++ [now], c.tables.Filed (IsFiledAt t) fun _ => True) :
    (c.runAt calls).tables.Filed (IsFiledAt now) fun _ => True := by
  induction calls generalizing c with
  | nil => exact h now List.mem_cons_self
  | cons first rest ih =>
    obtain ⟨time, call⟩ := first
    obtain ⟨hlater, hrest⟩ := List.pairwise_cons.mp hforward
    have hserved := (h time List.mem_cons_self).serveAt call
    exact ih hrest fun t ht => hserved.mono fun e he => he.of_le (hlater t ht)

end Filed

end Tables

/-! ## Purging -/

/-- What a purge does where tables are filed. -/
theorem exists_purge {q : Int64 → Prop} (h : c.tables.Filed (Tables.IsFiledAt now) q) :
    ∃ removed c', c.purge now = (.ok removed, c') ∧ (c'.tables.Tidy now ↔
      ∀ key e, c.tables.expiresAt? key = some e → e ≤ now → 0 ≤ e.toInt) := by
  rcases h.unloaded.purge_cases now with ⟨hblocked, -⟩ | ⟨-, removed, tables, hpurge, hpurged⟩
  · exact absurd hblocked (h.not_blocked now)
  · exact ⟨removed, _, by rw [Durable.purge, hpurge], h.tidy_iff hpurged⟩

/-- **When a purge leaves the tables tidy.** Whatever room there is,
* after any calls by any clocks, a purge by a clock removes every entry whose time is over and leaves
  the others with their index rows, if and only if the clock can be read: not before 1970, and not
  after the years that can be told;
* after any calls at given milliseconds that do not go back, a purge does so if and only if no entry
  was over before 1970. -/
theorem tidies_iff (room : Room) :
    (∀ (calls : List (Time.Clock × Call)) (clock : Time.Clock),
      let c := (Durable.new room).run calls
      (∃ removed c', c.purgeByClock clock = .ok (.ok removed, c') ∧
        c'.tables.Tidy clock.millisecond) ↔ clock.Readable) ∧
    ∀ (calls : List (Int64 × Call)) (now : Int64),
      (calls.map Prod.fst ++ [now]).Pairwise (· ≤ ·) →
      let c := (Durable.new room).runAt calls
      ∃ removed c', c.purge now = (.ok removed, c') ∧ (c'.tables.Tidy now ↔
        ∀ key e, c.tables.expiresAt? key = some e → e ≤ now → 0 ≤ e.toInt) := by
  refine ⟨fun calls clock => ?_, fun calls now hforward => ?_⟩
  · intro c
    constructor
    · rintro ⟨removed, c', hpurge, -⟩
      cases hmillis : clock.millis with
      | error b =>
        rw [purgeByClock, hmillis] at hpurge
        cases hpurge
      | ok now => exact (Time.Clock.readable_of_millis hmillis).1
    · intro hreadable
      have hindexed : c.tables.Indexed := (Indexed.new room).run calls
      obtain ⟨removed, c', hpurge, htidy⟩ :=
        exists_purge (c := c) ((Tables.indexed_iff.mp hindexed).mono fun _ _ => trivial)
      refine ⟨removed, c', ?_, htidy.mpr fun key e he _ => hindexed.nonneg he⟩
      rw [purgeByClock, Time.Clock.millis_of_readable hreadable]
      exact congrArg Except.ok hpurge
  · exact exists_purge (.runAt hforward fun t _ => .empty _ _)

/-- A text is kept for half a second, a second before 1970. -/
def keptBefore1970 : List (Int64 × Call) := [(-1000, .set "a" "x" (.ofMillis 500))]

theorem tidies_iff_keptBefore1970 :
    (keptBefore1970.map Prod.fst ++ [-400]).Pairwise (· ≤ ·) ∧
      ∃ removed c', ((Durable.empty 1).runAt keptBefore1970).purge (-400) = (.ok removed, c') ∧
        ¬ c'.tables.Tidy (-400) := by
  have hforward : (keptBefore1970.map Prod.fst ++ [-400]).Pairwise (· ≤ ·) := by decide
  obtain ⟨removed, c', hpurge, htidy⟩ := (tidies_iff (roomIn 1)).2 keptBefore1970 (-400) hforward
  refine ⟨hforward, removed, c', hpurge, fun hc' => ?_⟩
  have hnonneg := htidy.mp hc' (Utf8.ofString "a") (-500) (by decide +kernel) (by decide)
  exact absurd hnonneg (by decide)

/-- Before 1970 a purge does not work: the clock cannot be read, and if the millisecond is given all the
same, a text whose time is over stays, then and when 1970 has begun, from where on it has no index
row. -/
theorem not_tidied_before_1970 :
    (Durable.empty 1).purgeByClock (.start (-1000) 0) = .error (.beforeEpoch (.ofSeconds 1)) ∧
    (∃ c', ((Durable.empty 1).runAt keptBefore1970).purge (-400) = (.ok 0, c') ∧
      c'.tables.expiresAt? (Utf8.ofString "a") = some (-500)) ∧
    ∃ c', ((Durable.empty 1).runAt (keptBefore1970 ++ [(-400, .purge)])).purge 0 = (.ok 0, c') ∧
      c'.tables.expiresAt? (Utf8.ofString "a") = some (-500) ∧
      c'.tables.expiry[indexRow (-500) (Utf8.ofString "a")]? = none := by
  refine ⟨rfl, ⟨_, rfl, ?_⟩, _, rfl, ?_, ?_⟩
  · decide +kernel
  · decide +kernel
  · decide +kernel

end LikedYou.Durable
