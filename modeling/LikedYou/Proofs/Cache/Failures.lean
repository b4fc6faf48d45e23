import LikedYou.Proofs.Cache.InStep
import LikedYou.Proofs.Cache.Purge

/-!
# Calls that fail

* `Durable.set_eq_error` — what a write leaves that failed
* `Durable.Swept` — entries whose time is over may have gone, each of them counted
* `Durable.failing_calls` — after any run a write that fails loses nothing that is live, a removal that
  fails removes nothing, and a read that fails is a miss

A write has up to four transactions: a purge if it is its turn, the write itself, and if there was no
room a purge and the write once more. Only those that write can fail in the middle, and then they leave
no trace, so all that a failed write can have done is to purge.
-/

namespace LikedYou.Durable

variable {c c' c'' : Durable} {key value : String} {now : Int64} {ttl : Time.Duration}

/-! ## What may have gone -/

namespace Tables

variable {t t' : Tables}

/-- Entries that have gone are as many as there are fewer. -/
theorem size_eq_of_trims {p : Bytes → Prop} (h : Trims p t.row? t'.row?) :
    t.entries.size =
      t'.entries.size + t.entries.toList.countP fun (key, _) => (t'.row? key).isNone := by
  have hleft : t'.entries = t.entries.filter fun key _ => (t'.row? key).isSome := by
    refine Std.ExtTreeMap.ext_getElem? fun key => ?_
    rw [Std.ExtTreeMap.getElem?_filter']
    show t'.row? key = (t.row? key).filter _
    rcases h key with hsame | ⟨hnone, row, hrow, -⟩
    · rw [hsame]
      cases t.row? key with
      | none => rfl
      | some row => rfl
    · rw [hnone, hrow]
      rfl
  have hlist : t'.entries.toList = t.entries.toList.filter fun p => (t'.row? p.1).isSome :=
    (congrArg Std.ExtTreeMap.toList hleft).trans Std.ExtTreeMap.toList_filter
  have hsplit := List.length_eq_countP_add_countP (fun p => (t'.row? p.1).isSome)
    (l := t.entries.toList)
  rw [List.countP_eq_length_filter, ← hlist, Std.ExtTreeMap.length_toList,
    Std.ExtTreeMap.length_toList] at hsplit
  refine hsplit.trans (congrArg (_ + ·) (List.countP_congr fun p _ => ?_))
  simp

end Tables

/-- Whether a cache differs from another one only by entries that went, their time being over, and
that were counted as evictions. -/
structure Swept (now : Int64) (c c' : Durable) : Prop extends c.Reclaimed now c' where
  counted : c'.evictions + c'.tables.entries.size = c.evictions + c.tables.entries.size

namespace Swept

theorem trans (h : c.Swept now c') (h' : c'.Swept now c'') : c.Swept now c'' :=
  ⟨h.toReclaimed.trans h'.toReclaimed, h'.counted.trans h.counted⟩

theorem purge (h : c.Indexed) (now : Int64) : c.Swept now (c.purge now).2 := by
  refine ⟨reclaimed_purge c now, ?_⟩
  rcases Tables.Unloaded.purge_cases h.unloaded now with ⟨-, hpurge⟩ |
    ⟨-, removed, tables, hpurge, hpurged⟩
  · rw [Durable.purge, hpurge]
  · have hcounted := hpurged.counted
    rw [Durable.purge, hpurge]
    simp only
    omega

theorem countWrite (h : c.Indexed) (now : Int64) : c.Swept now (c.countWrite now) := by
  refine ⟨reclaimed_countWrite c now, ?_⟩
  unfold Durable.countWrite
  simp only
  split
  · exact (purge (c := { c with writes := c.writes + 1 }) h now).counted
  · rfl

theorem atWrite (h : c.Indexed) (key value : String) (ttl : Time.Duration) (now : Int64) :
    c.Swept now (c.atWrite key value ttl now) := by
  have hcounted := Swept.countWrite h now
  unfold Durable.atWrite
  simp only
  split
  · exact hcounted.trans (.purge (h.countWrite now) now)
  · exact hcounted

end Swept

/-! ## Writes that fail -/

/-- **A write that failed left what its purges left.** -/
theorem set_eq_error {f : Fault} (h : c.set key value ttl now = (.error f, c')) :
    c' = c.atWrite key value ttl now := by
  rcases c.set_cases key value ttl now with ⟨-, c'', hset, -⟩ | ⟨-, f', hset⟩
  · rw [hset] at h
    cases h
  · rw [hset] at h
    cases h
    rfl

theorem ofString_eq_nil_iff : Utf8.ofString key = [] ↔ key = "" := by
  constructor
  · intro h
    exact Utf8.ofString_injective h
  · rintro rfl
    rfl

/-- **When a write fails.** Its key does not fit into the tables, or there is no room. -/
theorem exists_set_eq_error_iff (c : Durable) (key value : String) (ttl : Time.Duration)
    (now : Int64) : (∃ f c', c.set key value ttl now = (.error f, c')) ↔
      key = "" ∨ 503 < (Utf8.ofString key).length ∨ ¬ c.HasRoom key value ttl now := by
  have hnot : ¬ c.Accepts key value ttl now ↔
      key = "" ∨ 503 < (Utf8.ofString key).length ∨ ¬ c.HasRoom key value ttl now := by
    rw [Accepts, Classical.not_and_iff_not_or_not, Classical.not_and_iff_not_or_not, Ne,
      Classical.not_not, ofString_eq_nil_iff, Nat.not_le]
  rw [← hnot]
  rcases c.set_cases key value ttl now with ⟨haccepts, c', hset, -⟩ | ⟨hfails, f, hset⟩
  · refine iff_of_false ?_ (not_not_intro haccepts)
    rintro ⟨f, c'', hset'⟩
    rw [hset] at hset'
    cases hset'
  · exact iff_of_true ⟨f, _, hset⟩ hfails

/-! ## Removals and reads that fail -/

theorem Tables.removeAll_of_mem_nil {keys : List Bytes} (h : [] ∈ keys) (t : Tables)
    (deleted : Nat) : t.removeAll keys deleted = .error .badKeyLength := by
  induction keys generalizing t deleted with
  | nil => cases h
  | cons key keys ih =>
    rw [removeAll]
    by_cases hkey : key = []
    · subst hkey
      rfl
    · obtain ⟨t', hremove, -⟩ := remove_eq_ok (t := t) hkey
      rw [hremove]
      exact ih ((List.mem_cons.mp h).resolve_left (Ne.symm hkey)) _ _

/-- **A removal fails if one of the keys is empty**, and then removes none of them. -/
theorem delete_cases (c : Durable) (keys : List String) :
    ("" ∈ keys ∧ c.delete keys = (.error .badKeyLength, c)) ∨
    ("" ∉ keys ∧ ∃ deleted c', c.delete keys = (.ok deleted, c') ∧
      ∀ k, c'.row? k = if k ∈ keys.map Utf8.ofString then none else c.row? k) := by
  by_cases hempty : "" ∈ keys
  · have hnil : [] ∈ keys.map Utf8.ofString := List.mem_map.mpr ⟨"", hempty, rfl⟩
    exact Or.inl ⟨hempty, by rw [delete, Tables.removeAll_of_mem_nil hnil]⟩
  · have hkeys : ∀ key ∈ keys, Utf8.ofString key ≠ [] := fun key hkey hnil =>
      hempty (ofString_eq_nil_iff.mp hnil ▸ hkey)
    obtain ⟨deleted, c', hdelete, hrows, -⟩ := delete_eq_ok (c := c) hkeys
    exact Or.inr ⟨hempty, deleted, c', hdelete, hrows⟩

/-- **A read that fails is a miss**, and nothing else. -/
theorem get_eq_error {f : Fault} (h : c.get key now = (.error f, c')) :
    c' = { c with misses := c.misses + 1 } := by
  unfold get at h
  simp only at h
  split at h
  · cases h
    rfl
  · cases h
  · split at h
    · cases h
      rfl
    · cases h
    · split at h
      · cases h
        rfl
      · cases h
      · cases h

/-! ## What is reported -/

/-- What a call came to, with its fault as it is reported. -/
def reported {ε ε' α : Type} (report : ε → ε') (called : Except ε α × Durable) :
    Except ε' α × Durable :=
  (called.1.mapError report, called.2)

section

variable {ε ε' α : Type} {report : ε → ε'} {called : Except ε α × Durable}

theorem eq_error_of_reported {f : ε'} (h : reported report called = (.error f, c')) :
    ∃ f', called = (.error f', c') := by
  obtain ⟨f' | a, c''⟩ := called
  · cases h
    exact ⟨f', rfl⟩
  · cases h

/-- What fails is reported as failed, and nothing else is. -/
theorem exists_reported_eq_error_iff :
    (∃ f c', reported report called = (.error f, c')) ↔ ∃ f c', called = (.error f, c') := by
  constructor
  · rintro ⟨f, c', h⟩
    obtain ⟨f', hcalled⟩ := eq_error_of_reported h
    exact ⟨f', c', hcalled⟩
  · rintro ⟨f, c', rfl⟩
    exact ⟨report f, c', rfl⟩

end

/-! ## After any run -/

/-- What a write that failed leaves of a cache. -/
structure Unharmed (now : Int64) (c c' : Durable) : Prop where
  /-- What is live is there as it was. -/
  live : ∀ key row, c.row? key = some row → ¬ IsOver now row → c'.row? key = some row
  /-- Nothing is there that was not. -/
  old : ∀ key row, c'.row? key = some row → c.row? key = some row
  inStep : c'.tables.InStep
  /-- Every entry that has gone was counted. -/
  counted : c'.evictions =
    c.evictions + c.tables.entries.toList.countP fun (key, _) => (c'.row? key).isNone
  hits : c'.hits = c.hits
  misses : c'.misses = c.misses

theorem Swept.unharmed (h : c.Swept now c') (hindexed : c'.Indexed) : c.Unharmed now c' where
  live _ _ hrow hlive := h.trims.eq_some_of_not hrow hlive
  old key row hrow := h.trims.eq_some hrow
  inStep := Tables.Indexed.perm hindexed
  counted := by
    have hsize := Tables.size_eq_of_trims h.trims
    have hcounted := h.counted
    simp only [row?] at hsize ⊢
    omega
  hits := h.hits
  misses := h.misses

/-- **Calls that fail lose nothing.** Whatever room there is, after any calls by any clocks, failed ones
included,
* a write fails if its key is empty or longer than 503 bytes, or if there is no room for its value, be
  it too long or the map full after a purge as before; then what is live stays, also under that key, and
  what goes is over and counted;
* a removal fails if one of its keys is empty, and then changes nothing;
* a read that fails, as one of the empty key does, is counted as a miss and changes nothing else. -/
theorem failing_calls {clock : Time.Clock} (hnow : clock.millis = .ok now) (room : Room)
    (calls : List (Time.Clock × Call)) :
    let c := (Durable.new room).run calls
    (∀ key value ttl,
      ((∃ f c', Cache.set key value ttl clock c = (.error f, c')) ↔
        key = "" ∨ 503 < (Utf8.ofString key).length ∨ ¬ c.HasRoom key value ttl now) ∧
      ∀ f c', Cache.set key value ttl clock c = (.error f, c') → c.Unharmed now c') ∧
    (∀ keys, ((∃ f c', Cache.delete keys c = (.error f, c')) ↔ "" ∈ keys) ∧
      ∀ f c', Cache.delete keys c = (.error f, c') → c' = c) ∧
    (∃ f c', Cache.get "" clock c = (.error f, c')) ∧
    ∀ key f c', Cache.get key clock c = (.error f, c') → c' = { c with misses := c.misses + 1 } := by
  intro c
  have hindexed : c.Indexed := (Indexed.new room).run calls
  have hset : ∀ key value ttl, Cache.set key value ttl clock c =
      reported Fault.toOperation (c.set key value ttl now) := fun key value ttl =>
    setByClock_of_millis hnow
  have hget : ∀ key, Cache.get key clock c = reported Fault.toOperation (c.get key now) :=
    fun key => getByClock_of_millis hnow
  have hdelete : ∀ keys, Cache.delete keys c = reported Fault.toStorage (c.delete keys) :=
    fun keys => rfl
  simp only [hset, hget, hdelete, exists_reported_eq_error_iff]
  refine ⟨fun key value ttl => ⟨exists_set_eq_error_iff c key value ttl now, fun f c' h => ?_⟩,
    fun keys => ⟨?_, fun f c' h => ?_⟩, ?_, fun key f c' h => ?_⟩
  · obtain ⟨f', hset'⟩ := eq_error_of_reported h
    have hindexed' := hindexed.set key value ttl (Time.Clock.nonneg_of_millis hnow)
    rw [hset'] at hindexed'
    obtain rfl := set_eq_error hset'
    exact (Swept.atWrite hindexed key value ttl now).unharmed hindexed'
  · rcases c.delete_cases keys with ⟨hempty, hdelete'⟩ | ⟨hfull, deleted, c', hdelete', -⟩
    · exact iff_of_true ⟨_, _, hdelete'⟩ hempty
    · refine iff_of_false ?_ hfull
      rintro ⟨f, c'', hdelete''⟩
      rw [hdelete'] at hdelete''
      cases hdelete''
  · obtain ⟨f', hdelete'⟩ := eq_error_of_reported h
    rcases c.delete_cases keys with ⟨-, hsame⟩ | ⟨-, deleted, c'', hdelete'', -⟩
    · rw [hsame] at hdelete'
      cases hdelete'
      rfl
    · rw [hdelete''] at hdelete'
      cases hdelete'
  · exact ⟨.badKeyLength, _, Prod.ext (fst_get_of_empty c now rfl) rfl⟩
  · obtain ⟨f', hget'⟩ := eq_error_of_reported h
    exact get_eq_error hget'

/-- A text is kept for a minute. -/
def keptForMinute : List (Time.Clock × Call) :=
  [(.start 1000 0, .set "a" "x" (.ofSeconds 60))]

/-- Nothing can be written under such a key, which alone would be short enough. -/
def longKey : List Char := List.replicate 504 'k'

theorem failing_calls_longKey :
    let clock := (Time.Clock.start 1000 0).advance (.ofSeconds 1)
    let c := (Durable.new (roomIn 1)).run keptForMinute
    clock.millis = .ok 2000 ∧
      ∃ f c', Cache.set (.ofList longKey) "y" (.ofSeconds 60) clock c = (.error f, c') ∧
        c.Unharmed 2000 c' ∧ c'.row? (Utf8.ofString "a") = some (encodeEntry "x" 61000) := by
  intro clock c
  have hreadable : clock.Readable := ⟨by decide, by decide⟩
  have hmillisecond : clock.millisecond = 2000 := by decide
  have hnow : clock.millis = .ok 2000 := by
    rw [Time.Clock.millis_of_readable hreadable, hmillisecond]
  obtain ⟨hset, -⟩ := failing_calls hnow (roomIn 1) keptForMinute
  obtain ⟨hfails, hunharmed⟩ := hset (.ofList longKey) "y" (.ofSeconds 60)
  have hlong : 503 < (Utf8.ofString (.ofList longKey)).length := by
    rw [Utf8.ofString, String.toList_ofList]
    decide +kernel
  obtain ⟨f, c', h⟩ := hfails.mpr (Or.inr (Or.inl hlong))
  have hrow : c.row? (Utf8.ofString "a") = some (encodeEntry "x" 61000) := by decide +kernel
  exact ⟨hnow, f, c', h, hunharmed f c' h, (hunharmed f c' h).live _ _ hrow (by decide +kernel)⟩

end LikedYou.Durable
