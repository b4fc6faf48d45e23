import LikedYou.Proofs.Cache.Backend
import LikedYou.Proofs.Cache.Failures

/-!
# What the calls of a cache count

* `Volatile.counted_purge`, `Volatile.counted_get`, `Durable.counted_get` — every entry that goes by
  itself is counted as an eviction
* `Volatile.counted_delete`, `Durable.counted_delete` — a removal tells how many entries it removed
* `Volatile.reads_get`, `Durable.reads_get` — every read is a hit or a miss

Each counter has one equation for each call, between what is counted and what is stored.
-/

namespace LikedYou

/-- How many texts the answer to a read has. -/
def texts {ε : Type} : Except ε (Option String) → Nat
  | .ok (some _) => 1
  | _ => 0

@[simp] theorem texts_mapError {ε ε' : Type} (f : ε → ε') (x : Except ε (Option String)) :
    texts (x.mapError f) = texts x := by
  cases x with
  | error e => rfl
  | ok found =>
    cases found with
    | none => rfl
    | some text => rfl

/-! ## In memory -/

namespace Volatile

variable {c : Volatile} {key : String}

theorem contains_iff : c.entries.contains key = true ↔ ∃ entry, c.held? key = some entry := by
  rw [Std.ExtTreeMap.contains_eq_isSome_getElem?, Option.isSome_iff_exists]
  rfl

theorem counted_purge (clock : Time.Clock) (c : Volatile) :
    (c.purge clock).2.evictions + (c.purge clock).2.entries.size =
      c.evictions + c.entries.size := by
  have hle := Std.ExtTreeMap.size_filter_le_size (t := c.entries)
    (f := fun _ entry => clock.running < entry.2)
  exact (Nat.add_assoc _ _ _).trans (congrArg (c.evictions + ·) (Nat.sub_add_cancel hle))

theorem counted_swept (clock : Time.Clock) (c : Volatile) :
    (c.swept clock).evictions + (c.swept clock).entries.size = c.evictions + c.entries.size := by
  unfold swept
  split
  · exact counted_purge clock c
  · rfl

theorem counted_get (c : Volatile) (key : String) (clock : Time.Clock) :
    (c.get key clock).2.evictions + (c.get key clock).2.entries.size =
      c.evictions + c.entries.size := by
  unfold get
  split
  · rfl
  · next value expiresAt hentry =>
    split
    · rfl
    · have hsize := size_erase_add_one (contains_iff.mpr ⟨_, hentry⟩)
      simp only
      omega

theorem reads_get (c : Volatile) (key : String) (clock : Time.Clock) :
    (Cache.get key clock c).2.hits = c.hits + texts (Cache.get key clock c).1 ∧
      (Cache.get key clock c).2.hits + (Cache.get key clock c).2.misses =
        c.hits + c.misses + 1 := by
  show (c.get key clock).2.hits = c.hits + texts (.ok (c.get key clock).1 : Except OperationFault _) ∧
    (c.get key clock).2.hits + (c.get key clock).2.misses = c.hits + c.misses + 1
  unfold get
  split
  · exact ⟨rfl, rfl⟩
  · split
    · exact ⟨rfl, Nat.add_right_comm _ _ _⟩
    · exact ⟨rfl, rfl⟩

theorem counted_delete (c : Volatile) (keys : List String) :
    (c.delete keys).1 + (c.delete keys).2.entries.size = c.entries.size ∧
      (c.delete keys).2.evictions = c.evictions := by
  have hfold : ∀ deleted : Nat,
      let left := keys.foldl (fun (left : Nat × Volatile) key =>
        if left.2.entries.contains key then
          (left.1 + 1, { left.2 with entries := left.2.entries.erase key })
        else left) (deleted, c)
      left.1 + left.2.entries.size = deleted + c.entries.size ∧ left.2.evictions = c.evictions := by
    induction keys generalizing c with
    | nil => exact fun deleted => ⟨rfl, rfl⟩
    | cons key keys ih =>
      intro deleted
      simp only [List.foldl_cons]
      split
      · next hkey =>
        have hsize := size_erase_add_one hkey
        obtain ⟨hcounted, hevictions⟩ :=
          ih { c with entries := c.entries.erase key } (deleted + 1)
        refine ⟨hcounted.trans ?_, hevictions⟩
        simp only
        omega
      · exact ih c deleted
  obtain ⟨hcounted, hevictions⟩ := hfold 0
  exact ⟨hcounted.trans (Nat.zero_add _), hevictions⟩

end Volatile

/-! ## In tables -/

namespace Durable

namespace Tables

variable {t t' : Tables} {key row : Bytes} {expiresAt now : Int64} {room : Room} {removed : Bool}

theorem counted_remove (h : t.remove key = .ok (removed, t')) :
    removed.toNat + t'.entries.size = t.entries.size := by
  unfold remove at h
  split at h
  · cases h
  · cases h
    exact Nat.zero_add _
  · next row hfind =>
    cases h
    have hrow : t.row? key = some row := by
      unfold find? at hfind
      split at hfind
      · cases hfind
      · exact Except.ok.inj hfind
    rw [Nat.add_comm]
    exact size_erase_add_one (contains_of_row? hrow)

theorem counted_removeAll {keys : List Bytes} {deleted deleted' : Nat}
    (h : t.removeAll keys deleted = .ok (deleted', t')) :
    deleted' + t'.entries.size = deleted + t.entries.size := by
  induction keys generalizing t deleted with
  | nil =>
    cases h
    rfl
  | cons key keys ih =>
    rw [removeAll] at h
    split at h
    · cases h
    · next removed t₁ hremove =>
      have hcounted := counted_remove hremove
      rw [ih h]
      cases removed with
      | true =>
        simp only [Bool.toNat_true, if_true] at hcounted ⊢
        omega
      | false =>
        rw [Bool.toNat_false, Nat.zero_add] at hcounted
        rw [hcounted]
        rfl

theorem counted_reclaim (h : t.reclaim key now = .ok (removed, t')) :
    removed.toNat + t'.entries.size = t.entries.size := by
  unfold reclaim at h
  split at h
  · cases h
  · cases h
    exact Nat.zero_add _
  · split at h
    · exact counted_remove h
    · cases h
      exact Nat.zero_add _

/-- A write puts a row in place of what was under its key. -/
theorem entries_write (h : t.write room key row expiresAt = .ok t') :
    t'.entries = t.entries.insert key row := by
  refine Std.ExtTreeMap.ext_getElem? fun k => ?_
  exact (row?_write h k).trans (row?_insert t.entries t.expiry key row k).symm

end Tables

variable {c c' : Durable} {key value : String} {now : Int64} {ttl : Time.Duration}

theorem has_iff : c.has key = true ↔ ∃ row, c.row? (Utf8.ofString key) = some row := by
  rw [has, Std.ExtTreeMap.contains_eq_isSome_getElem?, Option.isSome_iff_exists]
  rfl

theorem tables_get_of_not_has (h : c.has key = false) (now : Int64) :
    (c.get key now).2.tables = c.tables := by
  have hnone : c.tables.entries[Utf8.ofString key]? = none :=
    Std.ExtTreeMap.getElem?_eq_none_of_contains_eq_false h
  unfold get Tables.find?
  split
  · rfl
  · rfl
  · next row hfind =>
    split at hfind
    · cases hfind
    · rw [hnone] at hfind
      cases hfind

theorem counted_get (c : Durable) (key : String) (now : Int64) :
    (c.get key now).2.evictions + (c.get key now).2.tables.entries.size =
      c.evictions + c.tables.entries.size := by
  unfold get
  simp only
  split
  · rfl
  · rfl
  · split
    · rfl
    · rfl
    · split
      · rfl
      · next tables hreclaim =>
        have hcounted := Tables.counted_reclaim hreclaim
        simp only [Bool.toNat_true] at hcounted ⊢
        omega
      · next tables hreclaim =>
        have hcounted := Tables.counted_reclaim hreclaim
        simp only [Bool.toNat_false] at hcounted ⊢
        omega

theorem reads_get (c : Durable) (key : String) (now : Int64) :
    (c.get key now).2.hits = c.hits + texts (c.get key now).1 ∧
      (c.get key now).2.hits + (c.get key now).2.misses = c.hits + c.misses + 1 := by
  have hmiss : c.hits + (c.misses + 1) = c.hits + c.misses + 1 := rfl
  have hhit : c.hits + 1 + c.misses = c.hits + c.misses + 1 := Nat.add_right_comm _ _ _
  unfold get
  simp only
  split
  · exact ⟨rfl, hmiss⟩
  · exact ⟨rfl, hmiss⟩
  · split
    · exact ⟨rfl, hmiss⟩
    · exact ⟨rfl, hhit⟩
    · split
      · exact ⟨rfl, hmiss⟩
      · exact ⟨rfl, hmiss⟩
      · exact ⟨rfl, hmiss⟩

theorem counted_delete {deleted : Nat} {keys : List String}
    (h : c.delete keys = (.ok deleted, c')) :
    deleted + c'.tables.entries.size = c.tables.entries.size ∧ c'.evictions = c.evictions := by
  unfold delete at h
  split at h
  · cases h
  · next hall =>
    cases h
    exact ⟨(Tables.counted_removeAll hall).trans (Nat.zero_add _), rfl⟩

end Durable

end LikedYou
