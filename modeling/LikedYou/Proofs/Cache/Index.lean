import LikedYou.Proofs.Cache.Tables
import LikedYou.Proofs.Text.Bytes

/-!
# The index of expiries

* `compare_indexRow`, `index_ordered_by_time` — index rows are in the order of their expiries, then
  of their keys
* `le_of_compare_lt` — so are all rows that tell an expiry, whatever they were made of
* `Tables.Filed` — every index row is that of an entry, and entries of some expiries have theirs
* `Tables.Filed.remove`, `Tables.Filed.write`, `Tables.Filed.removeAll`, `Tables.Filed.reclaim` — what
  the transactions preserve
* `Tables.Indexed` — there is one index row for each entry, and no other
* `Tables.Indexed.purge` — a purge removes the entries that a scan would find

A purge looks at the index rows up to the first one that is not due. That this is enough has two
reasons: index rows stand in the order of their expiries, and no entry is without one.
-/

namespace LikedYou.Durable

variable {now expiresAt expiresAt' : Int64} {key key' row r r' load : Bytes}

/-! ## Index rows -/

theorem toNat_toInt_lt (expiresAt : Int64) : expiresAt.toInt.toNat < 256 ^ 8 := by
  have hlt := expiresAt.toInt_lt
  omega

/-- An index row tells the expiry and the key that it was made of. -/
theorem splitIndexRow?_indexRow (h : 0 ≤ expiresAt.toInt) (key : Bytes) :
    splitIndexRow? (indexRow expiresAt key) = some (expiresAt, key) := by
  have hlast : lastMillisecond = 2 ^ 63 - 1 := rfl
  have hlt := expiresAt.toInt_lt
  have hmin : min expiresAt.toInt.toNat lastMillisecond = expiresAt.toInt.toNat := by omega
  have hback : Int64.ofNat expiresAt.toInt.toNat = expiresAt := by
    rw [← Int64.ofInt_eq_ofNat, Int.toNat_of_nonneg h, Int64.ofInt_toInt]
  rw [splitIndexRow?, indexRow, splitEight?_append (Bytes.length_bigEndian 8 _), Option.map_some]
  simp only
  rw [Bytes.ofBigEndian_bigEndian, Nat.mod_eq_of_lt (toNat_toInt_lt expiresAt), hmin, hback]

/-- Index rows of different entries are different, whenever those expire. -/
theorem eq_of_indexRow_eq (h : indexRow expiresAt key = indexRow expiresAt' key') : key = key' :=
  List.append_inj_right h (by rw [Bytes.length_bigEndian, Bytes.length_bigEndian])

/-- **Index rows are in the order of their expiries, then of their keys.** -/
theorem compare_indexRow (expiresAt expiresAt' : Int64) (key key' : Bytes) :
    compare (indexRow expiresAt key) (indexRow expiresAt' key') =
      (compare expiresAt.toInt.toNat expiresAt'.toInt.toNat).then (compare key key') := by
  have hlength : (Bytes.bigEndian 8 expiresAt.toInt.toNat).length =
      (Bytes.bigEndian 8 expiresAt'.toInt.toNat).length := by
    rw [Bytes.length_bigEndian, Bytes.length_bigEndian]
  rw [indexRow, indexRow, Bytes.compare_append hlength,
    Bytes.compare_bigEndian (toNat_toInt_lt expiresAt) (toNat_toInt_lt expiresAt')]

/-- **The index is ordered by time.** An index row of an expiry that is not before 1970 tells what it was
made of, and of two such rows the one that expires earlier is the lesser byte string; where both expire
at once, it is the one of the lesser key. -/
theorem index_ordered_by_time (h : 0 ≤ expiresAt.toInt) (h' : 0 ≤ expiresAt'.toInt)
    (key key' : Bytes) :
    splitIndexRow? (indexRow expiresAt key) = some (expiresAt, key) ∧
      (indexRow expiresAt key < indexRow expiresAt' key' ↔
        expiresAt < expiresAt' ∨ expiresAt = expiresAt' ∧ key < key') := by
  -- without a sign the expiries are as they were, since none is negative
  have hlt : expiresAt.toInt.toNat < expiresAt'.toInt.toNat ↔ expiresAt < expiresAt' := by
    rw [Int64.lt_iff_toInt_lt]
    omega
  have heq : expiresAt.toInt.toNat = expiresAt'.toInt.toNat ↔ expiresAt = expiresAt' := by
    rw [← Int64.toInt_inj]
    omega
  refine ⟨splitIndexRow?_indexRow h key, ?_⟩
  rw [← Bytes.compare_eq_lt_iff, compare_indexRow, Ordering.then_eq_lt, Nat.compare_eq_lt,
    Nat.compare_eq_eq, hlt, heq, Bytes.compare_eq_lt_iff]

/-- The last byte of the earlier expiry is the greater one, and so is its key. -/
theorem index_ordered_by_time_acrossBytes :
    0 ≤ (255 : Int64).toInt ∧ 0 ≤ (256 : Int64).toInt ∧
      splitIndexRow? (indexRow 255 [7, 7]) = some (255, [7, 7]) ∧
      indexRow 255 [7, 7] < indexRow 256 [] := by
  have h : 0 ≤ (255 : Int64).toInt := by decide
  have h' : 0 ≤ (256 : Int64).toInt := by decide
  obtain ⟨hsplit, hlt⟩ := index_ordered_by_time h h' [7, 7] []
  exact ⟨h, h', hsplit, hlt.mpr (Or.inl (by decide))⟩

theorem splitIndexRow?_eq_some_iff : splitIndexRow? r = some (expiresAt, key) ↔
    ∃ first : Bytes, first.length = 8 ∧ r = first ++ key ∧
      expiresAt = Int64.ofNat (min (Bytes.ofBigEndian first) lastMillisecond) := by
  rw [splitIndexRow?, Option.map_eq_some_iff]
  constructor
  · rintro ⟨⟨first, rest⟩, hsplit, heq⟩
    obtain ⟨hlength, hr⟩ := splitEight?_eq_some_iff.mp hsplit
    cases heq
    exact ⟨first, hlength, hr, rfl⟩
  · rintro ⟨first, hlength, hr, rfl⟩
    exact ⟨(first, key), splitEight?_eq_some_iff.mpr ⟨hlength, hr⟩, rfl⟩

theorem toInt_min_lastMillisecond (n : Nat) :
    (Int64.ofNat (min n lastMillisecond)).toInt = min n lastMillisecond := by
  have hlast : lastMillisecond = 2 ^ 63 - 1 := rfl
  exact Int64.toInt_ofNat_of_lt (by omega)

/-- Index rows that tell an expiry are in the order of their expiries. -/
theorem le_of_compare_lt (hlt : compare r r' = .lt) (h : splitIndexRow? r = some (expiresAt, key))
    (h' : splitIndexRow? r' = some (expiresAt', key')) : expiresAt ≤ expiresAt' := by
  obtain ⟨first, hlength, rfl, rfl⟩ := splitIndexRow?_eq_some_iff.mp h
  obtain ⟨first', hlength', rfl, rfl⟩ := splitIndexRow?_eq_some_iff.mp h'
  have hsame : first.length = first'.length := hlength.trans hlength'.symm
  rw [Bytes.compare_append hsame, Bytes.compare_eq_compare_ofBigEndian hsame,
    Ordering.then_eq_lt, Nat.compare_eq_lt, Nat.compare_eq_eq] at hlt
  rw [Int64.le_iff_toInt_le, toInt_min_lastMillisecond, toInt_min_lastMillisecond]
  rcases hlt with hlt | ⟨heq, -⟩
  · omega
  · omega

instance (now : Int64) (row : Bytes) : Decidable (IsOver now row) :=
  decidable_of_iff ((entryExpiry? row).any (· ≤ now)) (by simp [IsOver, Option.any_eq_true])

namespace Tables

variable {t t' : Tables} {room : Room} {keys rows : List Bytes}

theorem isDue_indexRow (h : 0 ≤ expiresAt.toInt) (now : Int64) (key : Bytes) :
    isDue now (indexRow expiresAt key) = decide (expiresAt ≤ now) := by
  rw [isDue, splitIndexRow?_indexRow h]

theorem isDue_of_split (h : splitIndexRow? r = some (expiresAt, key)) :
    isDue now r = decide (expiresAt ≤ now) := by
  rw [isDue, h]

/-- Before an index row that is due and tells an expiry there are none that are not due. -/
theorem isDue_of_lt (hlt : compare r r' = .lt)
    (h' : splitIndexRow? r' = some (expiresAt', key')) (hdue : isDue now r' = true) :
    isDue now r = true := by
  cases h : splitIndexRow? r with
  | none => rw [isDue, h]
  | some p =>
    rw [isDue_of_split h', decide_eq_true_eq] at hdue
    rw [isDue_of_split h, decide_eq_true_eq]
    exact Int64.le_trans (le_of_compare_lt hlt h h') hdue

/-- Whether no index row carries anything. -/
def Unloaded (t : Tables) : Prop := ∀ r load : Bytes, t.expiry[r]? = some load → load = []

theorem Unloaded.due_eq (h : t.Unloaded) (now : Int64) :
    t.due now = .ok (t.expiry.keys.takeWhile (isDue now)) := by
  rw [due, dueAmong_of_unloaded, Std.ExtTreeMap.map_fst_toList_eq_keys]
  rintro ⟨r, load⟩ hr
  exact h r load (Std.ExtTreeMap.mem_toList_iff_getElem?_eq_some.mp hr)

/-! ## The invariant -/

/-- When the time of the entry under a key is over. -/
def expiresAt? (t : Tables) (key : Bytes) : Option Int64 := (t.row? key).bind entryExpiry?

/-- Whether an index row is that of an entry. -/
def Describes (t : Tables) (r : Bytes) : Prop :=
  ∃ key expiresAt, t.expiresAt? key = some expiresAt ∧ r = indexRow expiresAt key

/-- Whether every index row is that of an entry, and every entry has an expiry of which `q` holds, and
its index row if `p` holds of it. -/
structure Filed (p q : Int64 → Prop) (t : Tables) : Prop where
  row?_nil : t.row? [] = none
  dated : ∀ key row, t.row? key = some row → ∃ e, entryExpiry? row = some e ∧ q e
  sound : ∀ r load, t.expiry[r]? = some load → load = [] ∧ t.Describes r
  listed : ∀ key e, t.expiresAt? key = some e → p e → t.expiry[indexRow e key]? = some []

theorem Indexed.expiresAt?_eq_some_iff :
    t.expiresAt? key = some expiresAt ↔
      ∃ row, t.row? key = some row ∧ entryExpiry? row = some expiresAt :=
  Option.bind_eq_some_iff

theorem expiresAt?_erase (t : Tables) (expiry : Std.ExtTreeMap Bytes Bytes) (key k : Bytes) :
    expiresAt? ⟨t.entries.erase key, expiry⟩ k = if k = key then none else t.expiresAt? k := by
  rw [expiresAt?, row?_erase]
  split
  · rfl
  · rfl

theorem expiresAt?_insert (t : Tables) (expiry : Std.ExtTreeMap Bytes Bytes)
    (key row k : Bytes) :
    expiresAt? ⟨t.entries.insert key row, expiry⟩ k =
      if k = key then entryExpiry? row else t.expiresAt? k := by
  rw [expiresAt?, row?_insert]
  split
  · rfl
  · rfl

namespace Filed

variable {p q : Int64 → Prop}

theorem empty (p q : Int64 → Prop) : Filed p q .empty := by
  refine ⟨rfl, ?_, ?_, ?_⟩
  · intro key row hrow
    cases hrow
  · intro r load hload
    cases hload
  · intro key e he
    cases he

theorem mono {p' : Int64 → Prop} (h : t.Filed p q) (hpp : ∀ e, p' e → p e) : t.Filed p' q :=
  { h with listed := fun key e he hp => h.listed key e he (hpp e hp) }

theorem ne_nil (h : t.Filed p q) (he : t.expiresAt? key = some expiresAt) : key ≠ [] := by
  rintro rfl
  rw [expiresAt?, h.row?_nil] at he
  cases he

/-! ## Changing one entry -/

/-- An entry goes, and its index row with it. -/
theorem erase (h : t.Filed p q) (he : t.expiresAt? key = some expiresAt) :
    Filed p q ⟨t.entries.erase key, t.expiry.erase (indexRow expiresAt key)⟩ := by
  have hexpiry := t.expiresAt?_erase (t.expiry.erase (indexRow expiresAt key)) key
  refine ⟨?_, ?_, ?_, ?_⟩
  · rw [row?_erase, if_neg (Ne.symm (h.ne_nil he))]
    exact h.row?_nil
  · intro k row hrow
    rw [row?_erase] at hrow
    split at hrow
    · cases hrow
    · exact h.dated k row hrow
  · intro r load hload
    simp only [Std.ExtTreeMap.getElem?_erase, Std.compare_eq_iff_eq] at hload
    split at hload
    · cases hload
    · next hr =>
      obtain ⟨hempty, k, e, hk, rfl⟩ := h.sound r load hload
      refine ⟨hempty, k, e, ?_, rfl⟩
      rw [hexpiry, if_neg, hk]
      rintro rfl
      rw [he] at hk
      cases hk
      exact hr rfl
  · intro k e hk hp
    rw [hexpiry] at hk
    split at hk
    · cases hk
    · next hne =>
      -- the index row of another entry is another one
      simp only [Std.ExtTreeMap.getElem?_erase, Std.compare_eq_iff_eq]
      rw [if_neg fun heq => hne (eq_of_indexRow_eq heq).symm]
      exact h.listed k e hk hp

/-- An entry comes where there was none, and its index row with it. -/
theorem insert (h : t.Filed p q) (hfresh : t.row? key = none) (hkey : key ≠ [])
    (he : entryExpiry? row = some expiresAt) (hq : q expiresAt) :
    Filed p q ⟨t.entries.insert key row, t.expiry.insert (indexRow expiresAt key) []⟩ := by
  have hexpiry := t.expiresAt?_insert (t.expiry.insert (indexRow expiresAt key) []) key row
  refine ⟨?_, ?_, ?_, ?_⟩
  · rw [row?_insert, if_neg (Ne.symm hkey)]
    exact h.row?_nil
  · intro k row' hrow
    rw [row?_insert] at hrow
    split at hrow
    · cases hrow
      exact ⟨expiresAt, he, hq⟩
    · exact h.dated k row' hrow
  · intro r load hload
    simp only [Std.ExtTreeMap.getElem?_insert, Std.compare_eq_iff_eq] at hload
    split at hload
    · next hr =>
      cases hload
      exact ⟨rfl, key, expiresAt, by rw [hexpiry, if_pos rfl, he], hr.symm⟩
    · obtain ⟨hempty, k, e, hk, rfl⟩ := h.sound r load hload
      refine ⟨hempty, k, e, ?_, rfl⟩
      rw [hexpiry, if_neg, hk]
      rintro rfl
      rw [expiresAt?, hfresh] at hk
      cases hk
  · intro k e hk hp
    rw [hexpiry] at hk
    simp only [Std.ExtTreeMap.getElem?_insert, Std.compare_eq_iff_eq]
    split at hk
    · next heq =>
      rw [he] at hk
      cases hk
      rw [heq, if_pos rfl]
    · next hne =>
      rw [if_neg fun heq => hne (eq_of_indexRow_eq heq).symm]
      exact h.listed k e hk hp

/-! ## Transactions -/

theorem remove {removed : Bool} (h : t.Filed p q) (hremove : t.remove key = .ok (removed, t')) :
    t'.Filed p q := by
  by_cases hkey : key = []
  · subst hkey
    cases hremove
  · rw [Tables.remove, find?_of_ne_nil hkey] at hremove
    cases hrow : t.row? key with
    | none =>
      rw [hrow] at hremove
      cases hremove
      exact h
    | some row =>
      obtain ⟨e, he, -⟩ := h.dated key row hrow
      simp only [hrow, he] at hremove
      cases hremove
      exact h.erase (Indexed.expiresAt?_eq_some_iff.mpr ⟨row, hrow, he⟩)

theorem write (h : t.Filed p q) (he : entryExpiry? row = some expiresAt) (hq : q expiresAt)
    (hwrite : t.write room key row expiresAt = .ok t') : t'.Filed p q := by
  by_cases hkey : key = []
  · subst hkey
    cases hwrite
  · obtain ⟨t₁, hremove, hrows⟩ := remove_eq_ok (t := t) hkey
    rw [Tables.write, hremove] at hwrite
    -- whatever put fails, the transaction does, and nothing was changed
    simp only at hwrite
    split at hwrite
    · cases hwrite
    split at hwrite
    · cases hwrite
    split at hwrite
    · cases hwrite
    · cases hwrite
      have hfresh : t₁.row? key = none := by rw [hrows, if_pos rfl]
      exact (h.remove hremove).insert hfresh hkey he hq

theorem removeAll {deleted deleted' : Nat} (h : t.Filed p q)
    (hall : t.removeAll keys deleted = .ok (deleted', t')) : t'.Filed p q := by
  induction keys generalizing t deleted with
  | nil =>
    cases hall
    exact h
  | cons key keys ih =>
    rw [Tables.removeAll] at hall
    split at hall
    · cases hall
    · next removed t₁ hremove => exact ih (h.remove hremove) hall

theorem reclaim {removed : Bool} (h : t.Filed p q)
    (hreclaim : t.reclaim key now = .ok (removed, t')) : t'.Filed p q := by
  rw [Tables.reclaim] at hreclaim
  split at hreclaim
  · cases hreclaim
  · cases hreclaim
    exact h
  · split at hreclaim
    · exact h.remove hreclaim
    · cases hreclaim
      exact h

end Filed

/-- Whether the index rows are those of the entries, one for each, which can all be read. -/
structure Indexed (t : Tables) : Prop where
  row?_nil : t.row? [] = none
  dated : ∀ key row, t.row? key = some row → ∃ e, entryExpiry? row = some e ∧ 0 ≤ e.toInt
  index : ∀ r load, t.expiry[r]? = some load ↔ load = [] ∧ t.Describes r

theorem indexed_iff : t.Indexed ↔ t.Filed (fun _ => True) (0 ≤ ·.toInt) := by
  constructor
  · intro h
    exact ⟨h.row?_nil, h.dated, fun r load hload => (h.index r load).mp hload,
      fun key e he _ => (h.index _ []).mpr ⟨rfl, key, e, he, rfl⟩⟩
  · intro h
    refine ⟨h.row?_nil, h.dated, fun r load => ⟨h.sound r load, ?_⟩⟩
    rintro ⟨rfl, key, e, he, rfl⟩
    exact h.listed key e he trivial

namespace Indexed

theorem empty : Indexed .empty := indexed_iff.mpr (.empty _ _)

theorem nonneg (h : t.Indexed) (he : t.expiresAt? key = some expiresAt) :
    0 ≤ expiresAt.toInt := by
  obtain ⟨row, hrow, hexpiry⟩ := expiresAt?_eq_some_iff.mp he
  obtain ⟨e, he', hnonneg⟩ := h.dated key row hrow
  rw [hexpiry] at he'
  cases he'
  exact hnonneg

theorem ne_nil (h : t.Indexed) (he : t.expiresAt? key = some expiresAt) : key ≠ [] :=
  (indexed_iff.mp h).ne_nil he

theorem erase (h : t.Indexed) (he : t.expiresAt? key = some expiresAt) :
    Indexed ⟨t.entries.erase key, t.expiry.erase (indexRow expiresAt key)⟩ :=
  indexed_iff.mpr ((indexed_iff.mp h).erase he)

theorem write (h : t.Indexed) (he : entryExpiry? row = some expiresAt)
    (hnonneg : 0 ≤ expiresAt.toInt) (hwrite : t.write room key row expiresAt = .ok t') :
    t'.Indexed :=
  indexed_iff.mpr ((indexed_iff.mp h).write he hnonneg hwrite)

theorem removeAll {deleted deleted' : Nat} (h : t.Indexed)
    (hall : t.removeAll keys deleted = .ok (deleted', t')) : t'.Indexed :=
  indexed_iff.mpr ((indexed_iff.mp h).removeAll hall)

theorem reclaim {removed : Bool} (h : t.Indexed)
    (hreclaim : t.reclaim key now = .ok (removed, t')) : t'.Indexed :=
  indexed_iff.mpr ((indexed_iff.mp h).reclaim hreclaim)

/-! ## Purging -/

theorem mem_keys_iff (h : t.Indexed) : r ∈ t.expiry.keys ↔ t.Describes r := by
  rw [Std.ExtTreeMap.mem_keys, Std.ExtTreeMap.mem_iff_isSome_getElem?, Option.isSome_iff_exists]
  constructor
  · rintro ⟨load, hload⟩
    exact ((h.index r load).mp hload).2
  · intro hr
    exact ⟨[], (h.index r []).mpr ⟨rfl, hr⟩⟩

/-- Of rows in an order in which those that satisfy `p` come first, `takeWhile` finds them all. -/
theorem takeWhile_eq_filter {α : Type} {p : α → Bool} {l : List α}
    (h : l.Pairwise fun a b => p b = true → p a = true) : l.takeWhile p = l.filter p := by
  induction l with
  | nil => rfl
  | cons a l ih =>
    obtain ⟨ha, hl⟩ := List.pairwise_cons.mp h
    by_cases hp : p a = true
    · rw [List.takeWhile_cons_of_pos hp, List.filter_cons_of_pos hp, ih hl]
    · have hnone : l.filter p = [] := List.filter_eq_nil_iff.mpr fun b hb hpb => hp (ha b hb hpb)
      rw [List.takeWhile_cons_of_neg hp, List.filter_cons_of_neg hp, hnone]

theorem unloaded (h : t.Indexed) : t.Unloaded := fun r load hr => ((h.index r load).mp hr).1

/-- **Up to the first index row that is not due, a purge finds all that are.** -/
theorem due_eq (h : t.Indexed) (now : Int64) :
    t.due now = .ok (t.expiry.keys.filter (isDue now)) := by
  have hordered : t.expiry.keys.Pairwise fun a b => isDue now b = true → isDue now a = true := by
    refine Std.ExtTreeMap.ordered_keys.imp_of_mem fun {a b} _ hb hlt => ?_
    obtain ⟨key, e, he, rfl⟩ := h.mem_keys_iff.mp hb
    exact isDue_of_lt hlt (splitIndexRow?_indexRow (h.nonneg he) key)
  rw [h.unloaded.due_eq, takeWhile_eq_filter hordered]

theorem mem_toList_expiry (h : t.Indexed) :
    (r, load) ∈ t.expiry.toList ↔ load = [] ∧ t.Describes r := by
  rw [Std.ExtTreeMap.mem_toList_iff_getElem?_eq_some, h.index]

/-- **The index rows are those of the entries, one for each.** They carry nothing. -/
theorem perm (h : t.Indexed) :
    (t.expiry.toList.map some).Perm (t.entries.toList.map fun (key, row) =>
      (entryExpiry? row).map fun expiresAt => (indexRow expiresAt key, [])) := by
  refine (List.perm_ext_iff_of_nodup ?_ ?_).mpr fun o => ?_
  · refine List.pairwise_map.mpr (Std.ExtTreeMap.distinct_keys_toList.imp fun {p q} hne heq => ?_)
    cases heq
    exact hne Std.ReflCmp.compare_self
  · refine List.pairwise_map.mpr
      (Std.ExtTreeMap.distinct_keys_toList.imp_of_mem fun {p q} hp hq hne heq => ?_)
    obtain ⟨key, row⟩ := p
    obtain ⟨key', row'⟩ := q
    obtain ⟨e, he, -⟩ :=
      h.dated key row (Std.ExtTreeMap.mem_toList_iff_getElem?_eq_some.mp hp)
    obtain ⟨e', he', -⟩ :=
      h.dated key' row' (Std.ExtTreeMap.mem_toList_iff_getElem?_eq_some.mp hq)
    simp only [he, he', Option.map_some, Option.some.injEq, Prod.mk.injEq, and_true] at heq
    obtain rfl := eq_of_indexRow_eq heq
    exact hne Std.ReflCmp.compare_self
  · rw [List.mem_map, List.mem_map]
    constructor
    · rintro ⟨⟨r, load⟩, hmem, rfl⟩
      obtain ⟨rfl, key, e, he, rfl⟩ := h.mem_toList_expiry.mp hmem
      obtain ⟨row, hrow, hexpiry⟩ := expiresAt?_eq_some_iff.mp he
      refine ⟨(key, row), Std.ExtTreeMap.mem_toList_iff_getElem?_eq_some.mpr hrow, ?_⟩
      simp only [hexpiry, Option.map_some]
    · rintro ⟨⟨key, row⟩, hmem, rfl⟩
      have hrow := Std.ExtTreeMap.mem_toList_iff_getElem?_eq_some.mp hmem
      obtain ⟨e, he, -⟩ := h.dated key row hrow
      refine ⟨(indexRow e key, []), h.mem_toList_expiry.mpr ⟨rfl, key, e, ?_, rfl⟩, ?_⟩
      · exact expiresAt?_eq_some_iff.mpr ⟨row, hrow, he⟩
      · simp only [he, Option.map_some]

/-- There are as many index rows that are due as entries whose time is over. -/
theorem length_filter_isDue (h : t.Indexed) (now : Int64) :
    (t.expiry.keys.filter (isDue now)).length =
      t.entries.toList.countP fun (_, row) => IsOver now row := by
  have hcount := h.perm.countP_eq fun o => o.any fun p => isDue now p.1
  rw [List.countP_map, List.countP_map] at hcount
  rw [← List.countP_eq_length_filter, ← Std.ExtTreeMap.map_fst_toList_eq_keys, List.countP_map]
  refine Eq.trans hcount (List.countP_congr ?_)
  rintro ⟨key, row⟩ hmem
  obtain ⟨e, he, hnonneg⟩ :=
    h.dated key row (Std.ExtTreeMap.mem_toList_iff_getElem?_eq_some.mp hmem)
  simp [he, isDue_indexRow hnonneg, IsOver]

/-- Purging an index row removes its entry. -/
theorem purgeRows_cons (h : t.Indexed) (he : t.expiresAt? key = some expiresAt)
    (rows : List Bytes) (removed : Nat) :
    t.purgeRows (indexRow expiresAt key :: rows) removed =
      purgeRows rows (removed + 1)
        ⟨t.entries.erase key, t.expiry.erase (indexRow expiresAt key)⟩ := by
  have hfind : find? key ⟨t.entries, t.expiry.erase (indexRow expiresAt key)⟩ =
      .ok (t.row? key) := find?_of_ne_nil (h.ne_nil he)
  rw [purgeRows, splitIndexRow?_indexRow (h.nonneg he)]
  simp only [hfind]
  exact if_pos he

/-- What purging index rows does: their entries go, and are counted. -/
theorem purgeRows (h : t.Indexed) (hnodup : rows.Nodup) (hrows : ∀ r ∈ rows, t.Describes r)
    (removed : Nat) :
    ∃ t', t.purgeRows rows removed = .ok (removed + rows.length, t') ∧ t'.Indexed ∧
      ∀ k, t'.row? k =
        if ∃ e, t.expiresAt? k = some e ∧ indexRow e k ∈ rows then none else t.row? k := by
  induction rows generalizing t removed with
  | nil =>
    refine ⟨t, rfl, h, fun k => ?_⟩
    rw [if_neg]
    rintro ⟨e, -, hmem⟩
    cases hmem
  | cons r rows ih =>
    obtain ⟨hr, hnodup'⟩ := List.nodup_cons.mp hnodup
    obtain ⟨hfirst, hrest⟩ := List.forall_mem_cons.mp hrows
    obtain ⟨key, expiresAt, he, rfl⟩ := hfirst
    have hexpiry : ∀ k, k ≠ key →
        expiresAt? ⟨t.entries.erase key, t.expiry.erase (indexRow expiresAt key)⟩ k =
          t.expiresAt? k := by
      intro k hk
      rw [expiresAt?_erase, if_neg hk]
    -- the other rows are still those of entries
    have hrest' : ∀ r ∈ rows,
        Describes ⟨t.entries.erase key, t.expiry.erase (indexRow expiresAt key)⟩ r := by
      intro r hmem
      obtain ⟨k, e, hk, rfl⟩ := hrest r hmem
      refine ⟨k, e, ?_, rfl⟩
      rw [hexpiry k, hk]
      rintro rfl
      rw [he] at hk
      cases hk
      exact hr hmem
    obtain ⟨t', hpurge, hindexed, hleft⟩ := ih (h.erase he) hnodup' hrest' (removed + 1)
    refine ⟨t', ?_, hindexed, fun k => ?_⟩
    · rw [h.purgeRows_cons he, hpurge, List.length_cons, Nat.add_assoc, Nat.add_comm 1]
    · rw [hleft]
      by_cases hk : k = key
      · subst hk
        rw [row?_erase, if_pos rfl, ite_self, if_pos ⟨expiresAt, he, List.mem_cons_self⟩]
      · have hmem : ∀ e, indexRow e k ∈ indexRow expiresAt key :: rows ↔ indexRow e k ∈ rows := by
          intro e
          rw [List.mem_cons, or_iff_right]
          exact fun heq => hk (eq_of_indexRow_eq heq)
        rw [hexpiry k hk, row?_erase, if_neg hk]
        simp only [hmem]
        rfl

/-- **A purge removes the entries that a scan of all would find, and tells how many.** -/
theorem purge (h : t.Indexed) (now : Int64) :
    ∃ t', t.purge now = .ok (t.entries.toList.countP fun (_, row) => IsOver now row, t') ∧
      t'.Indexed ∧ t'.entries = t.entries.filter fun _ row => !decide (IsOver now row) := by
  have hnodup : (t.expiry.keys.filter (isDue now)).Nodup := Std.ExtTreeMap.nodup_keys.filter _
  obtain ⟨t', hpurge, hindexed, hrows⟩ :=
    h.purgeRows hnodup (fun r hr => h.mem_keys_iff.mp (List.mem_filter.mp hr).1) 0
  have hdue : ∀ k e, t.expiresAt? k = some e →
      (indexRow e k ∈ t.expiry.keys.filter (isDue now) ↔ e ≤ now) := by
    intro k e he
    rw [List.mem_filter, h.mem_keys_iff, isDue_indexRow (h.nonneg he), decide_eq_true_eq,
      and_iff_right]
    exact ⟨k, e, he, rfl⟩
  refine ⟨t', ?_, hindexed, ?_⟩
  · rw [Tables.purge, h.due_eq]
    simp only [hpurge, h.length_filter_isDue, Nat.zero_add]
  · refine Std.ExtTreeMap.ext_getElem? fun k => ?_
    show t'.row? k = _
    simp only [hrows, Std.ExtTreeMap.getElem?_filter', exists_congr fun e =>
      and_congr_right (hdue k e)]
    show _ = (t.row? k).filter _
    cases hrow : t.row? k with
    | none => simp
    | some row =>
      simp only [expiresAt?, hrow, Option.bind_some, Option.filter_some]
      split
      · next hover =>
        have hover' : IsOver now row := hover
        simp [hover']
      · next hlive =>
        have hlive' : ¬ IsOver now row := hlive
        simp [hlive']

end Indexed

end Tables

end LikedYou.Durable
