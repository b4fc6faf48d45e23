import LikedYou.Cache.Durable
import LikedYou.Proofs.Cache.Index

/-!
# Purging whatever is stored

* `Tables.purgeRows_eq_ok`, `Tables.purgeRows_eq_error` — what purging some index rows comes to
* `Tables.mem_due_iff` — a purge finds all index rows whose time is over
* `Durable.purge_unloaded` — what a purge does to any tables

Nothing is said here of how the tables came about. Entries and index rows may be too short to tell an
expiry, entries may have no index row or several, and index rows may describe no entry or one that was
written anew. Only rows that carry something are left out, which the database does not read at all.
-/

namespace LikedYou.Durable

variable {now expiresAt : Int64} {key r : Bytes}

namespace Tables

variable {t t' : Tables} {rows : List Bytes} {removed : Nat}

/-! ## What is due -/

/-- What all that stands before it lets pass is passed if it is let pass itself. -/
theorem mem_takeWhile {α : Type} {p : α → Bool} {l : List α} {R : α → α → Prop}
    (hl : l.Pairwise R) {a : α} (ha : a ∈ l) (hp : p a = true)
    (hbefore : ∀ b, R b a → p b = true) : a ∈ l.takeWhile p := by
  induction l with
  | nil => cases ha
  | cons b l ih =>
    obtain ⟨hb, hl⟩ := List.pairwise_cons.mp hl
    rcases List.mem_cons.mp ha with rfl | ha
    · rw [List.takeWhile_cons_of_pos hp]
      exact List.mem_cons_self
    · rw [List.takeWhile_cons_of_pos (hbefore b (hb a ha))]
      exact List.mem_cons_of_mem b (ih hl ha)

/-- **A purge finds all index rows whose time is over**, whatever else stands among them. -/
theorem mem_due_iff (h : splitIndexRow? r = some (expiresAt, key)) :
    r ∈ t.expiry.keys.takeWhile (isDue now) ↔ r ∈ t.expiry ∧ expiresAt ≤ now := by
  constructor
  · intro hr
    have hdue := List.all_eq_true.mp List.all_takeWhile r hr
    rw [isDue_of_split h, decide_eq_true_eq] at hdue
    exact ⟨Std.ExtTreeMap.mem_keys.mp ((List.takeWhile_sublist _).mem hr), hdue⟩
  · rintro ⟨hr, hle⟩
    have hdue : isDue now r = true := by rw [isDue_of_split h, decide_eq_true_eq]; exact hle
    exact mem_takeWhile Std.ExtTreeMap.ordered_keys (Std.ExtTreeMap.mem_keys.mpr hr) hdue
      fun r' hlt => isDue_of_lt hlt h hdue

/-! ## Purging index rows -/

/-- Whether one of some index rows describes the entry under a key: they tell the same expiry. -/
def DescribedBy (t : Tables) (rows : List Bytes) (key : Bytes) : Prop :=
  ∃ r ∈ rows, ∃ expiresAt, splitIndexRow? r = some (expiresAt, key) ∧
    t.expiresAt? key = some expiresAt

theorem describedBy_cons : t.DescribedBy (r :: rows) key ↔
    (∃ expiresAt, splitIndexRow? r = some (expiresAt, key) ∧ t.expiresAt? key = some expiresAt) ∨
      t.DescribedBy rows key := by
  simp only [DescribedBy, List.mem_cons, exists_eq_or_imp]

/-- What is left of tables whose index rows and their entries were purged, and how many entries were
removed: those that the index rows describe, and no others. -/
structure Purged (rows : List Bytes) (t t' : Tables) (removed : Nat) : Prop where
  gone : ∀ key, t.DescribedBy rows key → t'.row? key = none
  spared : ∀ key, ¬ t.DescribedBy rows key → t'.row? key = t.row? key
  index : ∀ r, t'.expiry[r]? = if r ∈ rows then none else t.expiry[r]?
  counted : removed + t'.entries.size = t.entries.size

namespace Purged

theorem nil (t : Tables) : Purged [] t t 0 :=
  ⟨by rintro key ⟨r, ⟨⟩, -⟩, fun _ _ => rfl, fun r => (if_neg nofun).symm, Nat.zero_add _⟩

theorem index_cons {entries : Std.ExtTreeMap Bytes Bytes}
    (h : Purged rows ⟨entries, t.expiry.erase r⟩ t' removed) (r' : Bytes) :
    t'.expiry[r']? = if r' ∈ r :: rows then none else t.expiry[r']? := by
  rw [h.index]
  simp only [Std.ExtTreeMap.getElem?_erase, Std.compare_eq_iff_eq, List.mem_cons]
  by_cases hrows : r' ∈ rows
  · simp [hrows]
  · simp [hrows, eq_comm]

/-- An index row that describes no entry goes alone. -/
theorem cons (h : Purged rows ⟨t.entries, t.expiry.erase r⟩ t' removed)
    (hnone : ∀ expiresAt key, splitIndexRow? r = some (expiresAt, key) →
      t.expiresAt? key ≠ some expiresAt) : Purged (r :: rows) t t' removed := by
  have hiff : ∀ key, t.DescribedBy (r :: rows) key ↔ t.DescribedBy rows key := fun key => by
    rw [describedBy_cons, or_iff_right]
    rintro ⟨e, hsplit, he⟩
    exact hnone e key hsplit he
  exact ⟨fun key hkey => h.gone key ((hiff key).mp hkey),
    fun key hkey => h.spared key (mt (hiff key).mpr hkey), h.index_cons, h.counted⟩

/-- An index row goes with the entry that it describes. -/
theorem cons_entry (hsplit : splitIndexRow? r = some (expiresAt, key))
    (he : t.expiresAt? key = some expiresAt)
    (h : Purged rows ⟨t.entries.erase key, t.expiry.erase r⟩ t' removed) :
    Purged (r :: rows) t t' (removed + 1) := by
  obtain ⟨row, hrow, hexpiry⟩ := Option.bind_eq_some_iff.mp he
  have hrows := row?_erase t.entries (t.expiry.erase r) key
  have hiff : ∀ k, k ≠ key → (t.DescribedBy (r :: rows) k ↔
      DescribedBy ⟨t.entries.erase key, t.expiry.erase r⟩ rows k) := by
    intro k hk
    have hsame : expiresAt? ⟨t.entries.erase key, t.expiry.erase r⟩ k = t.expiresAt? k := by
      rw [expiresAt?_erase, if_neg hk]
    rw [describedBy_cons, or_iff_right, DescribedBy, DescribedBy, hsame]
    rintro ⟨e, hsplit', -⟩
    rw [hsplit] at hsplit'
    cases hsplit'
    exact hk rfl
  -- the entry is not described any more, and stays away
  have hself : t'.row? key = none := by
    rw [h.spared, hrows, if_pos rfl]
    rintro ⟨r', -, e, -, he'⟩
    rw [expiresAt?, hrows, if_pos rfl] at he'
    cases he'
  refine ⟨fun k hk => ?_, fun k hk => ?_, h.index_cons, ?_⟩
  · by_cases heq : k = key
    · rw [heq, hself]
    · exact h.gone k ((hiff k heq).mp hk)
  · have heq : k ≠ key := by
      rintro rfl
      exact hk (describedBy_cons.mpr (Or.inl ⟨expiresAt, hsplit, he⟩))
    rw [h.spared k (mt (hiff k heq).mpr hk), hrows, if_neg heq]
    rfl
  · have hsize := size_erase_add_one (contains_of_row? hrow)
    have hcounted := h.counted
    simp only at hcounted
    omega

end Purged

/-- Whether an index row tells an expiry and an empty key. No entry can be asked for by it. -/
def Nameless (r : Bytes) : Prop := ∃ expiresAt, splitIndexRow? r = some (expiresAt, [])

/-- Index rows with keys are purged, each with the entry that it describes. -/
theorem purgeRows_eq_ok (hnames : ∀ r ∈ rows, ¬ Nameless r) (t : Tables) (removed : Nat) :
    ∃ more t', t.purgeRows rows removed = .ok (removed + more, t') ∧ Purged rows t t' more := by
  induction rows generalizing t removed with
  | nil => exact ⟨0, t, rfl, .nil t⟩
  | cons r rows ih =>
    obtain ⟨hname, hrest⟩ := List.forall_mem_cons.mp hnames
    rw [purgeRows]
    cases hsplit : splitIndexRow? r with
    | none =>
      obtain ⟨more, t', hpurge, hpurged⟩ := ih hrest ⟨t.entries, t.expiry.erase r⟩ removed
      refine ⟨more, t', hpurge, hpurged.cons fun e key hsplit' => ?_⟩
      rw [hsplit] at hsplit'
      cases hsplit'
    | some p =>
      obtain ⟨expiresAt, key⟩ := p
      have hkey : key ≠ [] := by
        rintro rfl
        exact hname ⟨expiresAt, hsplit⟩
      simp only [find?_of_ne_nil hkey]
      split
      · next he =>
        obtain ⟨more, t', hpurge, hpurged⟩ :=
          ih hrest ⟨t.entries.erase key, t.expiry.erase r⟩ (removed + 1)
        exact ⟨more + 1, t', by rw [hpurge, Nat.add_assoc, Nat.add_comm 1],
          hpurged.cons_entry hsplit he⟩
      · next hne =>
        obtain ⟨more, t', hpurge, hpurged⟩ := ih hrest ⟨t.entries, t.expiry.erase r⟩ removed
        refine ⟨more, t', hpurge, hpurged.cons fun e key hsplit' he => ?_⟩
        rw [hsplit] at hsplit'
        cases hsplit'
        exact hne he

/-- An index row without a key makes the whole purge fail, whatever was purged before it. -/
theorem purgeRows_eq_error (h : ∃ r ∈ rows, Nameless r) (t : Tables) (removed : Nat) :
    t.purgeRows rows removed = .error .badKeyLength := by
  induction rows generalizing t removed with
  | nil =>
    obtain ⟨r, ⟨⟩, -⟩ := h
  | cons r rows ih =>
    rw [purgeRows]
    by_cases hname : Nameless r
    · obtain ⟨expiresAt, hsplit⟩ := hname
      simp only [hsplit]
      rfl
    · have hrest : ∃ r ∈ rows, Nameless r := by
        obtain ⟨r', hr', hname'⟩ := h
        rcases List.mem_cons.mp hr' with rfl | hr'
        · exact absurd hname' hname
        · exact ⟨r', hr', hname'⟩
      cases hsplit : splitIndexRow? r with
      | none => exact ih hrest _ _
      | some p =>
        obtain ⟨expiresAt, key⟩ := p
        have hkey : key ≠ [] := by
          rintro rfl
          exact hname ⟨expiresAt, hsplit⟩
        simp only [find?_of_ne_nil hkey]
        split
        · exact ih hrest _ _
        · exact ih hrest _ _

/-! ## Purging tables -/

/-- Whether the time of the entry under a key is over, and an index row of the entry says so. -/
def Doomed (now : Int64) (t : Tables) (key : Bytes) : Prop :=
  ∃ expiresAt, t.expiresAt? key = some expiresAt ∧ expiresAt ≤ now ∧
    ∃ r ∈ t.expiry, splitIndexRow? r = some (expiresAt, key)

/-- Whether an index row that is an expiry and nothing else is due. -/
def Blocked (now : Int64) (t : Tables) : Prop :=
  ∃ r ∈ t.expiry, r.length = 8 ∧
    ∃ expiresAt key, splitIndexRow? r = some (expiresAt, key) ∧ expiresAt ≤ now

/-- What is left of tables that were purged at some time, and how many entries were removed. -/
structure PurgedAt (now : Int64) (t t' : Tables) (removed : Nat) : Prop where
  /-- Every entry that an index row rightly tells to be over is removed. -/
  gone : ∀ key, t.Doomed now key → t'.row? key = none
  /-- Every other entry stays as it was. -/
  spared : ∀ key, ¬ t.Doomed now key → t'.row? key = t.row? key
  counted : removed + t'.entries.size = t.entries.size
  /-- No index row is left that tells a time that has passed. -/
  due : ∀ r expiresAt key, splitIndexRow? r = some (expiresAt, key) → expiresAt ≤ now →
    t'.expiry[r]? = none
  /-- Every index row that tells a later time is left. -/
  undue : ∀ r expiresAt key, splitIndexRow? r = some (expiresAt, key) → now < expiresAt →
    t'.expiry[r]? = t.expiry[r]?
  /-- No index row comes. One that tells no time may stay or go. -/
  old : ∀ r load : Bytes, t'.expiry[r]? = some load → t.expiry[r]? = some load

theorem length_eq_eight_iff (h : splitIndexRow? r = some (expiresAt, key)) :
    r.length = 8 ↔ key = [] := by
  obtain ⟨first, hlength, rfl, -⟩ := splitIndexRow?_eq_some_iff.mp h
  rw [List.length_append, hlength, ← List.length_eq_zero_iff]
  omega

theorem blocked_iff : t.Blocked now ↔ ∃ r ∈ t.expiry.keys.takeWhile (isDue now), Nameless r := by
  constructor
  · rintro ⟨r, hr, hlength, expiresAt, key, hsplit, hle⟩
    obtain rfl := (length_eq_eight_iff hsplit).mp hlength
    exact ⟨r, (mem_due_iff hsplit).mpr ⟨hr, hle⟩, expiresAt, hsplit⟩
  · rintro ⟨r, hr, expiresAt, hsplit⟩
    obtain ⟨hmem, hle⟩ := (mem_due_iff hsplit).mp hr
    exact ⟨r, hmem, (length_eq_eight_iff hsplit).mpr rfl, expiresAt, [], hsplit, hle⟩

theorem describedBy_due_iff :
    t.DescribedBy (t.expiry.keys.takeWhile (isDue now)) key ↔ t.Doomed now key := by
  constructor
  · rintro ⟨r, hr, expiresAt, hsplit, he⟩
    obtain ⟨hmem, hle⟩ := (mem_due_iff hsplit).mp hr
    exact ⟨expiresAt, he, hle, r, hmem, hsplit⟩
  · rintro ⟨expiresAt, he, hle, r, hmem, hsplit⟩
    exact ⟨r, (mem_due_iff hsplit).mpr ⟨hmem, hle⟩, expiresAt, hsplit, he⟩

theorem Purged.purgedAt (h : Purged (t.expiry.keys.takeWhile (isDue now)) t t' removed) :
    t.PurgedAt now t' removed where
  gone key hkey := h.gone key (describedBy_due_iff.mpr hkey)
  spared key hkey := h.spared key (mt describedBy_due_iff.mp hkey)
  counted := h.counted
  due r expiresAt key hsplit hle := by
    rw [h.index]
    split
    · rfl
    · next hr =>
      rw [mem_due_iff hsplit] at hr
      exact Std.ExtTreeMap.getElem?_eq_none fun hmem => hr ⟨hmem, hle⟩
  undue r expiresAt key hsplit hlt := by
    rw [h.index, if_neg]
    rw [mem_due_iff hsplit]
    exact fun hr => Int64.not_lt.mpr hr.2 hlt
  old r load hload := by
    rw [h.index] at hload
    split at hload
    · cases hload
    · exact hload

/-- A purge fails if an index row without a key is due, and otherwise purges what is due. -/
theorem Unloaded.purge_cases (h : t.Unloaded) (now : Int64) :
    (t.Blocked now ∧ t.purge now = .error .badKeyLength) ∨
    (¬ t.Blocked now ∧ ∃ removed t', t.purge now = .ok (removed, t') ∧ t.PurgedAt now t' removed) := by
  rw [Tables.purge, h.due_eq, blocked_iff]
  by_cases hname : ∃ r ∈ t.expiry.keys.takeWhile (isDue now), Nameless r
  · exact Or.inl ⟨hname, purgeRows_eq_error hname t 0⟩
  · have hnames : ∀ r ∈ t.expiry.keys.takeWhile (isDue now), ¬ Nameless r := fun r hr hno =>
      hname ⟨r, hr, hno⟩
    obtain ⟨removed, t', hpurge, hpurged⟩ := purgeRows_eq_ok hnames t 0
    rw [Nat.zero_add] at hpurge
    exact Or.inr ⟨hname, removed, t', hpurge, hpurged.purgedAt⟩

end Tables

/-- **What a purge does to any tables, at any time.** It fails if an index row that is an expiry and
nothing else is due, and then changes nothing. Otherwise it removes the entries whose time is over by
their own row and by an index row of theirs, and tells and counts how many these were. -/
theorem purge_unloaded (c : Durable) (now : Int64) (h : c.tables.Unloaded) :
    ((∃ f, (c.purge now).1 = .error f) ↔ c.tables.Blocked now) ∧
    (∀ f c', c.purge now = (.error f, c') → c' = c) ∧
    ∀ removed c', c.purge now = (.ok removed, c') →
      c' = { c with tables := c'.tables, evictions := c.evictions + removed } ∧
        c.tables.PurgedAt now c'.tables removed := by
  rcases h.purge_cases now with ⟨hblocked, hpurge⟩ | ⟨hfree, removed, t', hpurge, hpurged⟩
  · have heq : c.purge now = (.error .badKeyLength, c) := by rw [Durable.purge, hpurge]
    rw [heq]
    refine ⟨iff_of_true ⟨_, rfl⟩ hblocked, ?_, ?_⟩
    · rintro f c' ⟨⟩
      rfl
    · rintro removed c' ⟨⟩
  · have heq : c.purge now =
        (.ok removed, { c with tables := t', evictions := c.evictions + removed }) := by
      rw [Durable.purge, hpurge]
    rw [heq]
    refine ⟨iff_of_false nofun hfree, ?_, ?_⟩
    · rintro f c' ⟨⟩
    · rintro removed' c' ⟨⟩
      exact ⟨rfl, hpurged⟩

/-- Entries that are over, too short, no text, from before 1970, or written anew, and index rows that
are theirs, out of date, too short, without an entry, or later than can be told. -/
def disordered : Durable := openWith
  { entries := .ofList
      ([([1], encodeEntry "a" 5), ([2], [0]), ([3], encodeEntry "b" 9),
        ([4], Bytes.littleEndian 8 4 ++ [0xFF]), ([5], encodeEntry "c" (-2))] :
        List (Bytes × Bytes))
    expiry := .ofList
      ([([0], []), (indexRow 5 [1], []), (indexRow 3 [3], []), (indexRow 9 [3], []),
        (indexRow 4 [4], []), (indexRow 0 [5], []), (indexRow 6 [6], []),
        (List.replicate 8 0xFF ++ [1], [])] : List (Bytes × Bytes)) }
  (roomIn 1)

theorem purge_unloaded_disordered : disordered.tables.Unloaded ∧
    ∃ c', disordered.purge 6 = (.ok 2, c') ∧ disordered.tables.PurgedAt 6 c'.tables 2 := by
  have hrows : ∀ p ∈ disordered.tables.expiry.toList, p.2 = [] := by decide +kernel
  have hunloaded : disordered.tables.Unloaded := fun r load hr =>
    hrows (r, load) (Std.ExtTreeMap.mem_toList_iff_getElem?_eq_some.mpr hr)
  have hpurge : (disordered.purge 6).1 = .ok 2 := by rfl
  obtain ⟨-, -, hpurged⟩ := purge_unloaded disordered 6 hunloaded
  have heq : disordered.purge 6 = (.ok 2, (disordered.purge 6).2) := Prod.ext hpurge rfl
  exact ⟨hunloaded, _, heq, (hpurged 2 _ heq).2⟩

end LikedYou.Durable
