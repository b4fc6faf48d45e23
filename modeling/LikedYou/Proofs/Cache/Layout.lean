import LikedYou.Cache.Durable.Layout
import LikedYou.Proofs.Text.Bytes
import LikedYou.Proofs.Text.WellFormed

/-!
# Stored rows

* `entryExpiry?_encodeEntry`, `decodeEntry_encodeEntry` — a row tells the entry that it was made of
* `entryExpiry?_eq_some_iff` — the expiry of a row is the number in front of it, with its sign
* `decodeEntry_eq_iff` — any row is read as what it says: one of four cases
* `entry_reads_as_written` — a row that is read as live was written so, and which rows are corrupt
* `expiryAfter_le_iff` — when the time of an entry is over
-/

namespace LikedYou.Durable

/-! ## Entries -/

theorem splitEight?_append {first : Bytes} (h : first.length = 8) (rest : Bytes) :
    splitEight? (first ++ rest) = some (first, rest) := by
  have htake : (first ++ rest).take 8 = first := List.take_left' h
  have hdrop : (first ++ rest).drop 8 = rest := List.drop_left' h
  rw [splitEight?, htake, hdrop]
  exact if_pos h

theorem splitEight?_eq_some_iff {first rest bs : Bytes} :
    splitEight? bs = some (first, rest) ↔ first.length = 8 ∧ bs = first ++ rest := by
  constructor
  · intro h
    rw [splitEight?] at h
    split at h
    · next hlength =>
      cases h
      exact ⟨hlength, (List.take_append_drop 8 bs).symm⟩
    · cases h
  · rintro ⟨hlength, rfl⟩
    exact splitEight?_append hlength rest

theorem splitEight?_of_le {bs : Bytes} (h : 8 ≤ bs.length) :
    splitEight? bs = some (bs.take 8, bs.drop 8) :=
  splitEight?_eq_some_iff.mpr
    ⟨List.length_take_of_le h, (List.take_append_drop 8 bs).symm⟩

theorem splitEight?_of_lt {bs : Bytes} (h : bs.length < 8) : splitEight? bs = none := by
  rw [splitEight?]
  exact if_neg (by rw [List.length_take]; omega)

theorem splitEight?_encodeEntry (value : String) (expiresAt : Int64) :
    splitEight? (encodeEntry value expiresAt) =
      some (Bytes.littleEndian 8 expiresAt.toUInt64.toNat, Utf8.ofString value) :=
  splitEight?_append (Bytes.length_littleEndian 8 _) _

theorem toInt64_ofLittleEndian (n : Int64) :
    (UInt64.ofNat (Bytes.ofLittleEndian (Bytes.littleEndian 8 n.toUInt64.toNat))).toInt64 = n := by
  have hlt : n.toUInt64.toNat < 256 ^ 8 := n.toUInt64.toNat_lt
  rw [Bytes.ofLittleEndian_littleEndian, Nat.mod_eq_of_lt hlt, UInt64.ofNat_toNat,
    Int64.toInt64_toUInt64]

theorem entryExpiry?_encodeEntry (value : String) (expiresAt : Int64) :
    entryExpiry? (encodeEntry value expiresAt) = some expiresAt := by
  rw [entryExpiry?, splitEight?_encodeEntry]
  exact congrArg some (toInt64_ofLittleEndian expiresAt)

/-- **A row tells the entry that it was made of.** -/
theorem decodeEntry_encodeEntry (value : String) (expiresAt now : Int64) :
    decodeEntry (encodeEntry value expiresAt) now =
      .ok (if expiresAt ≤ now then .expired else .live value) := by
  rw [decodeEntry, splitEight?_encodeEntry]
  simp only [toInt64_ofLittleEndian, Utf8.toString_ofString]
  split <;> rfl

theorem length_encodeEntry (value : String) (expiresAt : Int64) :
    (encodeEntry value expiresAt).length = 8 + (Utf8.ofString value).length := by
  rw [encodeEntry, List.length_append, Bytes.length_littleEndian]

theorem length_indexRow (expiresAt : Int64) (key : Bytes) :
    (indexRow expiresAt key).length = 8 + key.length := by
  rw [indexRow, List.length_append, Bytes.length_bigEndian]

/-! ## Any rows -/

variable {row : Bytes} {value : String} {expiresAt now : Int64}

theorem entryExpiry?_of_le (h : 8 ≤ row.length) :
    entryExpiry? row = some (UInt64.ofNat (Bytes.ofLittleEndian (row.take 8))).toInt64 := by
  rw [entryExpiry?, splitEight?_of_le h]
  rfl

/-- A row has an expiry if it is long enough. -/
theorem entryExpiry?_eq_none_iff : entryExpiry? row = none ↔ row.length < 8 := by
  rcases Nat.lt_or_ge row.length 8 with hshort | hlong
  · rw [entryExpiry?, splitEight?_of_lt hshort]
    exact iff_of_true rfl hshort
  · rw [entryExpiry?_of_le hlong]
    exact iff_of_false nofun (Nat.not_lt.mpr hlong)

theorem le_length_of_entryExpiry? (h : entryExpiry? row = some expiresAt) : 8 ≤ row.length := by
  refine Nat.le_of_not_lt fun hshort => ?_
  rw [entryExpiry?_eq_none_iff.mpr hshort] at h
  cases h

theorem toInt_toInt64_ofNat (n : Nat) :
    (UInt64.ofNat n).toInt64.toInt = (n : Int).bmod (2 ^ 64) := by
  rw [← Int64.toInt_toBitVec, UInt64.toBitVec_toInt64, UInt64.toBitVec_ofNat',
    BitVec.toInt_ofNat']

/-- The expiry of a row is the number in front of it, least significant byte first, its sign being
that of the two's complement. -/
theorem entryExpiry?_eq_some_iff :
    entryExpiry? row = some expiresAt ↔
      8 ≤ row.length ∧
        expiresAt.toInt = (Bytes.ofLittleEndian (row.take 8) : Int).bmod (2 ^ 64) := by
  rcases Nat.lt_or_ge row.length 8 with hshort | hlong
  · rw [entryExpiry?_eq_none_iff.mpr hshort]
    exact iff_of_false nofun fun h => Nat.not_le.mpr hshort h.1
  · rw [entryExpiry?_of_le hlong, Option.some_inj, ← Int64.toInt_inj, toInt_toInt64_ofNat]
    exact ⟨fun h => ⟨hlong, h.symm⟩, fun h => h.2.symm⟩

/-- A row is made of its expiry and what follows it. -/
theorem eq_encodeEntry (hexpiry : entryExpiry? row = some expiresAt)
    (hvalue : row.drop 8 = Utf8.ofString value) : row = encodeEntry value expiresAt := by
  have hlength := le_length_of_entryExpiry? hexpiry
  have htake : (row.take 8).length = 8 := List.length_take_of_le hlength
  have hlt : Bytes.ofLittleEndian (row.take 8) < UInt64.size := by
    have h := Bytes.ofLittleEndian_lt (row.take 8)
    rw [htake] at h
    exact h
  have hfirst : Bytes.littleEndian 8 (Bytes.ofLittleEndian (row.take 8)) = row.take 8 := by
    have h := Bytes.littleEndian_ofLittleEndian (row.take 8)
    rwa [htake] at h
  rw [entryExpiry?_of_le hlength] at hexpiry
  rw [← Option.some.inj hexpiry, encodeEntry, UInt64.toUInt64_toInt64, UInt64.toNat_ofNat_of_lt' hlt,
    hfirst, ← hvalue, List.take_append_drop]

theorem decodeEntry_of_lt (h : row.length < 8) (now : Int64) :
    decodeEntry row now = .error (.corrupt "entry shorter than expiry prefix") := by
  rw [decodeEntry, splitEight?_of_lt h]

theorem decodeEntry_of_entryExpiry? (h : entryExpiry? row = some expiresAt) (now : Int64) :
    decodeEntry row now =
      if expiresAt ≤ now then .ok .expired
      else
        match Utf8.toString (row.drop 8) with
        | .ok s => .ok (.live s)
        | .error f => .error (.corrupt f.message) := by
  have hlength := le_length_of_entryExpiry? h
  rw [entryExpiry?_of_le hlength] at h
  rewrite [decodeEntry, splitEight?_of_le hlength, ← Option.some.inj h]
  rfl

/-- What a row says at a given millisecond, or why it is corrupt. -/
inductive Says (row : Bytes) (now : Int64) : Except Fault Reading → Prop where
  /-- There is no room for an expiry. -/
  | short (h : row.length < 8) : Says row now (.error (.corrupt "entry shorter than expiry prefix"))
  /-- The time is over; what follows the expiry does not matter any more. -/
  | expired {expiresAt : Int64} (hexpiry : entryExpiry? row = some expiresAt)
      (hover : expiresAt ≤ now) : Says row now (.ok .expired)
  | live {value : String} {expiresAt : Int64} (hrow : row = encodeEntry value expiresAt)
      (hlate : now < expiresAt) : Says row now (.ok (.live value))
  /-- What follows the expiry is no text. -/
  | noText {expiresAt : Int64} {f : Utf8.Fault} (hexpiry : entryExpiry? row = some expiresAt)
      (hlate : now < expiresAt) (hread : Utf8.toString (row.drop 8) = .error f) :
      Says row now (.error (.corrupt f.message))

/-- **A row is read as what it says.** -/
theorem decodeEntry_eq_iff {r : Except Fault Reading} : decodeEntry row now = r ↔ Says row now r := by
  constructor
  · rintro rfl
    cases hexpiry : entryExpiry? row with
    | none =>
      have hshort := entryExpiry?_eq_none_iff.mp hexpiry
      rw [decodeEntry_of_lt hshort]
      exact .short hshort
    | some expiresAt =>
      rw [decodeEntry_of_entryExpiry? hexpiry]
      split
      · next hover => exact .expired hexpiry hover
      · next hlate =>
        replace hlate := Int64.not_le.mp hlate
        split
        · next s hread =>
          exact .live (eq_encodeEntry hexpiry (Utf8.toString_eq_ok_iff.mp hread)) hlate
        · next f hread => exact .noText hexpiry hlate hread
  · intro h
    cases h with
    | short hshort => exact decodeEntry_of_lt hshort now
    | expired hexpiry hover => rw [decodeEntry_of_entryExpiry? hexpiry, if_pos hover]
    | live hrow hlate => rw [hrow, decodeEntry_encodeEntry, if_neg (Int64.not_le.mpr hlate)]
    | noText hexpiry hlate hread =>
      rw [decodeEntry_of_entryExpiry? hexpiry, if_neg (Int64.not_le.mpr hlate), hread]

example : decodeEntry (Bytes.littleEndian 8 5 ++ [0xFF]) 5 = .ok .expired := rfl

example : decodeEntry (Bytes.littleEndian 8 5 ++ [0xFF]) 4 =
    .error (.corrupt "invalid utf-8 sequence of 1 bytes from index 0") := by cbv

theorem decodeEntry_eq_live_iff :
    decodeEntry row now = .ok (.live value) ↔
      ∃ expiresAt, row = encodeEntry value expiresAt ∧ now < expiresAt := by
  rw [decodeEntry_eq_iff]
  constructor
  · intro h
    cases h with
    | live hrow hlate => exact ⟨_, hrow, hlate⟩
  · rintro ⟨expiresAt, hrow, hlate⟩
    exact .live hrow hlate

theorem decodeEntry_eq_expired_iff :
    decodeEntry row now = .ok .expired ↔
      ∃ expiresAt, entryExpiry? row = some expiresAt ∧ expiresAt ≤ now := by
  rw [decodeEntry_eq_iff]
  constructor
  · intro h
    cases h with
    | expired hexpiry hover => exact ⟨_, hexpiry, hover⟩
  · rintro ⟨expiresAt, hexpiry, hover⟩
    exact .expired hexpiry hover

theorem decodeEntry_eq_corrupt_iff :
    (∃ reason, decodeEntry row now = .error (.corrupt reason)) ↔
      row.length < 8 ∨ ∃ expiresAt, entryExpiry? row = some expiresAt ∧ now < expiresAt ∧
        ¬(row.drop 8).toByteArray.IsValidUTF8 := by
  simp only [decodeEntry_eq_iff, Utf8.not_isValidUTF8_iff]
  constructor
  · rintro ⟨reason, hsays⟩
    cases hsays with
    | short hshort => exact Or.inl hshort
    | noText hexpiry hlate hread => exact Or.inr ⟨_, hexpiry, hlate, _, hread⟩
  · rintro (hshort | ⟨expiresAt, hexpiry, hlate, f, hread⟩)
    · exact ⟨_, .short hshort⟩
    · exact ⟨_, .noText hexpiry hlate hread⟩

/-- **Entries are read as they were written, and nothing else is read as live.** The row of any text
and expiry tells both, the text as long as its time is not over. Of all rows, a live one was written
so; one without room for an expiry is corrupt, and so is one whose time is not over and which goes on
with bytes that are not valid UTF-8. -/
theorem entry_reads_as_written :
    (∀ (value : String) (expiresAt now : Int64),
      entryExpiry? (encodeEntry value expiresAt) = some expiresAt ∧
      decodeEntry (encodeEntry value expiresAt) now =
        .ok (if now < expiresAt then .live value else .expired)) ∧
    ∀ (row : Bytes) (now : Int64),
      (∀ expiresAt, entryExpiry? row = some expiresAt ↔
        8 ≤ row.length ∧
          expiresAt.toInt = (Bytes.ofLittleEndian (row.take 8) : Int).bmod (2 ^ 64)) ∧
      ((∃ reason, decodeEntry row now = .error (.corrupt reason)) ↔
        row.length < 8 ∨ ∃ expiresAt, entryExpiry? row = some expiresAt ∧ now < expiresAt ∧
          ¬(row.drop 8).toByteArray.IsValidUTF8) ∧
      (∀ value, decodeEntry row now = .ok (.live value) ↔
        ∃ expiresAt, row = encodeEntry value expiresAt ∧ now < expiresAt) ∧
      (decodeEntry row now = .ok .expired ↔
        ∃ expiresAt, entryExpiry? row = some expiresAt ∧ expiresAt ≤ now) := by
  refine ⟨fun value expiresAt now => ⟨entryExpiry?_encodeEntry value expiresAt, ?_⟩,
    fun row now => ⟨fun expiresAt => entryExpiry?_eq_some_iff, decodeEntry_eq_corrupt_iff,
      fun value => decodeEntry_eq_live_iff, decodeEntry_eq_expired_iff⟩⟩
  rw [decodeEntry_encodeEntry]
  by_cases hover : expiresAt ≤ now
  · rw [if_pos hover, if_neg (Int64.not_lt.mpr hover)]
  · rw [if_neg hover, if_pos (Int64.not_le.mp hover)]

/-! ## Expiries -/

theorem toInt_expiryAfter (ttl : Time.Duration) {now : Int64} (hnow : 0 ≤ now.toInt) :
    (expiryAfter ttl now).toInt = min (now.toInt + ttl.millis) lastMillisecond := by
  have hlast : lastMillisecond = 2 ^ 63 - 1 := rfl
  unfold expiryAfter
  rw [Int64.toInt_ofInt_of_le (by omega) (by omega)]
  omega

/-- The time of an entry is over when its length of time has passed, if there are later
milliseconds at all. -/
theorem expiryAfter_le_iff (ttl : Time.Duration) {written now : Int64}
    (hwritten : 0 ≤ written.toInt) (hnow : now.toInt < lastMillisecond) :
    expiryAfter ttl written ≤ now ↔ written.toInt + ttl.millis ≤ now.toInt := by
  rw [Int64.le_iff_toInt_le, toInt_expiryAfter ttl hwritten]
  omega

end LikedYou.Durable
