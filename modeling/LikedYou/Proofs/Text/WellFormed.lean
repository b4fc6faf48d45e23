import LikedYou.Proofs.Text.Utf8

/-!
# Only well-formed text is read

`Proofs/Text/Utf8` shows that what is written is read. Here is the converse: bytes that are read are
those of the text that they are read as, so that each text has one form.

* `encodeChar_of_next` — bytes that read as a character are the bytes of that character
* `toString_eq_ok_iff` — bytes read as a string if and only if they are the bytes of that string
* `not_isValidUTF8_iff` — the bytes that cannot be read are those that are not valid UTF-8

## Validity

What is valid UTF-8 is not said by the reader: it is `ByteArray.IsValidUTF8` of the standard library,
the bytes of some characters. That its bytes of a character are the ones of `encodeChar` is
`encodeChar_eq_utf8EncodeChar`.
-/

namespace LikedYou.Utf8

/-! ## One character -/

/-- The range of a leading byte tells how many bytes follow it. -/
theorem following?_eq_some {a : UInt8} {more : Nat} (h : following? a = some more) :
    more = 0 ∧ a.toNat < 0x80 ∨ more = 1 ∧ 0xC2 ≤ a.toNat ∧ a.toNat ≤ 0xDF ∨
      more = 2 ∧ 0xE0 ≤ a.toNat ∧ a.toNat ≤ 0xEF ∨ more = 3 ∧ 0xF0 ≤ a.toNat ∧ a.toNat ≤ 0xF4 := by
  have hbyte := following?_byte a.toNat_lt
  rw [UInt8.ofNat_toNat, h] at hbyte
  repeat' split at hbyte
  all_goals cases hbyte <;> omega

theorem byte_of_toNat {n : Nat} {b : UInt8} (h : n = b.toNat) : UInt8.ofNat n = b := by
  rw [h, UInt8.ofNat_toNat]

theorem toNat_ofNat_of_valid {n : Nat} (h : n < 0xD800 ∨ 0xDFFF < n ∧ n < 0x110000) :
    (Char.ofNat n).toNat = n := by
  rw [Char.ofNat, dif_pos h]
  rfl

theorem encodeChar_one {a : UInt8} (h : a.toNat < 0x80) :
    encodeChar (Char.ofNat a.toNat) = [a] := by
  have hvalid : (Char.ofNat a.toNat).toNat = a.toNat := toNat_ofNat_of_valid (by omega)
  rw [encodeChar_ascii (by omega), hvalid, UInt8.ofNat_toNat]

theorem encodeChar_two {a b : UInt8} (hlow : 0xC2 ≤ a.toNat) (hhigh : a.toNat ≤ 0xDF)
    (hb : SecondByte a.toNat b.toNat) :
    encodeChar (Char.ofNat (a.toNat % 32 * 64 + payload b)) = [a, b] := by
  obtain ⟨hblow, hbhigh, -⟩ := hb
  unfold payload
  rw [encodeChar, toNat_ofNat_of_valid (by omega), if_neg (by omega), if_pos (by omega),
    byte_of_toNat (b := a) (by omega), byte_of_toNat (b := b) (by omega)]

/-- The range of the second byte leaves out overlong forms and surrogates. -/
theorem encodeChar_three {a b c : UInt8} (hlow : 0xE0 ≤ a.toNat) (hhigh : a.toNat ≤ 0xEF)
    (hb : SecondByte a.toNat b.toNat) (hc : 0x80 ≤ c.toNat ∧ c.toNat ≤ 0xBF) :
    encodeChar (Char.ofNat (a.toNat % 16 * 4096 + payload b * 64 + payload c)) = [a, b, c] := by
  unfold SecondByte at hb
  unfold payload
  rw [encodeChar, toNat_ofNat_of_valid (by omega), if_neg (by omega), if_neg (by omega),
    if_pos (by omega), byte_of_toNat (b := a) (by omega), byte_of_toNat (b := b) (by omega),
    byte_of_toNat (b := c) (by omega)]

/-- The range of the second byte leaves out overlong forms and what is above U+10FFFF. -/
theorem encodeChar_four {a b c d : UInt8} (hlow : 0xF0 ≤ a.toNat) (hhigh : a.toNat ≤ 0xF4)
    (hb : SecondByte a.toNat b.toNat) (hc : 0x80 ≤ c.toNat ∧ c.toNat ≤ 0xBF)
    (hd : 0x80 ≤ d.toNat ∧ d.toNat ≤ 0xBF) :
    encodeChar (Char.ofNat
      (a.toNat % 8 * 262144 + payload b * 4096 + payload c * 64 + payload d)) = [a, b, c, d] := by
  unfold SecondByte at hb
  unfold payload
  rw [encodeChar, toNat_ofNat_of_valid (by omega), if_neg (by omega), if_neg (by omega),
    if_neg (by omega), byte_of_toNat (b := a) (by omega), byte_of_toNat (b := b) (by omega),
    byte_of_toNat (b := c) (by omega), byte_of_toNat (b := d) (by omega)]

/-- **Bytes that read as a character are the bytes of that character.** -/
theorem encodeChar_of_next {a : UInt8} {rest rest' : Bytes} {c : Char}
    (h : next a rest = .ok (c, rest')) : encodeChar c ++ rest' = a :: rest := by
  unfold next at h
  -- what is left are four branches, one for each length
  repeat' split at h
  all_goals cases h
  · next hmore =>
    have ha := following?_eq_some hmore
    rw [encodeChar_one (by omega)]
    rfl
  · next hmore _ b hb htwo =>
    have ha := following?_eq_some hmore
    have hb := secondRange_iff.mp (Bool.not_eq_true _ ▸ hb)
    rw [encodeChar_two (by omega) (by omega) hb]
    rfl
  · next hmore _ b hb hnotTwo _ c hc hthree =>
    have ha := following?_eq_some hmore
    have hb := secondRange_iff.mp (Bool.not_eq_true _ ▸ hb)
    have hc := isContinuation_iff.mp (by simpa using hc)
    rw [encodeChar_three (by omega) (by omega) hb hc]
    rfl
  · next more hnot hmore _ b hb hnotTwo _ c hc hnotThree _ d hd =>
    have ha := following?_eq_some hmore
    have hb := secondRange_iff.mp (Bool.not_eq_true _ ▸ hb)
    have hc := isContinuation_iff.mp (by simpa using hc)
    have hd := isContinuation_iff.mp (by simpa using hd)
    have hnotOne : more ≠ 0 := hnot
    rw [encodeChar_four (by omega) (by omega) hb hc hd]
    rfl

/-! ## Texts -/

theorem eq_encode_of_decodeFrom {done cs : List Char} {pos : Nat} {bs : Bytes}
    (h : decodeFrom done pos bs = .ok cs) : ∃ ds, bs = encode ds ∧ cs = done.reverse ++ ds := by
  induction done, pos, bs using decodeFrom.induct generalizing cs with
  | case1 done pos =>
    rw [decodeFrom] at h
    cases h
    exact ⟨[], rfl, (List.append_nil _).symm⟩
  | case2 done pos a rest length hnext =>
    rw [decodeFrom] at h
    split at h
    · cases h
    · next c rest' he =>
      rw [hnext] at he
      cases he
  | case3 done pos a rest c rest' hnext ih =>
    rw [decodeFrom] at h
    split at h
    · cases h
    · next c' rest'' he =>
      rw [hnext] at he
      cases he
      obtain ⟨ds, hrest, hcs⟩ := ih h
      refine ⟨c :: ds, ?_, ?_⟩
      · rw [encode_cons, ← hrest, encodeChar_of_next hnext]
      · rw [hcs, List.reverse_cons, List.append_assoc, List.singleton_append]

/-- Bytes read as a text if and only if they are the bytes of that text. -/
theorem decode_eq_ok_iff {bs : Bytes} {cs : List Char} : decode bs = .ok cs ↔ bs = encode cs := by
  constructor
  · intro h
    obtain ⟨ds, hbs, hcs⟩ := eq_encode_of_decodeFrom h
    rw [hbs, hcs, List.reverse_nil, List.nil_append]
  · intro h
    rw [h, decode_encode]

/-- **Bytes read as a string if and only if they are the bytes of that string.** -/
theorem toString_eq_ok_iff {bs : Bytes} {s : String} : toString bs = .ok s ↔ bs = ofString s := by
  constructor
  · intro h
    rw [toString] at h
    cases hdecode : decode bs with
    | error f =>
      rw [hdecode] at h
      cases h
    | ok cs =>
      rw [hdecode] at h
      cases h
      rw [ofString, String.toList_ofList, decode_eq_ok_iff.mp hdecode]
  · intro h
    rw [h, toString_ofString]

/-! ## Validity -/

/-- The bytes of a character are those that the standard library gives it. -/
theorem encodeChar_eq_utf8EncodeChar (c : Char) : encodeChar c = String.utf8EncodeChar c := by
  have hv := toNat_valid c
  have hval : c.val.toNat = c.toNat := rfl
  simp only [encodeChar, String.utf8EncodeChar, hval]
  generalize c.toNat = n at hv
  split
  · rw [if_pos (by omega)]
  · split
    · have hlead : n / 64 % 32 = n / 64 := Nat.mod_eq_of_lt (by omega)
      rw [if_neg (by omega), if_pos (by omega), hlead, Nat.add_comm (n / 64), Nat.add_comm (n % 64)]
    · split
      · have hlead : n / 4096 % 16 = n / 4096 := Nat.mod_eq_of_lt (by omega)
        rw [if_neg (by omega), if_neg (by omega), if_pos (by omega), hlead, Nat.add_comm (n / 4096),
          Nat.add_comm (n / 64 % 64), Nat.add_comm (n % 64)]
      · have hlead : n / 262144 % 8 = n / 262144 := Nat.mod_eq_of_lt (by omega)
        rw [if_neg (by omega), if_neg (by omega), if_neg (by omega), hlead,
          Nat.add_comm (n / 262144), Nat.add_comm (n / 4096 % 64), Nat.add_comm (n / 64 % 64),
          Nat.add_comm (n % 64)]

theorem toByteArray_encode (cs : List Char) : (encode cs).toByteArray = cs.utf8Encode := by
  rw [List.utf8Encode, encode, funext encodeChar_eq_utf8EncodeChar]

/-- The bytes of a string are those that the standard library keeps of it. -/
theorem toByteArray_ofString (s : String) : (ofString s).toByteArray = s.toByteArray := by
  rw [ofString, toByteArray_encode, ← String.toByteArray_ofList, String.ofList_toList]

/-- **The bytes that cannot be read are those that are not valid UTF-8.** -/
theorem not_isValidUTF8_iff {bs : Bytes} :
    ¬bs.toByteArray.IsValidUTF8 ↔ ∃ f, toString bs = .error f := by
  cases hread : toString bs with
  | ok s =>
    have hvalid : bs.toByteArray.IsValidUTF8 := by
      rw [toString_eq_ok_iff.mp hread, toByteArray_ofString]
      exact s.isValidUTF8
    exact iff_of_false (not_not_intro hvalid) nofun
  | error f =>
    refine iff_of_true ?_ ⟨f, rfl⟩
    rintro ⟨cs, hcs⟩
    rw [← toByteArray_encode, List.toByteArray_inj] at hcs
    rw [hcs, toString_encode] at hread
    cases hread

end LikedYou.Utf8
