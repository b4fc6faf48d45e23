import LikedYou.Text.Utf8

/-!
# Text survives UTF-8

* `next_encodeChar` — the bytes of a character read as that character, whatever follows them
* `decode_encode` — the bytes of a text read as that text
* `ofString_injective` — different strings have different bytes

The reader looks at bytes one after the other, so its tests on a byte are first turned into tests on
the number that the byte was made from. After that each length of a character is arithmetic.
-/

namespace LikedYou.Utf8

/-! ## Bytes made from numbers -/

theorem toNat_byte {n : Nat} (h : n < 256) : (UInt8.ofNat n).toNat = n := by
  rw [UInt8.toNat_ofNat']
  omega

theorem following?_byte {n : Nat} (h : n < 256) :
    following? (UInt8.ofNat n) =
      if n < 0x80 then some 0
      else if 0xC2 ≤ n ∧ n ≤ 0xDF then some 1
      else if 0xE0 ≤ n ∧ n ≤ 0xEF then some 2
      else if 0xF0 ≤ n ∧ n ≤ 0xF4 then some 3
      else none := by
  simp only [following?, UInt8.lt_iff_toNat_lt, UInt8.le_iff_toNat_le, toNat_byte h,
    Bool.and_eq_true, decide_eq_true_eq]
  rfl

theorem payload_byte {n : Nat} (h : n < 64) : payload (UInt8.ofNat (0x80 + n)) = n := by
  rw [payload, toNat_byte (by omega)]
  omega

theorem isContinuation_iff {b : UInt8} :
    isContinuation b = true ↔ 0x80 ≤ b.toNat ∧ b.toNat ≤ 0xBF := by
  simp only [isContinuation, UInt8.le_iff_toNat_le, Bool.and_eq_true, decide_eq_true_eq]
  rfl

theorem isContinuation_byte {n : Nat} (h : n < 64) :
    isContinuation (UInt8.ofNat (0x80 + n)) = true := by
  rw [isContinuation_iff, toNat_byte (by omega)]
  omega

/-- Whether `b` can be the second byte after the leading byte `a`. -/
def SecondByte (a b : Nat) : Prop :=
  0x80 ≤ b ∧ b ≤ 0xBF ∧ (a = 0xE0 → 0xA0 ≤ b) ∧ (a = 0xED → b ≤ 0x9F) ∧ (a = 0xF0 → 0x90 ≤ b) ∧
    (a = 0xF4 → b ≤ 0x8F)

theorem secondRange_iff {a b : UInt8} :
    (b < (secondRange a).1 || (secondRange a).2 < b) = false ↔ SecondByte a.toNat b.toNat := by
  have hlead : ∀ k : UInt8, a = k ↔ a.toNat = k.toNat := fun k => UInt8.toNat_inj.symm
  simp only [secondRange, hlead, SecondByte, UInt8.reduceToNat]
  repeat' split
  all_goals
    simp only [UInt8.lt_iff_toNat_lt, Bool.or_eq_false_iff, decide_eq_false_iff_not, Nat.not_lt,
      UInt8.reduceToNat]
    omega

theorem secondRange_byte {a b : Nat} (ha : a < 256) (hb : b < 256) (h : SecondByte a b) :
    (UInt8.ofNat b < (secondRange (UInt8.ofNat a)).1 ||
      (secondRange (UInt8.ofNat a)).2 < UInt8.ofNat b) = false := by
  rw [secondRange_iff, toNat_byte ha, toNat_byte hb]
  exact h

/-! ## One character -/

theorem toNat_valid (c : Char) : c.toNat < 0xD800 ∨ 0xDFFF < c.toNat ∧ c.toNat < 0x110000 :=
  c.valid

theorem ofNat_toNat {c : Char} {n : Nat} (h : n = c.toNat) : Char.ofNat n = c := by
  rw [h, Char.ofNat_toNat]

theorem encodeChar_ascii {c : Char} (h : c.toNat < 0x80) :
    encodeChar c = [UInt8.ofNat c.toNat] := by
  rw [encodeChar]
  simp only [if_pos h]

/-- Beyond ASCII no byte of a character could be taken for a character by itself. -/
theorem le_of_mem_encodeChar {c : Char} (h : 0x80 ≤ c.toNat) {b : UInt8} (hb : b ∈ encodeChar c) :
    0x80 ≤ b.toNat := by
  have hv := toNat_valid c
  rw [encodeChar] at hb
  generalize c.toNat = n at h hv hb
  rw [if_neg (by omega)] at hb
  split at hb
  · simp only [List.mem_cons, List.not_mem_nil, or_false] at hb
    rcases hb with hb | hb <;> subst hb <;> rw [toNat_byte (by omega)] <;> omega
  · split at hb
    · simp only [List.mem_cons, List.not_mem_nil, or_false] at hb
      rcases hb with hb | hb | hb <;> subst hb <;> rw [toNat_byte (by omega)] <;> omega
    · simp only [List.mem_cons, List.not_mem_nil, or_false] at hb
      rcases hb with hb | hb | hb | hb <;> subst hb <;> rw [toNat_byte (by omega)] <;> omega

/-- **The bytes of a character read as that character.** -/
theorem next_encodeChar (c : Char) (rest : Bytes) :
    ∃ a tail, encodeChar c = a :: tail ∧ next a (tail ++ rest) = .ok (c, rest) := by
  have hv := toNat_valid c
  unfold encodeChar
  dsimp only
  generalize hn : c.toNat = n at hv
  split
  · -- one byte
    next h1 =>
    refine ⟨_, _, rfl, ?_⟩
    rw [next, following?_byte (by omega), if_pos h1]
    simp only [toNat_byte (show n < 256 by omega), ofNat_toNat hn.symm, List.nil_append]
  · split
    · -- two bytes
      next h1 h2 =>
      refine ⟨_, _, rfl, ?_⟩
      rw [next, following?_byte (by omega), if_neg (by omega), if_pos (by omega)]
      simp only [List.cons_append, List.nil_append]
      rw [if_neg, if_pos trivial, toNat_byte (by omega), payload_byte (by omega),
        ofNat_toNat (c := c) (by omega)]
      rw [secondRange_byte (by omega) (by omega) (by unfold SecondByte; omega)]
      simp
    · split
      · -- three bytes: surrogates are no characters, so the second byte is in its range
        next h1 h2 h3 =>
        refine ⟨_, _, rfl, ?_⟩
        rw [next, following?_byte (by omega), if_neg (by omega), if_neg (by omega),
          if_pos (by omega)]
        simp only [List.cons_append, List.nil_append]
        rw [if_neg, if_neg (by decide), isContinuation_byte (by omega), if_neg (by decide),
          if_pos trivial, toNat_byte (by omega), payload_byte (by omega), payload_byte (by omega),
          ofNat_toNat (c := c) (by omega)]
        rw [secondRange_byte (by omega) (by omega) (by unfold SecondByte; omega)]
        simp
      · -- four bytes
        next h1 h2 h3 =>
        refine ⟨_, _, rfl, ?_⟩
        rw [next, following?_byte (by omega), if_neg (by omega), if_neg (by omega),
          if_neg (by omega), if_pos (by omega)]
        simp only [List.cons_append, List.nil_append]
        rw [if_neg, if_neg (by decide), isContinuation_byte (by omega), if_neg (by decide),
          if_neg (by decide), isContinuation_byte (by omega), if_neg (by decide),
          toNat_byte (by omega), payload_byte (by omega), payload_byte (by omega),
          payload_byte (by omega), ofNat_toNat (c := c) (by omega)]
        rw [secondRange_byte (by omega) (by omega) (by unfold SecondByte; omega)]
        simp

/-! ## Texts -/

theorem encode_cons (c : Char) (cs : List Char) : encode (c :: cs) = encodeChar c ++ encode cs :=
  List.flatMap_cons

theorem encode_append (cs ds : List Char) : encode (cs ++ ds) = encode cs ++ encode ds :=
  List.flatMap_append

theorem decodeFrom_encode (cs done : List Char) (pos : Nat) :
    decodeFrom done pos (encode cs) = .ok (done.reverse ++ cs) := by
  induction cs generalizing done pos with
  | nil => simp [encode, decodeFrom]
  | cons c cs ih =>
    obtain ⟨a, tail, hc, hnext⟩ := next_encodeChar c (encode cs)
    rw [encode_cons, hc, List.cons_append, decodeFrom]
    split
    · next he => rw [hnext] at he; cases he
    · next c' rest' he =>
      rw [hnext] at he
      cases he
      rw [ih, List.reverse_cons, List.append_assoc, List.singleton_append]

/-- **The bytes of a text read as that text.** -/
theorem decode_encode (cs : List Char) : decode (encode cs) = .ok cs := by
  rw [decode, decodeFrom_encode, List.reverse_nil, List.nil_append]

theorem toString_encode (cs : List Char) : toString (encode cs) = .ok (String.ofList cs) := by
  rw [toString, decode_encode]
  rfl

theorem toString_ofString (s : String) : toString (ofString s) = .ok s := by
  rw [ofString, toString_encode, String.ofList_toList]

/-- Different strings have different bytes. -/
theorem ofString_injective {s t : String} (h : ofString s = ofString t) : s = t := by
  have hs := toString_ofString s
  rw [h, toString_ofString] at hs
  exact (Except.ok.inj hs).symm

theorem ofString_mem_map_iff {keys : List String} {key : String} :
    ofString key ∈ keys.map ofString ↔ key ∈ keys := by
  constructor
  · intro hkey
    obtain ⟨key', hkey', he⟩ := List.mem_map.mp hkey
    exact ofString_injective he ▸ hkey'
  · exact List.mem_map_of_mem

end LikedYou.Utf8
