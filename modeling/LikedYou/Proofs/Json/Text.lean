import LikedYou.Json.Scan
import LikedYou.Json.Write
import LikedYou.Proofs.Text.Utf8

/-!
# Texts in documents

`readText_textTail` — a text reads as that text, whatever characters it has.

A character is written in one of three ways: by an escape of one letter, by an escape with its
number, or as its bytes. `readTextFrom_writeChar` joins the three, and the rest is an induction over
the characters.
-/

namespace LikedYou.Json

/-! ## Bytes that stand for themselves -/

/-- Whether a byte stands for itself in a text. -/
def IsPlain (b : UInt8) : Prop := b ≠ 0x22 ∧ b ≠ 0x5C ∧ 0x20 ≤ b.toNat

theorem readTextFrom_plain {bs : Bytes} (h : ∀ b ∈ bs, IsPlain b) (done rest : Bytes) :
    readTextFrom done (bs ++ rest) = readTextFrom (bs.reverse ++ done) rest := by
  induction bs generalizing done with
  | nil => rfl
  | cons b bs ih =>
    obtain ⟨hmark, hback, hctl⟩ := h b List.mem_cons_self
    have hnot : ¬ b < 0x20 := by
      rw [UInt8.lt_iff_toNat_lt]
      exact Nat.not_lt.mpr hctl
    rw [List.cons_append, readTextFrom, if_neg hmark, if_neg hback, if_neg hnot,
      ih (fun x hx => h x (List.mem_cons_of_mem b hx)), List.reverse_cons, List.append_assoc,
      List.singleton_append]

/-! ## Escapes -/

/-- The part of a text that an escape writes. -/
theorem readTextFrom_escape {c : Char} (bs : Bytes) {rest : Bytes}
    (h : readEscape (bs ++ rest) = .ok (c, rest)) (done : Bytes) :
    readTextFrom done (0x5C :: (bs ++ rest)) =
      readTextFrom ((Utf8.encodeChar c).reverse ++ done) rest := by
  rw [readTextFrom, if_neg (by decide), if_pos rfl]
  split
  · next he => rw [h] at he; cases he
  · next c' rest' he =>
    rw [h] at he
    cases he
    rfl

theorem readEscape_short {b : UInt8} {c : Char} (hu : b ≠ 0x75) (h : shortEscape? b = some c)
    (rest : Bytes) : readEscape (b :: rest) = .ok (c, rest) := by
  rw [readEscape, if_neg hu, h]

/-- The escape of a character below 32. -/
def controlEscape (n : Nat) : Bytes :=
  [0x75, 0x30, 0x30, UInt8.ofNat (Nat.digitChar (n / 16)).toNat,
    UInt8.ofNat (Nat.digitChar (n % 16)).toNat]

theorem hexValue?_digitChar {d : Nat} (h : d < 16) :
    hexValue? (UInt8.ofNat (Nat.digitChar d).toNat) = some d := by
  have hall : ∀ e ∈ List.range 16, hexValue? (UInt8.ofNat (Nat.digitChar e).toNat) = some e := by
    decide
  exact hall d (List.mem_range.mpr h)

theorem readEscape_control {n : Nat} (h : n < 0x20) (rest : Bytes) :
    readEscape (controlEscape n ++ rest) = .ok (Char.ofNat n, rest) := by
  have hz : hexValue? 0x30 = some 0 := by decide
  have hlow : isLowSurrogate n = false := by
    simp only [isLowSurrogate, Bool.and_eq_false_iff, decide_eq_false_iff_not]
    omega
  have hhigh : isHighSurrogate n = false := by
    simp only [isHighSurrogate, Bool.and_eq_false_iff, decide_eq_false_iff_not]
    omega
  simp only [controlEscape, List.cons_append, List.nil_append]
  rw [readEscape, if_pos rfl, readUnicode, readHex]
  simp only [hz, hexValue?_digitChar (show n / 16 < 16 by omega),
    hexValue?_digitChar (show n % 16 < 16 by omega),
    show ((0 * 16 + 0) * 16 + n / 16) * 16 + n % 16 = n by omega, hlow, hhigh]
  rfl

/-- The characters that have an escape of one letter, and that letter. -/
def shortEscapes : List (Char × UInt8) :=
  [('"', 0x22), ('\\', 0x5C), ('\x08', 0x62), ('\t', 0x74), ('\n', 0x6E), ('\x0c', 0x66),
    ('\r', 0x72)]

theorem readTextFrom_short {c : Char} {b : UInt8} (h : (c, b) ∈ shortEscapes) (done rest : Bytes) :
    readTextFrom done (Utf8.encode (writeChar c) ++ rest) =
      readTextFrom ((Utf8.encodeChar c).reverse ++ done) rest := by
  have hall : ∀ e ∈ shortEscapes, Utf8.encode (writeChar e.1) = [0x5C, e.2] ∧ e.2 ≠ 0x75 ∧
      shortEscape? e.2 = some e.1 := by decide
  obtain ⟨hbytes, hu, hshort⟩ := hall (c, b) h
  rw [hbytes]
  exact readTextFrom_escape [b] (readEscape_short hu hshort rest) done

/-- A character that has no escape of one letter is written by its number or as itself. -/
theorem writeChar_of_not_short {c : Char} (h : ∀ e ∈ shortEscapes, c ≠ e.1) :
    writeChar c =
      if c.toNat < 0x20 then
        ['\\', 'u', '0', '0', Nat.digitChar (c.toNat / 16), Nat.digitChar (c.toNat % 16)]
      else [c] := by
  simp only [shortEscapes, List.mem_cons, List.not_mem_nil, or_false, forall_eq_or_imp,
    forall_eq] at h
  obtain ⟨h1, h2, h3, h4, h5, h6, h7⟩ := h
  rw [writeChar, if_neg h1, if_neg h2, if_neg h3, if_neg h4, if_neg h5, if_neg h6, if_neg h7]

theorem encode_controlEscape {n : Nat} (h : n < 0x20) :
    Utf8.encode ['\\', 'u', '0', '0', Nat.digitChar (n / 16), Nat.digitChar (n % 16)] =
      0x5C :: controlEscape n := by
  have hall : ∀ m ∈ List.range 0x20,
      Utf8.encode ['\\', 'u', '0', '0', Nat.digitChar (m / 16), Nat.digitChar (m % 16)] =
        0x5C :: controlEscape m := by decide
  exact hall n (List.mem_range.mpr h)

theorem isPlain_of_mem_encodeChar {c : Char} (h : ∀ e ∈ shortEscapes, c ≠ e.1)
    (hc : ¬ c.toNat < 0x20) {b : UInt8} (hb : b ∈ Utf8.encodeChar c) : IsPlain b := by
  by_cases ha : c.toNat < 0x80
  · rw [Utf8.encodeChar_ascii ha, List.mem_singleton] at hb
    have hn : b.toNat = c.toNat := by rw [hb, Utf8.toNat_byte (by omega)]
    refine ⟨fun he => h ('"', 0x22) (by decide) ?_, fun he => h ('\\', 0x5C) (by decide) ?_,
      by omega⟩
    · rw [← Char.ofNat_toNat c, ← hn, he]
      rfl
    · rw [← Char.ofNat_toNat c, ← hn, he]
      rfl
  · -- all bytes of the other characters are too large to be a mark or a control byte
    have hge := Utf8.le_of_mem_encodeChar (by omega) hb
    refine ⟨fun he => ?_, fun he => ?_, by omega⟩
    · rw [he] at hge; exact absurd hge (by decide)
    · rw [he] at hge; exact absurd hge (by decide)

/-! ## Texts -/

/-- One character of a text reads as that character. -/
theorem readTextFrom_writeChar (c : Char) (done rest : Bytes) :
    readTextFrom done (Utf8.encode (writeChar c) ++ rest) =
      readTextFrom ((Utf8.encodeChar c).reverse ++ done) rest := by
  by_cases hshort : ∃ e ∈ shortEscapes, c = e.1
  · obtain ⟨⟨c', b⟩, he, rfl⟩ := hshort
    exact readTextFrom_short he done rest
  · have hnot : ∀ e ∈ shortEscapes, c ≠ e.1 := fun e he hc => hshort ⟨e, he, hc⟩
    rw [writeChar_of_not_short hnot]
    split
    · next hlt =>
      rw [encode_controlEscape hlt]
      have hread := readEscape_control hlt rest
      rw [Char.ofNat_toNat] at hread
      exact readTextFrom_escape _ hread done
    · next hge =>
      rw [Utf8.encode_cons, show Utf8.encode [] = [] from rfl, List.append_nil]
      exact readTextFrom_plain (fun b hb => isPlain_of_mem_encodeChar hnot hge hb) done rest

theorem readTextFrom_writeChars (cs : List Char) (done rest : Bytes) :
    readTextFrom done (Utf8.encode (cs.flatMap writeChar) ++ 0x22 :: rest) =
      .ok (done.reverse ++ Utf8.encode cs, rest) := by
  induction cs generalizing done with
  | nil =>
    show readTextFrom done (0x22 :: rest) = _
    rw [readTextFrom, if_pos rfl]
    simp [Utf8.encode]
  | cons c cs ih =>
    rw [List.flatMap_cons, Utf8.encode_append, List.append_assoc, readTextFrom_writeChar, ih,
      Utf8.encode_cons]
    simp

/-- The bytes of a text after its opening mark. -/
def textTail (s : String) : Bytes := Utf8.encode (s.toList.flatMap writeChar) ++ [0x22]

theorem encode_writeText (s : String) : Utf8.encode (writeText s) = 0x22 :: textTail s := by
  rw [writeText, Utf8.encode_append, Utf8.encode_cons, textTail]
  rfl

/-- **A text reads as that text.** -/
theorem readText_textTail (s : String) (rest : Bytes) :
    readText (textTail s ++ rest) = .ok (s, rest) := by
  rw [readText, textTail, List.append_assoc, List.singleton_append, readTextFrom_writeChars]
  simp only [List.reverse_nil, List.nil_append, Utf8.toString_encode, String.ofList_toList]

end LikedYou.Json
