import LikedYou.Json.Reader
import LikedYou.Proofs.Text.Utf8

/-!
# Integers in documents

* `readNumber_digitBytes` — the digits of a number read as that number
* `readIntIn_integerBytes` — an integer in the wanted range reads as that integer

A number ends where what follows cannot be part of it. Digits are written from the last to the first
and read from the first to the last, so both go by the number without its last digit.
-/

namespace LikedYou.Json

/-! ## Digits -/

/-- The byte of a digit. -/
def digitByte (d : Nat) : UInt8 := UInt8.ofNat (0x30 + d)

/-- The digits of a number, as bytes. -/
def digitBytes (n : Nat) : Bytes := Utf8.encode (Decimal.digits n)

theorem encodeChar_digitChar {d : Nat} (h : d < 10) :
    Utf8.encodeChar (Decimal.digitChar d) = [digitByte d] := by
  have hall : ∀ e ∈ List.range 10, Utf8.encodeChar (Decimal.digitChar e) = [digitByte e] := by
    decide
  exact hall d (List.mem_range.mpr h)

theorem isDigit_digitByte {d : Nat} (h : d < 10) : isDigit (digitByte d) = true := by
  have hall : ∀ e ∈ List.range 10, isDigit (digitByte e) = true := by decide
  exact hall d (List.mem_range.mpr h)

theorem toNat_digitByte {d : Nat} (h : d < 10) : (digitByte d).toNat = 0x30 + d := by
  rw [digitByte, UInt8.toNat_ofNat']
  omega

theorem digitBytes_of_lt {n : Nat} (h : n < 10) : digitBytes n = [digitByte n] := by
  rw [digitBytes, Decimal.digits, if_pos h, Utf8.encode, List.flatMap_cons, encodeChar_digitChar h]
  rfl

theorem digitBytes_of_le {n : Nat} (h : 10 ≤ n) :
    digitBytes n = digitBytes (n / 10) ++ [digitByte (n % 10)] := by
  rw [digitBytes, Decimal.digits, if_neg (by omega), Utf8.encode, List.flatMap_append,
    List.flatMap_cons, encodeChar_digitChar (by omega)]
  rfl

theorem isDigit_of_mem_digitBytes {n : Nat} {b : UInt8} (hb : b ∈ digitBytes n) :
    isDigit b = true := by
  induction n using Nat.strongRecOn with
  | _ n ih =>
    by_cases h : n < 10
    · rw [digitBytes_of_lt h, List.mem_singleton] at hb
      subst hb
      exact isDigit_digitByte h
    · rw [digitBytes_of_le (by omega), List.mem_append, List.mem_singleton] at hb
      rcases hb with hb | hb
      · exact ih (n / 10) (by omega) hb
      · subst hb
        exact isDigit_digitByte (by omega)

/-- The digits of a number that is not zero do not begin with a zero. -/
theorem digitBytes_eq_cons {n : Nat} (h : 0 < n) :
    ∃ d tail, digitBytes n = digitByte d :: tail ∧ 0 < d ∧ d < 10 := by
  induction n using Nat.strongRecOn with
  | _ n ih =>
    by_cases hn : n < 10
    · exact ⟨n, [], digitBytes_of_lt hn, h, hn⟩
    · obtain ⟨d, tail, hd, hpos, hlt⟩ := ih (n / 10) (by omega) (by omega)
      refine ⟨d, tail ++ [digitByte (n % 10)], ?_, hpos, hlt⟩
      rw [digitBytes_of_le (by omega), hd, List.cons_append]

/-! ## Reading digits -/

/-- Digits that stay below the bound are all read. -/
theorem absorb_digitBytes {n : Nat} (h : n < wordBound) (rest : Bytes) :
    absorb 0 (digitBytes n ++ rest) = absorb n rest := by
  induction n using Nat.strongRecOn generalizing rest with
  | _ n ih =>
    by_cases hn : n < 10
    · rw [digitBytes_of_lt hn, List.singleton_append, absorb, toNat_digitByte hn]
      simp only [show 10 * 0 + (0x30 + n - 0x30) = n by omega, if_pos h]
    · rw [digitBytes_of_le (by omega), List.append_assoc, ih (n / 10) (by omega) (by omega),
        List.singleton_append, absorb, toNat_digitByte (by omega)]
      simp only [show 10 * (n / 10) + (0x30 + n % 10 - 0x30) = n by omega, if_pos h]

/-- Whether a number ends before `rest`. -/
def EndsNumber (rest : Bytes) : Prop :=
  ∀ b, rest.head? = some b → isDigit b = false ∧ b ≠ 0x2E ∧ b ≠ 0x65 ∧ b ≠ 0x45

theorem finishNumber_int {negative : Bool} {n : Nat} {rest : Bytes} (hrest : EndsNumber rest)
    (h : negative = true → 0 < n ∧ n ≤ UInt64.size / 2) :
    finishNumber negative n 0 rest = .ok (.int (if negative then -(n : Int) else n), rest) := by
  unfold finishNumber
  split
  · exact absurd rfl (hrest _ rfl).2.1
  · exact absurd rfl (hrest _ rfl).2.2.1
  · exact absurd rfl (hrest _ rfl).2.2.2
  · cases negative with
    | false => rfl
    | true =>
      obtain ⟨hpos, hle⟩ := h rfl
      rw [if_neg (by decide), if_neg (by decide), if_neg]
      · rfl
      · simp only [Bool.or_eq_true, decide_eq_true_eq]
        omega

theorem takeWhile_digitBytes (n : Nat) {rest : Bytes} (hrest : EndsNumber rest) :
    (digitBytes n ++ rest).takeWhile isDigit = digitBytes n := by
  rw [List.takeWhile_append_of_pos (fun b hb => isDigit_of_mem_digitBytes hb)]
  cases rest with
  | nil => simp
  | cons b rest => rw [List.takeWhile_cons_of_neg (by simp [(hrest b rfl).1]), List.append_nil]

theorem dropWhile_digitBytes (n : Nat) {rest : Bytes} (hrest : EndsNumber rest) :
    (digitBytes n ++ rest).dropWhile isDigit = rest := by
  rw [List.dropWhile_append_of_pos (fun b hb => isDigit_of_mem_digitBytes hb)]
  cases rest with
  | nil => simp
  | cons b rest => rw [List.dropWhile_cons_of_neg (by simp [(hrest b rfl).1])]

/-- **The digits of a number read as that number.** -/
theorem readNumber_digitBytes (negative : Bool) {n : Nat} {rest : Bytes}
    (hrest : EndsNumber rest) (hn : n < wordBound) (h : negative = true → 0 < n ∧ n ≤ UInt64.size / 2) :
    readNumber negative (digitBytes n ++ rest) =
      .ok (.int (if negative then -(n : Int) else n), rest) := by
  rcases Nat.eq_zero_or_pos n with hz | hpos
  · -- no digit may follow a zero
    subst hz
    have hfin := finishNumber_int hrest h
    rw [digitBytes_of_lt (by decide), List.singleton_append]
    show readNumber negative (0x30 :: rest) = _
    rw [readNumber.eq_def]
    simp only [if_true]
    cases rest with
    | nil => exact hfin
    | cons b rest =>
      simp only [(hrest b rfl).1]
      exact hfin
  · obtain ⟨d, tail, hd, hdpos, hdlt⟩ := digitBytes_eq_cons hpos
    have htake := takeWhile_digitBytes n hrest
    have hdrop := dropWhile_digitBytes n hrest
    have habs := absorb_digitBytes hn []
    have hdig := isDigit_digitByte hdlt
    have hne : digitByte d ≠ 0x30 := by
      intro he
      have := congrArg UInt8.toNat he
      rw [toNat_digitByte hdlt] at this
      simp at this
      omega
    rw [hd, List.cons_append, List.takeWhile_cons_of_pos hdig] at htake
    rw [hd, List.cons_append, List.dropWhile_cons_of_pos hdig] at hdrop
    rw [List.append_nil, absorb, hd] at habs
    rw [hd, List.cons_append, readNumber.eq_def]
    simp only [if_neg hne, if_pos hdig, htake, hdrop, habs]
    exact finishNumber_int hrest h

/-! ## Integers -/

/-- An integer, as bytes. -/
def integerBytes (n : Int) : Bytes := Utf8.encode (Decimal.integer n)

theorem integerBytes_of_nonneg {n : Int} (h : 0 ≤ n) : integerBytes n = digitBytes n.natAbs := by
  rw [integerBytes, Decimal.integer, if_neg (by omega), digitBytes]

theorem integerBytes_of_neg {n : Int} (h : n < 0) :
    integerBytes n = 0x2D :: digitBytes n.natAbs := by
  rw [integerBytes, Decimal.integer, if_pos h, Utf8.encode_cons]
  rfl

theorem toNat_of_isDigit {b : UInt8} (h : isDigit b = true) : 0x30 ≤ b.toNat ∧ b.toNat ≤ 0x39 := by
  simpa [isDigit, UInt8.le_iff_toNat_le] using h

theorem isBlank_of_isDigit {b : UInt8} (h : isDigit b = true) : isBlank b = false := by
  have hb := toNat_of_isDigit h
  simp only [isBlank, Bool.or_eq_false_iff, decide_eq_false_iff_not, ← UInt8.toNat_inj]
  refine ⟨⟨⟨?_, ?_⟩, ?_⟩, ?_⟩
  all_goals
    intro he
    simp at he
    omega

theorem exists_head_digitBytes (n : Nat) :
    ∃ b tail, digitBytes n = b :: tail ∧ isDigit b = true := by
  rcases Nat.eq_zero_or_pos n with hz | hpos
  · subst hz
    exact ⟨_, _, digitBytes_of_lt (by decide), by decide⟩
  · obtain ⟨d, tail, hd, -, hlt⟩ := digitBytes_eq_cons hpos
    exact ⟨_, _, hd, isDigit_digitByte hlt⟩

/-- The first byte of an integer is a minus sign or a digit. -/
theorem exists_head_integerBytes (n : Int) :
    ∃ b tail, integerBytes n = b :: tail ∧ (b = 0x2D ∨ isDigit b = true) := by
  by_cases h : n < 0
  · exact ⟨_, _, integerBytes_of_neg h, Or.inl rfl⟩
  · obtain ⟨b, tail, hb, hdigit⟩ := exists_head_digitBytes n.natAbs
    exact ⟨b, tail, by rw [integerBytes_of_nonneg (by omega), hb], Or.inr hdigit⟩

/-- **An integer in the wanted range reads as that integer.** -/
theorem readIntIn_integerBytes (wanted : String) {low high n : Int} {b : UInt8} {tail rest : Bytes}
    (hb : integerBytes n = b :: tail) (hrest : EndsNumber rest) (hlow : low ≤ n) (hhigh : n ≤ high)
    (hmin : Int64.minValue.toInt ≤ n) (hmax : n < wordBound) :
    readIntIn wanted low high b (tail ++ rest) = .ok (n, rest) := by
  have hin : (decide (low ≤ n) && decide (n ≤ high)) = true := by simp [hlow, hhigh]
  have hword : wordBound = 18446744073709551616 := rfl
  have hhalf : UInt64.size / 2 = 9223372036854775808 := rfl
  have hleast : Int64.minValue.toInt = -9223372036854775808 := rfl
  have hbound : n.natAbs < wordBound := by omega
  by_cases h : n < 0
  · rw [integerBytes_of_neg h] at hb
    obtain ⟨hb, htail⟩ := List.cons.inj hb
    subst hb htail
    have hread := readNumber_digitBytes true hrest hbound (by omega)
    rw [readIntIn, readNumberOr, if_pos rfl, hread]
    simp only [if_true, show -(n.natAbs : Int) = n by omega, hin]
  · rw [integerBytes_of_nonneg (by omega)] at hb
    have hdigit : isDigit b = true := isDigit_of_mem_digitBytes (n := n.natAbs) (by simp [hb])
    have hsign : b ≠ 0x2D := by
      intro he
      rw [he] at hdigit
      exact absurd hdigit (by decide)
    have hread := readNumber_digitBytes false hrest hbound (by simp)
    rw [readIntIn, readNumberOr, if_neg hsign, if_pos hdigit, ← List.cons_append, ← hb, hread]
    simp only [Bool.false_eq_true, if_false, show (n.natAbs : Int) = n by omega, hin, if_true]

end LikedYou.Json
