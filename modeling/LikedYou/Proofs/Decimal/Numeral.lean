import LikedYou.Decimal.Numeral

/-!
# Digits and the numbers they tell

* `accumulate_padded` — padded digits tell the number that was written
* `length_padded` — they are as many as was asked for, if the number is not too long
* `forall_isDigit` — what holds of the ten digits holds of every digit
-/

namespace LikedYou.Decimal

/-! ## Digits -/

/-- Whether a character is a digit. -/
def IsDigit (c : Char) : Prop := (digit? c).isSome = true

theorem exists_digitChar_of_isDigit {c : Char} (h : IsDigit c) : ∃ d < 10, digitChar d = c := by
  rw [IsDigit, digit?] at h
  split at h
  · next hrange =>
    have hrange : '0' ≤ c ∧ c ≤ '9' := by simpa using hrange
    have hlow : 0x30 ≤ c.toNat := hrange.1
    have hhigh : c.toNat ≤ 0x39 := hrange.2
    refine ⟨c.toNat - 0x30, by omega, ?_⟩
    rw [digitChar, Nat.add_sub_cancel' hlow, Char.ofNat_toNat]
  · cases h

/-- What holds of the ten digits holds of every digit. -/
theorem forall_isDigit {p : Char → Prop} (h : ∀ d ∈ List.range 10, p (digitChar d)) {c : Char}
    (hc : IsDigit c) : p c := by
  obtain ⟨d, hd, rfl⟩ := exists_digitChar_of_isDigit hc
  exact h d (List.mem_range.mpr hd)

theorem isDigit_digitChar {d : Nat} (h : d < 10) : IsDigit (digitChar d) := by
  rw [IsDigit, digit?_digitChar h]
  rfl

theorem isDigit_of_mem_digits {n : Nat} {c : Char} (hc : c ∈ digits n) : IsDigit c := by
  induction n using Nat.strongRecOn with
  | _ n ih =>
    rw [digits] at hc
    split at hc
    · next hn =>
      rw [List.mem_singleton.mp hc]
      exact isDigit_digitChar hn
    · next hn =>
      rcases List.mem_append.mp hc with hc | hc
      · exact ih (n / 10) (by omega) hc
      · rw [List.mem_singleton.mp hc]
        exact isDigit_digitChar (by omega)

theorem isDigit_of_mem_padded {width n : Nat} {c : Char} (hc : c ∈ padded width n) : IsDigit c := by
  rcases List.mem_append.mp hc with hc | hc
  · rw [List.eq_of_mem_replicate hc]
    rfl
  · exact isDigit_of_mem_digits hc

theorem digits_ne_nil (n : Nat) : digits n ≠ [] := by
  rw [digits]
  split
  · exact List.cons_ne_nil _ _
  · exact List.append_ne_nil_of_right_ne_nil _ (List.cons_ne_nil _ _)

/-- A number begins with a digit. -/
theorem exists_head_padded (width n : Nat) :
    ∃ c tail, padded width n = c :: tail ∧ IsDigit c := by
  cases h : padded width n with
  | nil => exact absurd (List.append_eq_nil_iff.mp h).2 (digits_ne_nil n)
  | cons c tail => exact ⟨c, tail, rfl, isDigit_of_mem_padded (h ▸ List.mem_cons_self)⟩

theorem length_digits_le {width n : Nat} (hwidth : 0 < width) (h : n < Nat.pow 10 width) :
    (digits n).length ≤ width := by
  induction width generalizing n with
  | zero => cases hwidth
  | succ width ih =>
    have hpow : Nat.pow 10 (width + 1) = Nat.pow 10 width * 10 := rfl
    rw [digits]
    split
    · exact hwidth
    · have hpos : 0 < width := Nat.pos_of_ne_zero fun hzero => by
        subst hzero
        have hone : Nat.pow 10 0 = 1 := rfl
        omega
      rw [List.length_append]
      exact Nat.succ_le_succ (ih hpos (by omega))

theorem length_padded {width n : Nat} (hwidth : 0 < width) (h : n < Nat.pow 10 width) :
    (padded width n).length = width := by
  rw [padded, List.length_append, List.length_replicate]
  exact Nat.sub_add_cancel (length_digits_le hwidth h)

/-! ## What digits tell -/

theorem accumulate_append (n : Nat) (cs ds : List Char) :
    accumulate n (cs ++ ds) = (accumulate n cs).bind fun m => accumulate m ds := by
  induction cs generalizing n with
  | nil => rfl
  | cons c cs ih =>
    rw [List.cons_append, accumulate, accumulate]
    cases digit? c with
    | none => rfl
    | some d => exact ih _

theorem accumulate_digits (n : Nat) : accumulate 0 (digits n) = some n := by
  induction n using Nat.strongRecOn with
  | _ n ih =>
    rw [digits]
    split
    · next hn => simp [accumulate, digit?_digitChar hn]
    · next hn =>
      rw [accumulate_append, ih (n / 10) (by omega)]
      simp only [Option.bind_some, accumulate, digit?_digitChar (show n % 10 < 10 by omega)]
      exact congrArg some (Nat.div_add_mod n 10)

/-- A setting of digits is the number that they write, if it is not too large. -/
theorem ofSetting?_digits {limit n : Nat} (h : n ≤ limit) :
    ofSetting? limit (String.ofList (digits n)) = some n := by
  have hne : (digits n).isEmpty = false := by simpa using digits_ne_nil n
  have hnumber : ofDigits? (digits n) = some n := by rw [ofDigits?, hne, accumulate_digits]; rfl
  unfold ofSetting?
  rw [String.toList_ofList]
  split
  · -- a plus sign is no digit
    next cs hplus =>
    have hdigit : IsDigit '+' := isDigit_of_mem_digits (n := n) (hplus ▸ List.mem_cons_self)
    cases hdigit
  · simp only [hnumber]
    exact Option.filter_some_pos (by simpa using h)

theorem accumulate_padded (width n : Nat) : accumulate 0 (padded width n) = some n := by
  have hzeros : ∀ k, accumulate 0 (List.replicate k '0') = some 0 := by
    intro k
    induction k with
    | zero => rfl
    | succ k ih => exact ih
  rw [padded, accumulate_append, hzeros]
  exact accumulate_digits n

theorem le_of_accumulate {m n : Nat} {cs : List Char} (h : accumulate m cs = some n) : m ≤ n := by
  induction cs generalizing m with
  | nil =>
    cases h
    exact Nat.le_refl _
  | cons c cs ih =>
    rw [accumulate] at h
    cases hc : digit? c with
    | none => simp [hc] at h
    | some d =>
      simp only [hc] at h
      have := ih h
      omega

end LikedYou.Decimal
