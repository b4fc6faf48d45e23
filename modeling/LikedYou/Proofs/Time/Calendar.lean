import LikedYou.Time.Calendar

/-!
# Days and their dates

* `Date.ofDay_toDay` and `Date.toDay_ofDay` — the days and the dates of the calendar are one to one
* `Date.ofDay_add_one` — the day after a day has the next date of the calendar
* `yearOfDay_eq_iff` — a day lies in the year that begins last before it

Both directions go through the place of a day in its year: a list of months says the same as a number
of days before a month and a day in it.
-/

namespace LikedYou.Time

/-! ## Years -/

/-- How many days a year has. -/
def yearLength (year : Int) : Nat := if isLeapYear year then 366 else 365

theorem daysBeforeYear_add_one (year : Int) :
    daysBeforeYear (year + 1) = daysBeforeYear year + yearLength year := by
  have hleap : isLeapYear year = true ↔ year % 4 = 0 ∧ (year % 100 ≠ 0 ∨ year % 400 = 0) := by
    simp [isLeapYear]
  simp only [daysBeforeYear, yearLength]
  split
  · next h =>
    have := hleap.mp h
    omega
  · next h =>
    have := mt hleap.mpr h
    omega

theorem daysBeforeYear_mono {a b : Int} (h : a ≤ b) : daysBeforeYear a ≤ daysBeforeYear b := by
  simp only [daysBeforeYear]
  omega

/-- The guess is off by at most one year. -/
theorem yearOfDay_spec (n : Int) :
    daysBeforeYear (yearOfDay n) ≤ n ∧ n < daysBeforeYear (yearOfDay n + 1) := by
  simp only [yearOfDay]
  split
  · next h =>
    rw [Int.sub_add_cancel]
    refine ⟨?_, h⟩
    simp only [daysBeforeYear] at h ⊢
    omega
  · next h =>
    split
    · next h' =>
      refine ⟨h', ?_⟩
      simp only [daysBeforeYear] at h h' ⊢
      omega
    · next h' => exact ⟨Int.not_lt.mp h, Int.not_le.mp h'⟩

theorem le_yearOfDay_iff {n year : Int} : year ≤ yearOfDay n ↔ daysBeforeYear year ≤ n := by
  obtain ⟨hle, hlt⟩ := yearOfDay_spec n
  constructor
  · intro h
    exact Int.le_trans (daysBeforeYear_mono h) hle
  · intro h
    refine Int.not_lt.mp fun hyear => ?_
    have := daysBeforeYear_mono (show yearOfDay n + 1 ≤ year by omega)
    omega

/-- **A day lies in the year that begins last before it.** -/
theorem yearOfDay_eq_iff {n year : Int} :
    yearOfDay n = year ↔ daysBeforeYear year ≤ n ∧ n < daysBeforeYear (year + 1) := by
  rw [← le_yearOfDay_iff, ← Int.not_le, ← le_yearOfDay_iff]
  omega

/-! ## Months -/

/-- The days of some months together. -/
def total (lengths : List Nat) : Nat := lengths.foldl (· + ·) 0

theorem total_cons (length : Nat) (lengths : List Nat) :
    total (length :: lengths) = length + total lengths := by
  rw [total, List.foldl_cons, Nat.add_comm 0, List.foldl_assoc, total]

/-- A day lies in the `i`-th month, as its day `k`, both counted from 0. -/
structure InMonth (lengths : List Nat) (n i k : Nat) : Prop where
  length : ∃ length, lengths[i]? = some length ∧ k < length
  passed : n = total (lengths.take i) + k

theorem exists_inMonth {lengths : List Nat} {n : Nat} (h : n < total lengths) :
    ∃ i k, InMonth lengths n i k := by
  induction lengths generalizing n with
  | nil => cases h
  | cons length lengths ih =>
    rw [total_cons] at h
    by_cases hn : n < length
    · exact ⟨0, n, ⟨length, rfl, hn⟩, by simp [total]⟩
    · obtain ⟨i, k, hlength, hpassed⟩ := ih (n := n - length) (by omega)
      refine ⟨i + 1, k, hlength, ?_⟩
      rw [List.take_succ_cons, total_cons]
      omega

theorem InMonth.not_nil {n i k : Nat} (h : InMonth [] n i k) : False := by
  obtain ⟨_, hlength, -⟩ := h.length
  cases hlength

/-- A day lies in the first month, or that month has passed. -/
theorem InMonth.cons_cases {length : Nat} {lengths : List Nat} {n i k : Nat}
    (h : InMonth (length :: lengths) n i k) :
    (i = 0 ∧ n = k ∧ n < length) ∨
    ∃ j, i = j + 1 ∧ length ≤ n ∧ InMonth lengths (n - length) j k := by
  obtain ⟨⟨l, hlength, hk⟩, hpassed⟩ := h
  cases i with
  | zero =>
    cases hlength
    have hn : n = k := by simpa [total] using hpassed
    exact Or.inl ⟨rfl, hn, hn ▸ hk⟩
  | succ j =>
    rw [List.take_succ_cons, total_cons] at hpassed
    exact Or.inr ⟨j, rfl, by omega, ⟨l, hlength, hk⟩, by omega⟩

theorem InMonth.monthOfDay_eq {lengths : List Nat} {n i k : Nat} (h : InMonth lengths n i k)
    (month : Nat) : monthOfDay month n lengths = (month + i, k + 1) := by
  induction lengths generalizing n i month with
  | nil => exact h.not_nil.elim
  | cons length lengths ih =>
    rw [monthOfDay]
    rcases h.cons_cases with ⟨rfl, rfl, hlt⟩ | ⟨j, rfl, hle, hrest⟩
    · rw [if_pos hlt]
      rfl
    · rw [if_neg (Nat.not_lt.mpr hle), ih hrest, Nat.add_assoc, Nat.add_comm 1]

theorem InMonth.lt_total {lengths : List Nat} {n i k : Nat} (h : InMonth lengths n i k) :
    n < total lengths := by
  induction lengths generalizing n i with
  | nil => exact h.not_nil.elim
  | cons length lengths ih =>
    rw [total_cons]
    rcases h.cons_cases with ⟨-, -, hlt⟩ | ⟨j, -, -, hrest⟩
    · omega
    · have := ih hrest
      omega

theorem total_monthLengths (year : Int) : total (monthLengths year) = yearLength year := by
  rw [monthLengths, yearLength]
  split <;> rfl

theorem total_take_add_one {lengths : List Nat} {i length : Nat} (h : lengths[i]? = some length) :
    total (lengths.take (i + 1)) = total (lengths.take i) + length := by
  rw [total, List.take_add_one, h, List.foldl_append]
  rfl

theorem monthLengths_bounds {year : Int} {i length : Nat}
    (h : (monthLengths year)[i]? = some length) : i < 12 ∧ 0 < length ∧ length ≤ 31 := by
  obtain ⟨hi, -⟩ := List.getElem?_eq_some_iff.mp h
  have hmem := List.mem_of_getElem? h
  have hall : ∀ l ∈ [31, 28, 29, 30], 0 < l ∧ l ≤ 31 := by decide
  refine ⟨hi, hall length ?_⟩
  rw [monthLengths] at hmem
  split at hmem
  · exact (show ∀ l ∈ [31, 29, 31, 30, 31, 30, 31, 31, 30, 31, 30, 31], l ∈ [31, 28, 29, 30] by
      decide) length hmem
  · exact (show ∀ l ∈ [31, 28, 31, 30, 31, 30, 31, 31, 30, 31, 30, 31], l ∈ [31, 28, 29, 30] by
      decide) length hmem

/-! ## Dates -/

namespace Date

variable {d : Date}

theorem isValid_iff :
    d.isValid = true ↔ 1 ≤ d.month ∧ 1 ≤ d.day ∧
      ∃ length, (monthLengths d.year)[d.month - 1]? = some length ∧ d.day ≤ length := by
  rw [isValid, Bool.and_eq_true, Bool.and_eq_true, decide_eq_true_eq, decide_eq_true_eq, and_assoc]
  refine and_congr_right fun _ => and_congr_right fun _ => ?_
  cases (monthLengths d.year)[d.month - 1]? with
  | none => simp
  | some length => simp

theorem bounds_of_isValid (h : d.isValid = true) :
    1 ≤ d.month ∧ d.month ≤ 12 ∧ 1 ≤ d.day ∧ d.day ≤ 31 := by
  obtain ⟨hmonth, hday, length, hlength, hle⟩ := isValid_iff.mp h
  obtain ⟨hlt, -, hmost⟩ := monthLengths_bounds hlength
  omega

theorem toDay_eq (d : Date) :
    d.toDay = daysBeforeYear d.year + total ((monthLengths d.year).take (d.month - 1)) + d.day - 1 -
      epochDay := rfl

/-- The place of a date in its year. -/
theorem exists_inMonth_of_isValid (h : d.isValid = true) :
    ∃ n, InMonth (monthLengths d.year) n (d.month - 1) (d.day - 1) ∧
      d.toDay = daysBeforeYear d.year + n - epochDay := by
  obtain ⟨-, hday, length, hlength, hle⟩ := isValid_iff.mp h
  refine ⟨_, ⟨⟨length, hlength, by omega⟩, rfl⟩, ?_⟩
  rw [toDay_eq]
  omega

/-- The date at a place in a year. -/
theorem isValid_of_inMonth {year : Int} {n i k : Nat} (h : InMonth (monthLengths year) n i k) :
    (⟨year, i + 1, k + 1⟩ : Date).isValid = true ∧
      (⟨year, i + 1, k + 1⟩ : Date).toDay = daysBeforeYear year + n - epochDay := by
  obtain ⟨⟨length, hlength, hk⟩, hpassed⟩ := h
  refine ⟨isValid_iff.mpr ⟨Nat.le_add_left 1 i, Nat.le_add_left 1 k, length, hlength, hk⟩, ?_⟩
  rw [toDay_eq]
  simp only [Nat.add_sub_cancel]
  omega

theorem ofDay_eq {day year : Int} {n i k : Nat} (h : InMonth (monthLengths year) n i k)
    (hday : day = daysBeforeYear year + n - epochDay) : ofDay day = ⟨year, i + 1, k + 1⟩ := by
  have hlt := h.lt_total
  rw [total_monthLengths] at hlt
  have hadd := daysBeforeYear_add_one year
  have hyear : yearOfDay (day + epochDay) = year := yearOfDay_eq_iff.mpr ⟨by omega, by omega⟩
  have hn : (day + epochDay - daysBeforeYear year).toNat = n := by omega
  simp only [ofDay, hyear, hn, h.monthOfDay_eq, Nat.add_comm 1 i]

/-- The place of a day in its year. -/
theorem exists_inMonth_yearOfDay (day : Int) :
    ∃ n i k, InMonth (monthLengths (yearOfDay (day + epochDay))) n i k ∧
      day = daysBeforeYear (yearOfDay (day + epochDay)) + n - epochDay := by
  obtain ⟨hle, hlt⟩ := yearOfDay_spec (day + epochDay)
  rw [daysBeforeYear_add_one, ← total_monthLengths] at hlt
  obtain ⟨n, hn⟩ := Int.eq_ofNat_of_zero_le (Int.sub_nonneg_of_le hle)
  have hn' : n < total (monthLengths (yearOfDay (day + epochDay))) := by omega
  obtain ⟨i, k, hin⟩ := exists_inMonth hn'
  exact ⟨n, i, k, hin, by omega⟩

@[simp]
theorem isValid_ofDay (day : Int) : (ofDay day).isValid = true := by
  obtain ⟨n, i, k, hin, hday⟩ := exists_inMonth_yearOfDay day
  rw [ofDay_eq hin hday]
  exact (isValid_of_inMonth hin).1

/-- **The date of a day tells the day.** -/
@[simp]
theorem toDay_ofDay (day : Int) : (ofDay day).toDay = day := by
  obtain ⟨n, i, k, hin, hday⟩ := exists_inMonth_yearOfDay day
  rw [ofDay_eq hin hday, (isValid_of_inMonth hin).2]
  exact hday.symm

/-- **A day has no other date.** -/
theorem ofDay_toDay (h : d.isValid = true) : ofDay d.toDay = d := by
  obtain ⟨n, hin, hday⟩ := exists_inMonth_of_isValid h
  obtain ⟨hmonth, hfirst, -⟩ := isValid_iff.mp h
  rw [ofDay_eq hin hday, Nat.sub_add_cancel hmonth, Nat.sub_add_cancel hfirst]

theorem year_ofDay (day : Int) : (ofDay day).year = yearOfDay (day + epochDay) := by
  obtain ⟨n, i, k, hin, hday⟩ := exists_inMonth_yearOfDay day
  rw [ofDay_eq hin hday]

/-! ## The next date -/

/-- The next date of the calendar: the next day of the month if there is one, else the first day of
the next month of the year if there is one, else the first day of the next year. -/
def next (d : Date) : Date :=
  if (⟨d.year, d.month, d.day + 1⟩ : Date).isValid then ⟨d.year, d.month, d.day + 1⟩
  else if (⟨d.year, d.month + 1, 1⟩ : Date).isValid then ⟨d.year, d.month + 1, 1⟩
  else ⟨d.year + 1, 1, 1⟩

theorem next_spec (h : d.isValid = true) :
    d.next.isValid = true ∧ d.next.toDay = d.toDay + 1 := by
  obtain ⟨hmonth, hday, length, hlength, hle⟩ := isValid_iff.mp h
  obtain ⟨i, hi⟩ : ∃ i, d.month = i + 1 := ⟨d.month - 1, by omega⟩
  rw [hi, Nat.add_sub_cancel] at hlength
  rw [toDay_eq d, hi, Nat.add_sub_cancel, next]
  split
  · next hvalid =>
    refine ⟨hvalid, ?_⟩
    rw [toDay_eq, hi, Nat.add_sub_cancel]
    simp only
    omega
  · next hlast =>
    -- the month ends
    have hend : d.day = length := by
      refine Nat.le_antisymm hle (Nat.not_lt.mp fun hlt => hlast (isValid_iff.mpr ?_))
      exact ⟨hmonth, Nat.le_add_left 1 d.day, length, by rwa [hi, Nat.add_sub_cancel], hlt⟩
    have htake := total_take_add_one hlength
    split
    · next hvalid =>
      refine ⟨hvalid, ?_⟩
      rw [toDay_eq]
      simp only [hi, Nat.add_sub_cancel]
      omega
    · next hover =>
      -- and the year with it
      have hnone : (monthLengths d.year)[i + 1]? = none := by
        cases hnext : (monthLengths d.year)[i + 1]? with
        | none => rfl
        | some l =>
          refine absurd (isValid_iff.mpr ⟨Nat.le_add_left 1 _, Nat.le_refl 1, l, ?_, ?_⟩) hover
          · simpa only [hi, Nat.add_sub_cancel] using hnext
          · exact (monthLengths_bounds hnext).2.1
      rw [List.take_of_length_le (List.getElem?_eq_none_iff.mp hnone), total_monthLengths] at htake
      refine ⟨isValid_iff.mpr ⟨Nat.le_refl 1, Nat.le_refl 1, 31, rfl, Nat.le_add_left 1 30⟩, ?_⟩
      rw [toDay_eq]
      simp only [daysBeforeYear_add_one, Nat.sub_self, List.take_zero]
      have hzero : total [] = 0 := rfl
      omega

/-- **The day after a day has the next date.** -/
theorem ofDay_add_one (day : Int) : ofDay (day + 1) = (ofDay day).next := by
  obtain ⟨hvalid, hday⟩ := next_spec (isValid_ofDay day)
  rw [toDay_ofDay] at hday
  rw [← hday, ofDay_toDay hvalid]

theorem ofDay_zero : ofDay 0 = ⟨1970, 1, 1⟩ := by decide

end Date

end LikedYou.Time
