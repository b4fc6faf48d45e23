import LikedYou.Time.Rfc3339
import LikedYou.Proofs.Decimal.Numeral
import LikedYou.Proofs.Time.Calendar

/-!
# Timestamps read back

* `Rfc3339.Shows` — the text with the date and the time of day, and the fewest digits of a second
* `Rfc3339.shows_write` — a timestamp is written as such a text
* `Rfc3339.read_write` — and read back as itself
* `Rfc3339.isDigit_or_mem_marks` — the text has digits and a few marks only

Every number in the text is followed by a mark, so a reader of numbers stops where the writer did.
-/

namespace LikedYou.Time.Rfc3339

open Decimal Text

/-! ## Numbers -/

/-- Whether a number ends before `rest`. -/
def EndsDigits (rest : List Char) : Prop := ∀ c, rest.head? = some c → digit? c = none

theorem endsDigits_cons {c : Char} (h : digit? c = none) (rest : List Char) :
    EndsDigits (c :: rest) := by
  rintro _ ⟨⟩
  exact h

theorem moreDigits_of_endsDigits {rest : List Char} (h : EndsDigits rest) (n width : Nat) :
    moreDigits n width rest = .ok (n, rest) := by
  cases width with
  | zero => rw [moreDigits]
  | succ width =>
    cases rest with
    | nil => rw [moreDigits]
    | cons c rest =>
      rw [moreDigits]
      simp only [h c rfl]

theorem moreDigits_append {m n width : Nat} {cs rest : List Char} (h : accumulate m cs = some n)
    (hn : n < numberBound) (hwidth : cs.length ≤ width) (hrest : EndsDigits rest) :
    moreDigits m width (cs ++ rest) = .ok (n, rest) := by
  induction cs generalizing m width with
  | nil =>
    cases h
    exact moreDigits_of_endsDigits hrest _ _
  | cons c cs ih =>
    obtain ⟨width, rfl⟩ : ∃ w, width = w + 1 := ⟨width - 1, by simp at hwidth; omega⟩
    rw [accumulate] at h
    rw [List.cons_append, moreDigits]
    cases hc : digit? c with
    | none => simp [hc] at h
    | some d =>
      simp only [hc] at h ⊢
      have hle := le_of_accumulate h
      rw [if_pos (by omega)]
      exact ih h (Nat.le_of_succ_le_succ hwidth)

section

variable {k n width : Nat} {rest : List Char}

theorem number_padded (hn : n < numberBound) (hwidth : (padded k n).length ≤ width)
    (hrest : EndsDigits rest) : number width (padded k n ++ rest) = .ok (n, rest) := by
  have hmore := moreDigits_append (accumulate_padded k n) hn hwidth hrest
  obtain ⟨c, tail, hc, hdigit⟩ := exists_head_padded k n
  rw [hc] at hmore ⊢
  rw [List.cons_append] at hmore ⊢
  rw [number, if_neg, hmore]
  cases hd : digit? c with
  | none => rw [IsDigit, hd] at hdigit; cases hdigit
  | some d => exact Bool.false_ne_true

theorem isBlank_eq_false_of_isDigit {c : Char} (h : IsDigit c) : isBlank c = false :=
  forall_isDigit (p := fun c => isBlank c = false) (by decide) h

theorem trimStart_padded (k n : Nat) (rest : List Char) :
    trimStart (padded k n ++ rest) = padded k n ++ rest := by
  obtain ⟨c, tail, hc, hdigit⟩ := exists_head_padded k n
  rw [hc, List.cons_append, trimStart, List.dropWhile_cons_of_neg]
  rw [isBlank_eq_false_of_isDigit hdigit]
  exact Bool.false_ne_true

theorem numberIn_padded {low high : Nat} (hlow : low ≤ n) (hhigh : n ≤ high) (hn : n < 100)
    (hrest : EndsDigits rest) :
    numberIn 2 low high (padded 2 n ++ rest) = .ok (n, rest) := by
  have hbound : n < numberBound := Nat.lt_of_lt_of_le hn (by decide)
  have hwidth : (padded 2 n).length = 2 := length_padded (by decide) hn
  rw [numberIn, trimStart_padded, number_padded hbound (Nat.le_of_eq hwidth) hrest]
  show (if (decide (low ≤ n) && decide (n ≤ high)) = true then _ else _) = _
  rw [if_pos (by simp [hlow, hhigh])]

theorem mark_trimStart {c : Char} (h : isBlank c = false) (cs : List Char) :
    mark c (trimStart (c :: cs)) = .ok cs := by
  rw [trimStart, List.dropWhile_cons_of_neg (by simp [h]), mark, if_pos rfl]

/-! ## Years -/

/-- **A year reads as that year.** -/
theorem readYear_year {y : Int} (hlow : Int32.minValue.toInt ≤ y) (hhigh : y ≤ Int32.maxValue.toInt)
    (hrest : EndsDigits rest) : readYear (year y ++ rest) = .ok (y, rest) := by
  have hleast : Int32.minValue.toInt = -2147483648 := rfl
  have hmost : Int32.maxValue.toInt = 2147483647 := rfl
  have hbound : numberBound = 9223372036854775808 := rfl
  -- whatever was read is the year, which is in range
  have hdone : ∀ n : Int, n = y →
      (if Int32.minValue.toInt ≤ n && n ≤ Int32.maxValue.toInt then .ok (n, rest)
        else .error .outOfRange : Except Fault (Int × List Char)) = .ok (y, rest) := by
    rintro _ rfl
    rw [decide_eq_true hlow, decide_eq_true hhigh]
    rfl
  have htrim : ∀ c cs, isBlank c = false → trimStart (c :: cs) = c :: cs := fun c cs hc =>
    List.dropWhile_cons_of_neg (by simp [hc])
  rw [year]
  split
  · next hplain =>
    have hy : 0 ≤ y ∧ y ≤ 9999 := by simpa using hplain
    have hwidth : (padded 4 y.toNat).length = 4 :=
      length_padded (by decide) (show y.toNat < 10000 by omega)
    have hnumber := number_padded (k := 4) (n := y.toNat) (by omega) (Nat.le_of_eq hwidth) hrest
    obtain ⟨c, tail, hc, hdigit⟩ := exists_head_padded 4 y.toNat
    rw [hc, List.cons_append] at hnumber ⊢
    rw [readYear, htrim c _ (isBlank_eq_false_of_isDigit hdigit)]
    split
    · next heq =>
      cases heq
      exact absurd hdigit Bool.false_ne_true
    · next heq =>
      cases heq
      exact absurd hdigit Bool.false_ne_true
    · rw [hnumber]
      exact hdone _ (Int.toNat_of_nonneg hy.1)
  · have hwidth : (padded 4 y.natAbs).length ≤ (padded 4 y.natAbs ++ rest).length := by
      rw [List.length_append]
      exact Nat.le_add_right _ _
    have hnumber := number_padded (show y.natAbs < numberBound by omega) hwidth hrest
    split
    · rw [List.cons_append, readYear, htrim '-' _ rfl]
      simp only [hnumber]
      exact hdone (-(y.natAbs : Int)) (by omega)
    · rw [List.cons_append, readYear, htrim '+' _ rfl]
      simp only [hnumber]
      exact hdone y.natAbs (by omega)

end

/-! ## Fractions of a second -/

/-- The numbers of digits that a fraction of a second may have. -/
def widths : List Nat := [0, 3, 6, 9]

/-- A fraction of a second, cut off after some digits. -/
def decimals (width nanos : Nat) : List Char :=
  if width = 0 then [] else '.' :: padded width (nanos / Nat.pow 10 (9 - width))

/-- Whether a width loses nothing of a fraction of a second, and a smaller one would. -/
structure Fewest (nanos width : Nat) : Prop where
  mem_widths : width ∈ widths
  keeps : nanos % Nat.pow 10 (9 - width) = 0
  least : ∀ w ∈ widths, nanos % Nat.pow 10 (9 - w) = 0 → width ≤ w

/-- **A fraction of a second has as few digits as lose nothing.** -/
theorem exists_fewest {nanos : Nat} (h : nanos < 1000000000) :
    ∃ width, Fewest nanos width ∧ fraction nanos = decimals width nanos := by
  have hfewest : ∀ width ∈ widths, nanos % Nat.pow 10 (9 - width) = 0 →
      (nanos % 1000000000 = 0 → width ≤ 0) → (nanos % 1000000 = 0 → width ≤ 3) →
      (nanos % 1000 = 0 → width ≤ 6) → Fewest nanos width := by
    intro width hwidth hkeeps hnone hmillis hmicros
    refine ⟨hwidth, hkeeps, fun w hw => ?_⟩
    simp only [widths, List.mem_cons, List.not_mem_nil, or_false] at hw
    obtain rfl | rfl | rfl | rfl := hw
    · exact hnone
    · exact hmillis
    · exact hmicros
    · exact fun _ => (show ∀ w ∈ widths, w ≤ 9 by decide) width hwidth
  rw [fraction]
  split
  · next hzero =>
    have hkeeps : nanos % 1000000000 = 0 := by omega
    exact ⟨0, hfewest 0 (by decide) hkeeps (by omega) (by omega) (by omega), rfl⟩
  · split
    · next hkeeps => exact ⟨3, hfewest 3 (by decide) hkeeps (by omega) (by omega) (by omega), rfl⟩
    · split
      · next hkeeps => exact ⟨6, hfewest 6 (by decide) hkeeps (by omega) (by omega) (by omega), rfl⟩
      · refine ⟨9, hfewest 9 (by decide) (Nat.mod_one nanos) (by omega) (by omega) (by omega), ?_⟩
        rw [decimals, if_neg (by decide)]
        exact congrArg (fun n => '.' :: padded 9 n) (Nat.div_one nanos).symm

/-- **A fraction that loses nothing reads as that fraction.** -/
theorem readFraction_decimals {width nanos : Nat} {rest : List Char} (hnanos : nanos < 1000000000)
    (h : Fewest nanos width) (hrest : EndsDigits rest) (hpoint : rest.head? ≠ some '.') :
    readFraction (decimals width nanos ++ rest) = .ok (nanos, rest) := by
  have hpowers : ∀ w ∈ widths, w ≤ 9 ∧ Nat.pow 10 (9 - w) * Nat.pow 10 w = 1000000000 := by decide
  obtain ⟨hle, hpower⟩ := hpowers width h.mem_widths
  rw [decimals]
  split
  · next hwidth =>
    subst hwidth
    have hzero : nanos = 0 := by
      have hkeeps : nanos % 1000000000 = 0 := h.keeps
      omega
    rw [List.nil_append, hzero]
    cases rest with
    | nil => rfl
    | cons c rest =>
      rw [readFraction]
      intro cs hcs
      exact hpoint (congrArg List.head? hcs)
  · next hwidth =>
    have hlt : nanos / Nat.pow 10 (9 - width) < Nat.pow 10 width :=
      Nat.div_lt_of_lt_mul (hpower ▸ hnanos)
    have hlength := length_padded (Nat.pos_of_ne_zero hwidth) hlt
    have hbound : nanos / Nat.pow 10 (9 - width) < numberBound :=
      Nat.lt_of_le_of_lt (Nat.div_le_self _ _) (Nat.lt_trans hnanos (by decide))
    have hnumber := number_padded hbound (Nat.le_trans (Nat.le_of_eq hlength) hle) hrest
    have hdrop : rest.dropWhile (fun c => (digit? c).isSome) = rest := by
      cases rest with
      | nil => rfl
      | cons c rest => exact List.dropWhile_cons_of_neg (by simp [hrest c rfl])
    have hback := Nat.div_mul_cancel (Nat.dvd_of_mod_eq_zero h.keeps)
    rw [List.cons_append, readFraction, hnumber]
    show Except.ok (_ * Nat.pow 10 _, rest.dropWhile _) = _
    rw [List.length_append, hlength, Nat.add_sub_cancel, hback, hdrop]

/-! ## Timestamps -/

/-- A date, a time of day and a fraction of a second, in universal time. -/
def text (date : Date) (hour minute second width nanos : Nat) : List Char :=
  year date.year ++ '-' :: padded 2 date.month ++ '-' :: padded 2 date.day ++
    'T' :: padded 2 hour ++ ':' :: padded 2 minute ++ ':' :: padded 2 second ++
    decimals width nanos ++ ['Z']

/-- Whether a text shows a point in time: the date of the day, the time of day, and the fewest digits
of a second that lose nothing. -/
inductive Shows (t : Timestamp) : List Char → Prop where
  | intro {day : Int} {hour minute second width : Nat} (hhour : hour < 24) (hminute : minute < 60)
      (hsecond : second < 60)
      (hseconds : t.seconds.toInt = day * 86400 + hour * 3600 + minute * 60 + second)
      (hwidth : Fewest t.nanos width) :
      Shows t (text (Date.ofDay day) hour minute second width t.nanos)

/-- An ordinary point in time lies in the years that can be told, and in no leap second. -/
structure Ordinary (t : Timestamp) : Prop where
  inRange : Timestamp.inRange t.seconds.toInt = true
  nanos_lt : t.nanos < 1000000000

variable {t : Timestamp} {cs : List Char}

/-- **A timestamp is written as it is shown.** -/
theorem shows_write (h : Ordinary t) : Shows t (write t) := by
  obtain ⟨width, hwidth, hfraction⟩ := exists_fewest h.nanos_lt
  have hleap : ¬ 1000000000 ≤ t.nanos := Nat.not_le.mpr h.nanos_lt
  have heq : write t = text (Date.ofDay (t.seconds.toInt / 86400))
      ((t.seconds.toInt % 86400).toNat / 3600) ((t.seconds.toInt % 86400).toNat / 60 % 60)
      ((t.seconds.toInt % 86400).toNat % 60) width t.nanos := by
    simp only [write, if_neg hleap, hfraction, text, Nat.add_zero]
  rw [heq]
  exact .intro (by omega) (by omega) (by omega) (by omega) hwidth

example : write ⟨-62288265601, 999999000⟩ = "-0004-02-29T23:59:59.999999Z".toList := by cbv

/-- The characters beside digits that a timestamp is written with. -/
def marks : List Char := ['-', '+', 'T', ':', '.', 'Z']

/-- **A timestamp is written with digits and marks.** -/
theorem isDigit_or_mem_marks (h : Shows t cs) {c : Char}
    (hc : c ∈ cs) : IsDigit c ∨ c ∈ marks := by
  have hpadded : ∀ {k n}, c ∈ padded k n → IsDigit c ∨ c ∈ marks := fun h =>
    Or.inl (isDigit_of_mem_padded h)
  have hpart : ∀ {m k n}, m ∈ marks → c = m ∨ c ∈ padded k n → IsDigit c ∨ c ∈ marks := by
    rintro m k n hm (rfl | hc)
    · exact Or.inr hm
    · exact hpadded hc
  have hyear : ∀ {y}, c ∈ year y → IsDigit c ∨ c ∈ marks := by
    intro y hc
    rw [year] at hc
    split at hc
    · exact hpadded hc
    · refine hpart ?_ (List.mem_cons.mp hc)
      split <;> decide
  have hdecimals : ∀ {k n}, c ∈ decimals k n → IsDigit c ∨ c ∈ marks := by
    intro k n hc
    rw [decimals] at hc
    split at hc
    · cases hc
    · exact hpart (by decide) (List.mem_cons.mp hc)
  cases h with
  | intro =>
    simp only [text, List.mem_append, List.mem_cons, List.not_mem_nil, or_false] at hc
    rcases hc with ((((((hc | hc) | hc) | hc) | hc) | hc) | hc) | hc
    · exact hyear hc
    · exact hpart (by decide) hc
    · exact hpart (by decide) hc
    · exact hpart (by decide) hc
    · exact hpart (by decide) hc
    · exact hpart (by decide) hc
    · exact hdecimals hc
    · exact Or.inr (hc ▸ (by decide))

/-- A day of a second that can be told lies in a year that can be told. -/
theorem year_of_inRange {second : Int} (h : Timestamp.inRange second = true) :
    Timestamp.firstYear ≤ (Date.ofDay (second / 86400)).year ∧
      (Date.ofDay (second / 86400)).year ≤ Timestamp.lastYear := by
  have hrange : Timestamp.firstSecond ≤ second ∧ second ≤ Timestamp.lastSecond := by
    simpa [Timestamp.inRange] using h
  have hfirst : Timestamp.firstSecond = (daysBeforeYear Timestamp.firstYear - epochDay) * 86400 :=
    rfl
  have hlast : Timestamp.lastSecond =
      (daysBeforeYear (Timestamp.lastYear + 1) - epochDay) * 86400 - 1 := rfl
  rw [Date.year_ofDay]
  refine ⟨le_yearOfDay_iff.mpr (by omega), Int.lt_add_one_iff.mp (Int.not_le.mp fun hle => ?_)⟩
  have := le_yearOfDay_iff.mp hle
  omega

theorem assemble_eq {day : Int} {hour minute second : Nat} (h : Ordinary t) (hsecond : second < 60)
    (hyear : Timestamp.firstYear ≤ (Date.ofDay day).year ∧
      (Date.ofDay day).year ≤ Timestamp.lastYear)
    (hseconds : t.seconds.toInt = day * 86400 + hour * 3600 + minute * 60 + second) :
    assemble (Date.ofDay day) hour minute second t.nanos 0 = .ok t := by
  have hleap : leapNanos second = (second, 0) := if_neg (by omega)
  rw [assemble, hleap]
  simp only [Date.toDay_ofDay, Date.isValid_ofDay, hyear, ← hseconds, Int.sub_zero, h.inRange,
    Int64.ofInt_toInt, Nat.add_zero]
  rfl

theorem ok_bind {α β : Type} (a : α) (f : α → Except Fault β) : (Except.ok a >>= f) = f a := rfl

/-- **A text that shows a point in time is read as that point in time.** -/
theorem read_of_shows (h : Ordinary t) (hshows : Shows t cs) : read cs = .ok t := by
  cases hshows with
  | @intro day hour minute second width hhour hminute hsecond hseconds hwidth =>
    have hyear := year_of_inRange h.inRange
    rw [show t.seconds.toInt / 86400 = day by omega] at hyear
    have hlow : Int32.minValue.toInt ≤ (Date.ofDay day).year := Int.le_trans (by decide) hyear.1
    have hhigh : (Date.ofDay day).year ≤ Int32.maxValue.toInt := Int.le_trans hyear.2 (by decide)
    obtain ⟨hjanuary, hdecember, hone, hmost⟩ := Date.bounds_of_isValid (Date.isValid_ofDay day)
    have hends : ∀ c cs, digit? c = none → EndsDigits (c :: cs) := fun _ cs hc =>
      endsDigits_cons hc cs
    have hfraction : EndsDigits (decimals width t.nanos ++ ['Z']) := by
      rw [decimals]
      split
      · exact hends 'Z' _ rfl
      · exact hends '.' _ rfl
    rw [text]
    simp only [List.append_assoc, List.cons_append]
    rw [read, readYear_year hlow hhigh (hends '-' _ rfl), ok_bind]
    simp only
    -- the date
    rw [mark_trimStart rfl, ok_bind,
      numberIn_padded hjanuary hdecember (by omega) (hends '-' _ rfl), ok_bind]
    simp only
    rw [mark_trimStart rfl, ok_bind, numberIn_padded hone hmost (by omega) (hends 'T' _ rfl),
      ok_bind]
    simp only
    -- the time of day
    rw [show separator ('T' :: _) = .ok _ from rfl, ok_bind,
      numberIn_padded (Nat.zero_le hour) (by omega) (by omega) (hends ':' _ rfl), ok_bind]
    simp only
    rw [mark_trimStart rfl, ok_bind,
      numberIn_padded (Nat.zero_le minute) (by omega) (by omega) (hends ':' _ rfl), ok_bind]
    simp only
    rw [mark_trimStart rfl, ok_bind,
      numberIn_padded (Nat.zero_le second) (by omega) (by omega) hfraction, ok_bind]
    simp only
    -- the fraction and the offset
    rw [readFraction_decimals h.nanos_lt hwidth (hends 'Z' _ rfl) (by decide), ok_bind]
    exact assemble_eq h hsecond hyear hseconds

/-- **The text of a point in time reads as that point in time.** -/
theorem read_write (h : Ordinary t) : read (write t) = .ok t := read_of_shows h (shows_write h)

end LikedYou.Time.Rfc3339
