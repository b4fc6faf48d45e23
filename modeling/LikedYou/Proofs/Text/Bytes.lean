import LikedYou.Bytes
import Mathlib.Algebra.Group.Nat.Defs

/-!
# Numbers of fixed width

* `Bytes.ofLittleEndian_littleEndian` — the bytes of a number tell it up to what does not fit, and so
  they do in the other order
* `Bytes.littleEndian_ofLittleEndian` — all bytes are those of a number
* `Bytes.compare_eq_lt_iff` — the order of rows is the order of byte strings
* `Bytes.compare_append` — of byte strings that begin equally long, the beginnings are compared first
* `Bytes.compare_bigEndian` — most significant byte first, byte strings are in the order of the
  numbers
-/

namespace LikedYou.Bytes

theorem ofLittleEndian_littleEndian (width n : Nat) :
    ofLittleEndian (littleEndian width n) = n % 256 ^ width := by
  induction width generalizing n with
  | zero => simp [littleEndian, ofLittleEndian, Nat.mod_one]
  | succ width ih =>
    have h : (UInt8.ofNat (n % 256)).toNat = n % 256 := by
      rw [UInt8.toNat_ofNat']
      omega
    rw [littleEndian, ofLittleEndian, ih, h, Nat.pow_succ', Nat.mod_mul]

theorem ofBigEndian_bigEndian (width n : Nat) :
    ofBigEndian (bigEndian width n) = n % 256 ^ width := by
  rw [ofBigEndian, bigEndian, List.reverse_reverse, ofLittleEndian_littleEndian]

theorem ofLittleEndian_lt (bs : Bytes) : ofLittleEndian bs < 256 ^ bs.length := by
  induction bs with
  | nil => exact Nat.one_pos
  | cons b bs ih =>
    have hb : b.toNat < 256 := b.toNat_lt
    rw [ofLittleEndian, List.length_cons, Nat.pow_succ]
    omega

/-- Bytes are those of the number that they tell. -/
theorem littleEndian_ofLittleEndian (bs : Bytes) :
    littleEndian bs.length (ofLittleEndian bs) = bs := by
  induction bs with
  | nil => rfl
  | cons b bs ih =>
    have hb : b.toNat < 256 := b.toNat_lt
    have hfirst : (b.toNat + 256 * ofLittleEndian bs) % 256 = b.toNat := by omega
    have hrest : (b.toNat + 256 * ofLittleEndian bs) / 256 = ofLittleEndian bs := by omega
    rw [ofLittleEndian, List.length_cons, littleEndian, hfirst, hrest, ih, UInt8.ofNat_toNat]

theorem bigEndian_ofBigEndian (bs : Bytes) : bigEndian bs.length (ofBigEndian bs) = bs := by
  rw [bigEndian, ofBigEndian, ← bs.length_reverse, littleEndian_ofLittleEndian,
    List.reverse_reverse]

/-! ## Order -/

/-- Byte strings are compared byte by byte, a shorter one before its continuations. -/
theorem compare_eq_lt_iff {a b : Bytes} : compare a b = .lt ↔ a < b := by
  rw [List.compare_eq_compareLex]
  induction a generalizing b with
  | nil =>
    cases b with
    | nil => simp [List.compareLex_nil_nil]
    | cons v b => simp [List.compareLex_nil_cons]
  | cons u a ih =>
    cases b with
    | nil => simp [List.compareLex_cons_nil]
    | cons v b =>
      rw [List.compareLex_cons_cons, List.cons_lt_cons_iff, Ordering.then_eq_lt, ih,
        Std.compare_eq_lt, Std.compare_eq_iff_eq]

theorem compare_append {a b : Bytes} (h : a.length = b.length) (x y : Bytes) :
    compare (a ++ x) (b ++ y) = (compare a b).then (compare x y) := by
  simp only [List.compare_eq_compareLex]
  induction a generalizing b with
  | nil =>
    obtain rfl := List.length_eq_zero_iff.mp h.symm
    rfl
  | cons u a ih =>
    cases b with
    | nil => cases h
    | cons v b =>
      rw [List.cons_append, List.cons_append, List.compareLex_cons_cons,
        List.compareLex_cons_cons, ih (Nat.succ.inj h), Ordering.then_assoc]

theorem compare_byte {m n : Nat} (hm : m < 256) (hn : n < 256) :
    compare (UInt8.ofNat m) (UInt8.ofNat n) = compare m n := by
  have hm' : (UInt8.ofNat m).toNat = m := UInt8.toNat_ofNat_of_lt' hm
  have hn' : (UInt8.ofNat n).toNat = n := UInt8.toNat_ofNat_of_lt' hn
  have hlt : UInt8.ofNat m < UInt8.ofNat n ↔ m < n := by
    rw [UInt8.lt_iff_toNat_lt, hm', hn']
  have heq : UInt8.ofNat m = UInt8.ofNat n ↔ m = n := by
    rw [← UInt8.toNat_inj, hm', hn']
  show compareOfLessAndEq _ _ = compareOfLessAndEq _ _
  simp only [compareOfLessAndEq, hlt, heq]

theorem bigEndian_succ (width n : Nat) :
    bigEndian (width + 1) n = bigEndian width (n / 256) ++ [UInt8.ofNat (n % 256)] := by
  rw [bigEndian, littleEndian, List.reverse_cons, ← bigEndian]

theorem compare_div_mod (m n : Nat) :
    (compare (m / 256) (n / 256)).then (compare (m % 256) (n % 256)) = compare m n := by
  rcases Nat.lt_trichotomy (m / 256) (n / 256) with hlt | heq | hgt
  · have hmn : m < n := by omega
    rw [Nat.compare_eq_lt.mpr hlt, Nat.compare_eq_lt.mpr hmn]
    rfl
  · have hlt : m % 256 < n % 256 ↔ m < n := by omega
    have heq' : m % 256 = n % 256 ↔ m = n := by omega
    rw [Nat.compare_eq_eq.mpr heq]
    show compareOfLessAndEq _ _ = compareOfLessAndEq _ _
    simp only [compareOfLessAndEq, hlt, heq']
  · have hmn : n < m := by omega
    rw [Nat.compare_eq_gt.mpr hgt, Nat.compare_eq_gt.mpr hmn]
    rfl

/-- **Most significant byte first, byte strings of one length are in the order of the numbers.** -/
theorem compare_bigEndian {width m n : Nat} (hm : m < 256 ^ width) (hn : n < 256 ^ width) :
    compare (bigEndian width m) (bigEndian width n) = compare m n := by
  induction width generalizing m n with
  | zero =>
    obtain rfl : m = 0 := by simpa using hm
    obtain rfl : n = 0 := by simpa using hn
    rfl
  | succ width ih =>
    rw [Nat.pow_succ] at hm hn
    have hlength : (bigEndian width (m / 256)).length = (bigEndian width (n / 256)).length := by
      rw [length_bigEndian, length_bigEndian]
    have hlast : compare [UInt8.ofNat (m % 256)] [UInt8.ofNat (n % 256)] =
        compare (m % 256) (n % 256) := by
      rw [← compare_byte (Nat.mod_lt m (by omega)) (Nat.mod_lt n (by omega)),
        List.compare_eq_compareLex, List.compareLex_cons_cons]
      exact Ordering.then_eq
    rw [bigEndian_succ, bigEndian_succ, compare_append hlength, hlast,
      ih (Nat.div_lt_of_lt_mul (by omega)) (Nat.div_lt_of_lt_mul (by omega)), compare_div_mod]

/-- Byte strings of one length are in the order of the numbers that they tell. -/
theorem compare_eq_compare_ofBigEndian {a b : Bytes} (h : a.length = b.length) :
    compare a b = compare (ofBigEndian a) (ofBigEndian b) := by
  have hlt : ∀ bs : Bytes, ofBigEndian bs < 256 ^ bs.length := fun bs => by
    rw [← bs.length_reverse]
    exact ofLittleEndian_lt bs.reverse
  rw [← compare_bigEndian (hlt a) (h ▸ hlt b), bigEndian_ofBigEndian, h, bigEndian_ofBigEndian]

end LikedYou.Bytes
