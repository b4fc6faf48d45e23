/-!
# Decimal numerals

Numbers written in digits of base ten: natural numbers, integers with a minus sign, numbers padded
with zeros to a width, and the form in which settings are given (digits with an optional plus).
-/

namespace LikedYou.Decimal

/-- The digit of value `d`. -/
def digitChar (d : Nat) : Char := Char.ofNat (0x30 + d)

/-- The value of a digit. -/
def digit? (c : Char) : Option Nat :=
  if '0' ≤ c && c ≤ '9' then some (c.toNat - 0x30) else none

theorem digit?_digitChar {d : Nat} (h : d < 10) : digit? (digitChar d) = some d := by
  have hall : ∀ e ∈ List.range 10, digit? (digitChar e) = some e := by decide
  exact hall d (List.mem_range.mpr h)

/-- The digits of `n`, without leading zeros. -/
def digits (n : Nat) : List Char :=
  if n < 10 then [digitChar n] else digits (n / 10) ++ [digitChar (n % 10)]
termination_by n
decreasing_by exact Nat.div_lt_self (by omega) (by omega)

/-- The digits of `n`, with zeros in front up to `width`. -/
def padded (width n : Nat) : List Char :=
  List.replicate (width - (digits n).length) '0' ++ digits n

/-- An integer, with a minus sign if it is negative. -/
def integer (n : Int) : List Char :=
  if n < 0 then '-' :: digits n.natAbs else digits n.natAbs

/-- An integer as a string. -/
def text (n : Int) : String := String.ofList (integer n)

/-- The number written by digits, after the digits of `n`; `none` if another character occurs. -/
def accumulate (n : Nat) : List Char → Option Nat
  | [] => some n
  | c :: cs =>
    match digit? c with
    | some d => accumulate (10 * n + d) cs
    | none => none

/-- The number of at least one digit. -/
def ofDigits? (cs : List Char) : Option Nat :=
  if cs.isEmpty then none else accumulate 0 cs

/-- Read a setting of at most `limit`: digits, after an optional plus sign. -/
def ofSetting? (limit : Nat) (s : String) : Option Nat :=
  let number :=
    match s.toList with
    | '+' :: cs => ofDigits? cs
    | cs => ofDigits? cs
  number.filter (· ≤ limit)

end LikedYou.Decimal
