import LikedYou.Decimal.Numeral
import LikedYou.Text.Blank
import LikedYou.Time.Timestamp

/-!
# Timestamps as text

Timestamps are written in the form of RFC 3339, in universal time, with the fewest of 0, 3, 6 or 9
digits of a second that lose nothing. A year outside 0 to 9999 is written with its sign and at least
four digits.

Reading is more generous: any offset from universal time, blanks between the parts, any number of
digits of a second (those after the ninth are passed over), a space or a small letter between date
and time, `UTC` or a small letter for universal time, a second numbered 60.
-/

namespace LikedYou.Time.Rfc3339

open Decimal Text

/-! ## Writing -/

/-- The digits of a second, with the point in front. -/
def fraction (nanos : Nat) : List Char :=
  if nanos = 0 then []
  else if nanos % 1000000 = 0 then '.' :: padded 3 (nanos / 1000000)
  else if nanos % 1000 = 0 then '.' :: padded 6 (nanos / 1000)
  else '.' :: padded 9 nanos

/-- A year. -/
def year (y : Int) : List Char :=
  if 0 ≤ y && y ≤ 9999 then padded 4 y.toNat
  else (if y < 0 then '-' else '+') :: padded 4 y.natAbs

/-- A timestamp. -/
def write (t : Timestamp) : List Char :=
  let date := Date.ofDay (t.seconds.toInt / 86400)
  let second := (t.seconds.toInt % 86400).toNat
  let (leap, nanos) := if 1000000000 ≤ t.nanos then (1, t.nanos - 1000000000) else (0, t.nanos)
  year date.year ++ '-' :: padded 2 date.month ++ '-' :: padded 2 date.day ++
    'T' :: padded 2 (second / 3600) ++ ':' :: padded 2 (second / 60 % 60) ++
    ':' :: padded 2 (second % 60 + leap) ++ fraction nanos ++ ['Z']

/-! ## Reading -/

/-- Why a text is no timestamp. -/
inductive Fault where
  | outOfRange
  | impossible
  | invalid
  | tooShort
  | tooLong
  deriving DecidableEq, Repr

/-- The wording of a fault. -/
def Fault.message : Fault → String
  | .outOfRange => "input is out of range"
  | .impossible => "no possible date and time matching input"
  | .invalid => "input contains invalid characters"
  | .tooShort => "premature end of input"
  | .tooLong => "trailing input"

/-- Numbers stay below this bound while they are read. -/
def numberBound : Nat := UInt64.size / 2

/-- Up to `width` further digits of a number that so far is `n`. -/
def moreDigits (n : Nat) : (width : Nat) → List Char → Except Fault (Nat × List Char)
  | 0, cs => .ok (n, cs)
  | _ + 1, [] => .ok (n, [])
  | width + 1, c :: cs =>
    match digit? c with
    | none => .ok (n, c :: cs)
    | some d =>
      if 10 * n + d < numberBound then moreDigits (10 * n + d) width cs else .error .outOfRange

/-- A number of one to `width` digits. -/
def number (width : Nat) : List Char → Except Fault (Nat × List Char)
  | [] => .error .tooShort
  | c :: cs => if (digit? c).isNone then .error .invalid else moreDigits 0 width (c :: cs)

/-- A number of one to `width` digits, after blanks, in the range from `low` to `high`. -/
def numberIn (width low high : Nat) (cs : List Char) : Except Fault (Nat × List Char) := do
  let (n, cs) ← number width (trimStart cs)
  if low ≤ n && n ≤ high then .ok (n, cs) else .error .outOfRange

/-- A year: up to four digits, or any number of them after a sign. -/
def readYear (cs : List Char) : Except Fault (Int × List Char) := do
  let (y, cs) ←
    match trimStart cs with
    | '-' :: cs => (number cs.length cs).map fun (n, cs) => (-(n : Int), cs)
    | '+' :: cs => (number cs.length cs).map fun (n, cs) => ((n : Int), cs)
    | cs => (number 4 cs).map fun (n, cs) => ((n : Int), cs)
  if Int32.minValue.toInt ≤ y && y ≤ Int32.maxValue.toInt then .ok (y, cs)
  else .error .outOfRange

/-- One given character. -/
def mark (c : Char) : List Char → Except Fault (List Char)
  | [] => .error .tooShort
  | d :: cs => if d = c then .ok cs else .error .invalid

/-- The nanoseconds, if a point follows. Digits after the ninth are passed over. -/
def readFraction : List Char → Except Fault (Nat × List Char)
  | '.' :: cs => do
    let (n, rest) ← number 9 cs
    let scale := Nat.pow 10 (9 - (cs.length - rest.length))
    .ok (n * scale, rest.dropWhile fun c => (digit? c).isSome)
  | cs => .ok (0, cs)

/-- Two digits of an offset, the first of at most `high`; two digits with a higher first one are out
of range, and all else is no number. -/
def offsetPart (high : Nat) : List Char → Except Fault (Nat × List Char)
  | a :: b :: cs =>
    match digit? a, digit? b with
    | some a, some b => if a ≤ high then .ok (10 * a + b, cs) else .error .outOfRange
    | _, _ => .error .invalid
  | [c] => if c.toNat < 0x80 then .error .tooShort else .error .invalid
  | [] => .error .tooShort

/-- The sign of an offset, as whether it is negative. -/
def offsetSign : List Char → Except Fault (Bool × List Char)
  | '+' :: cs => .ok (false, cs)
  | '-' :: cs => .ok (true, cs)
  | '\u2212' :: cs => .ok (true, cs)
  | [] => .error .tooShort
  | _ => .error .invalid

/-- Hours and minutes of an offset from universal time, in seconds. -/
def offsetAmount (cs : List Char) : Except Fault (Int × List Char) := do
  let (negative, cs) ← offsetSign cs
  let (hours, cs) ← offsetPart 9 cs
  let (minutes, cs) ← offsetPart 5 (cs.dropWhile fun c => c = ':' || isBlank c)
  let amount : Int := hours * 3600 + minutes * 60
  .ok (if negative then -amount else amount, cs)

/-- An offset from universal time, in seconds. -/
def readOffset (cs : List Char) : Except Fault (Int × List Char) :=
  match cs with
  | 'Z' :: cs => .ok (0, cs)
  | 'z' :: cs => .ok (0, cs)
  | u :: t :: c :: rest =>
    if [u, t, c].map Char.toUpper = ['U', 'T', 'C'] then .ok (0, rest) else offsetAmount cs
  | cs => offsetAmount cs

/-- What stands between date and time. -/
def separator : List Char → Except Fault (List Char)
  | 'T' :: cs => .ok cs
  | 't' :: cs => .ok cs
  | ' ' :: cs => .ok cs
  | [] => .error .tooShort
  | _ => .error .invalid

/-- Whether the last second before a leap second has to be counted on. -/
def leapNanos (second : Nat) : Nat × Nat := if second = 60 then (59, 1000000000) else (second, 0)

/-- The point in time at which a clock with the given offset shows the given date and time. -/
def assemble (date : Date) (hour minute second nanos : Nat) (offset : Int) :
    Except Fault Timestamp :=
  let (second, leap) := leapNanos second
  let shown := date.toDay * 86400 + hour * 3600 + minute * 60 + second
  if !(Timestamp.firstYear ≤ date.year && date.year ≤ Timestamp.lastYear && date.isValid) then
    .error .outOfRange
  else if !(-86400 < offset && offset < 86400) then .error .outOfRange
  else if !Timestamp.inRange (shown - offset) then .error .impossible
  else .ok ⟨Int64.ofInt (shown - offset), nanos + leap⟩

/-- Read a timestamp. -/
def read (cs : List Char) : Except Fault Timestamp := do
  let (y, cs) ← readYear cs
  let cs ← mark '-' (trimStart cs)
  let (month, cs) ← numberIn 2 1 12 cs
  let cs ← mark '-' (trimStart cs)
  let (day, cs) ← numberIn 2 1 31 cs
  let cs ← separator cs
  let (hour, cs) ← numberIn 2 0 23 cs
  let cs ← mark ':' (trimStart cs)
  let (minute, cs) ← numberIn 2 0 59 cs
  let cs ← mark ':' (trimStart cs)
  let (second, cs) ← numberIn 2 0 60 cs
  let (nanos, cs) ← readFraction cs
  let (offset, cs) ← readOffset (trimStart cs)
  if (trimStart cs).isEmpty then assemble ⟨y, month, day⟩ hour minute second nanos offset
  else .error .tooLong

end LikedYou.Time.Rfc3339
