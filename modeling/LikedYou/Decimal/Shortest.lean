import LikedYou.Decimal.Numeral

/-!
# The fewest digits that read back

A binary floating point number stands for an interval: all the reals that round to it. Written in
decimal, the number is given by the shortest decimal of that interval; of two that are equally
short, by the nearer one.

## How it is found

A finite number is `m · 2 ^ q`. All comparisons are made with natural numbers, after clearing
denominators. On the grid of the multiples of `10 ^ e` only the two neighbours of the number can be
the nearest points of the interval, so one looks at these two, for falling `e`, and takes the first
grid with a hit.
-/

namespace LikedYou.Decimal

/-- A positive finite binary number `m · 2 ^ q`. `narrow` tells that the number below it is only
half as far away as the one above it. -/
structure Binary where
  m : Nat
  q : Int
  narrow : Bool

namespace Binary

/-- Fractions have 52 bits. -/
def fractionBound : Nat := 0x10000000000000

/-- The finite number whose bits, without the sign, are given. -/
def ofBits (bits : Nat) : Binary :=
  let fraction := bits % fractionBound
  let exponent : Nat := bits / fractionBound
  if exponent = 0 then ⟨fraction, -1074, false⟩
  else ⟨fractionBound + fraction, (exponent : Int) - 1075, fraction = 0 && 1 < exponent⟩

/-- What four times the significand and the grid step have to be multiplied with to compare them. -/
def scales (b : Binary) (e : Int) : Nat × Nat :=
  let q := b.q - 2
  (Nat.pow 2 q.toNat * Nat.pow 10 (-e).toNat, Nat.pow 2 (-q).toNat * Nat.pow 10 e.toNat)

/-- Whether `d · 10 ^ e` rounds to the number. The ends of the interval do so when `m` is even. -/
def contains (b : Binary) (e : Int) (d : Nat) : Bool :=
  let (s, t) := b.scales e
  let low := (4 * b.m - if b.narrow then 1 else 2) * s
  let high := (4 * b.m + 2) * s
  if b.m % 2 = 0 then low ≤ d * t && d * t ≤ high else low < d * t && d * t < high

/-- The point of the grid of step `10 ^ e` that is nearest to the number, if it rounds to it. -/
def onGrid? (b : Binary) (e : Int) : Option Nat :=
  let (s, t) := b.scales e
  let v := 4 * b.m * s
  let below := v / t
  match b.contains e below, b.contains e (below + 1) with
  | false, false => none
  | true, false => some below
  | false, true => some (below + 1)
  | true, true =>
    let down := v - below * t
    let up := (below + 1) * t - v
    if down < up then some below
    else if up < down then some (below + 1)
    else some (if below % 2 = 0 then below else below + 1)

/-- The first grid with a hit, among the `fuel` grids from `10 ^ e` downwards. -/
def search (b : Binary) (e : Int) : Nat → Nat × Int
  | 0 => (b.m, e)
  | fuel + 1 =>
    match b.onGrid? e with
    | some d => (d, e)
    | none => b.search (e - 1) fuel

/-- The shortest decimal `d · 10 ^ e` of the number. No finite number reaches `10 ^ 309`, and every
one is a multiple of `10 ^ (-1074)`. -/
def shortest (b : Binary) : Nat × Int := b.search 309 1384

end Binary

/-- Digits of a number, and where its point stands: how the shortest decimal is laid out. Below
`10 ^ 16` and from `10 ^ (-5)` on the digits stand around the point, elsewhere an exponent with its
sign follows. -/
def layOut (d : Nat) (e : Int) : List Char :=
  let ds := digits d
  let point := e + ds.length
  if 0 ≤ e && point ≤ 16 then ds ++ List.replicate e.toNat '0' ++ ['.', '0']
  else if 0 < point && point ≤ 16 then ds.take point.toNat ++ '.' :: ds.drop point.toNat
  else if -5 < point && point ≤ 0 then
    ['0', '.'] ++ List.replicate (-point).toNat '0' ++ ds
  else
    let exponent := point - 1
    let mark := if exponent < 0 then ['e'] else ['e', '+']
    match ds with
    | [c] => c :: mark ++ integer exponent
    | c :: cs => c :: '.' :: cs ++ mark ++ integer exponent
    | [] => []

/-- The text of a floating point number; `null` if it is not finite. -/
def float (x : Float) : List Char :=
  let bits := x.toBits.toNat
  let sign := if bits / (UInt64.size / 2) = 1 then ['-'] else []
  let size := bits % (UInt64.size / 2)
  if size / Binary.fractionBound = 2047 then "null".toList
  else if size = 0 then sign ++ ['0', '.', '0']
  else
    let (d, e) := (Binary.ofBits size).shortest
    sign ++ layOut d e

end LikedYou.Decimal
