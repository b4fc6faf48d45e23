import LikedYou.Bytes

/-!
# Base 64 for addresses

Bytes as text of 64 symbols that need no escaping in an address: letters, digits, `-` and `_`. Three
bytes make four symbols. At the end one byte makes two symbols and two bytes make three, filled up
to four with `=`.

Reading accepts exactly what writing produces: the filling must be there, and the bits of the last
symbol that belong to no byte must be zero. `decode` tells where a text deviates. A text whose
length is one more than a multiple of four, and whose last byte is no symbol, is reported for that
byte first; otherwise the first deviation counts.
-/

namespace LikedYou.Base64

/-! ## Symbols -/

/-- The symbol of a value below 64. -/
def symbol (v : Nat) : Char :=
  if v < 26 then Char.ofNat (0x41 + v)
  else if v < 52 then Char.ofNat (0x61 + v - 26)
  else if v < 62 then Char.ofNat (0x30 + v - 52)
  else if v = 62 then '-'
  else '_'

/-- The value of a symbol. -/
def value? (b : UInt8) : Option Nat :=
  let n := b.toNat
  if 0x41 ≤ n && n ≤ 0x5A then some (n - 0x41)
  else if 0x61 ≤ n && n ≤ 0x7A then some (n - 0x61 + 26)
  else if 0x30 ≤ n && n ≤ 0x39 then some (n - 0x30 + 52)
  else if n = 0x2D then some 62
  else if n = 0x5F then some 63
  else none

/-- The filling. -/
def pad : UInt8 := 0x3D

/-- A symbol reads as the value it was written for. -/
theorem value?_symbol {v : Nat} (h : v < 64) : value? (UInt8.ofNat (symbol v).toNat) = some v := by
  have hall : ∀ w ∈ List.range 64, value? (UInt8.ofNat (symbol w).toNat) = some w := by decide
  exact hall v (List.mem_range.mpr h)

/-! ## Writing -/

/-- The text of a byte string. -/
def encode : Bytes → List Char
  | a :: b :: c :: rest =>
    symbol (a.toNat / 4) :: symbol (a.toNat % 4 * 16 + b.toNat / 16) ::
      symbol (b.toNat % 16 * 4 + c.toNat / 64) :: symbol (c.toNat % 64) :: encode rest
  | [a, b] =>
    [symbol (a.toNat / 4), symbol (a.toNat % 4 * 16 + b.toNat / 16), symbol (b.toNat % 16 * 4), '=']
  | [a] => [symbol (a.toNat / 4), symbol (a.toNat % 4 * 16), '=', '=']
  | [] => []

/-! ## Reading -/

/-- Why a text is not one that `encode` writes. -/
inductive Fault where
  | symbol (offset : Nat) (byte : UInt8)
  | length (n : Nat)
  | lastSymbol (offset : Nat) (byte : UInt8)
  | padding
  deriving DecidableEq, Repr

/-- The wording of a fault. -/
def Fault.message : Fault → String
  | .symbol offset byte => s!"Invalid symbol {byte.toNat}, offset {offset}."
  | .length n => s!"Invalid input length: {n}"
  | .lastSymbol offset byte => s!"Invalid last symbol {byte.toNat}, offset {offset}."
  | .padding => "Invalid padding"

/-- The value of the byte that stands at `offset`. -/
def valueAt (offset : Nat) (b : UInt8) : Except Fault Nat :=
  match value? b with
  | some v => .ok v
  | none => .error (.symbol offset b)

/-- The bytes of four values. -/
def bytesOf (a b c d : Nat) : Bytes :=
  [UInt8.ofNat (a * 4 + b / 16), UInt8.ofNat (b % 16 * 16 + c / 4), UInt8.ofNat (c % 4 * 64 + d)]

/-- The values of the symbols among the last four places, the first of which stands at
`start + place`, and how many places are filled up. -/
def lastValues (start place : Nat) : Bytes → Except Fault (List Nat × Nat)
  | [] => .ok ([], 0)
  | b :: rest =>
    if b = pad then
      if 2 ≤ place && rest.all (· = pad) then .ok ([], rest.length + 1)
      else .error (.symbol (start + place) pad)
    else do
      let v ← valueAt (start + place) b
      let (vs, filled) ← lastValues start (place + 1) rest
      .ok (v :: vs, filled)

/-- The bytes written by the last four places, which begin at `start`. -/
def decodeLast (start : Nat) (places : Bytes) : Except Fault Bytes := do
  let (vs, filled) ← lastValues start 0 places
  let last := places.getD (vs.length - 1) 0
  if vs.length < 2 then .error (.length (start + vs.length))
  else if (vs.length + filled) % 4 ≠ 0 then .error .padding
  else
    match vs with
    | [a, b] =>
      if b % 16 = 0 then .ok ((bytesOf a b 0 0).take 1) else .error (.lastSymbol (start + 1) last)
    | [a, b, c] =>
      if c % 4 = 0 then .ok ((bytesOf a b c 0).take 2) else .error (.lastSymbol (start + 2) last)
    | a :: b :: c :: d :: _ => .ok (bytesOf a b c d)
    | _ => .ok []

/-- Read on at `start`, with the bytes read so far in reverse. Four places are the last ones only
if nothing follows them. -/
def decodeFrom (done : Bytes) (start : Nat) : Bytes → Except Fault Bytes
  | a :: b :: c :: d :: e :: rest => do
    let a ← valueAt start a
    let b ← valueAt (start + 1) b
    let c ← valueAt (start + 2) c
    let d ← valueAt (start + 3) d
    decodeFrom ((bytesOf a b c d).reverse ++ done) (start + 4) (e :: rest)
  | [] => .ok done.reverse
  | places => do
    let bs ← decodeLast start places
    .ok (done.reverse ++ bs)

/-- The byte string whose text is given. -/
def decode (text : Bytes) : Except Fault Bytes :=
  let last := text.getLastD pad
  if text.length % 4 = 1 && last ≠ pad && (value? last).isNone then
    .error (.symbol (text.length - 1) last)
  else decodeFrom [] 0 text

end LikedYou.Base64
