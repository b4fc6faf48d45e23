/-!
# Byte strings

Stored rows and request bodies are strings of bytes. Keys of the durable cache are compared byte
by byte, a shorter string before its continuations, which is the order `compare` gives on lists.

Numbers of fixed width are written in either byte order. `littleEndian` is the one definition;
`bigEndian` is its reverse, chosen for the expiry index because there the order of the byte strings
is the order of the numbers.
-/

namespace LikedYou

/-- A string of bytes. -/
abbrev Bytes := List UInt8

namespace Bytes

/-- The `width` bytes of `n`, least significant first; what does not fit is dropped. -/
def littleEndian : Nat → Nat → Bytes
  | 0, _ => []
  | width + 1, n => UInt8.ofNat (n % 256) :: littleEndian width (n / 256)

/-- The number whose bytes, least significant first, are given. -/
def ofLittleEndian : Bytes → Nat
  | [] => 0
  | b :: bs => b.toNat + 256 * ofLittleEndian bs

/-- The `width` bytes of `n`, most significant first. -/
def bigEndian (width n : Nat) : Bytes := (littleEndian width n).reverse

/-- The number whose bytes, most significant first, are given. -/
def ofBigEndian (bs : Bytes) : Nat := ofLittleEndian bs.reverse

theorem length_littleEndian (width n : Nat) : (littleEndian width n).length = width := by
  induction width generalizing n with
  | zero => rfl
  | succ width ih => simp [littleEndian, ih]

theorem length_bigEndian (width n : Nat) : (bigEndian width n).length = width := by
  simp [bigEndian, length_littleEndian]

/-- The two lower-case hexadecimal digits of each byte, in order. -/
def hex (bs : Bytes) : String :=
  String.ofList (bs.flatMap fun b =>
    [Nat.digitChar (b.toNat / 16), Nat.digitChar (b.toNat % 16)])

end Bytes

end LikedYou
