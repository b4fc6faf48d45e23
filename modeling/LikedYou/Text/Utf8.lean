import LikedYou.Bytes

/-!
# UTF-8

Text is written as bytes with one to four bytes a character. Reading is strict: no overlong form,
no surrogate, nothing above U+10FFFF.

## How a fault is located

A fault names the index of the first byte of the ill-formed sequence. When the bytes end inside a
sequence that was well formed so far, the sequence is *incomplete*; otherwise the fault also tells
how many bytes were well formed before the offending one, and at least one.

## Termination

`next` reads one character and `next_shorter` says that it leaves fewer bytes.
-/

namespace LikedYou.Utf8

/-! ## Writing -/

/-- The bytes of one character. -/
def encodeChar (c : Char) : Bytes :=
  let n := c.toNat
  if n < 0x80 then [UInt8.ofNat n]
  else if n < 0x800 then [UInt8.ofNat (0xC0 + n / 64), UInt8.ofNat (0x80 + n % 64)]
  else if n < 0x10000 then
    [UInt8.ofNat (0xE0 + n / 4096), UInt8.ofNat (0x80 + n / 64 % 64), UInt8.ofNat (0x80 + n % 64)]
  else
    [UInt8.ofNat (0xF0 + n / 262144), UInt8.ofNat (0x80 + n / 4096 % 64),
      UInt8.ofNat (0x80 + n / 64 % 64), UInt8.ofNat (0x80 + n % 64)]

/-- The bytes of a text. -/
def encode (cs : List Char) : Bytes := cs.flatMap encodeChar

/-- The bytes of a string. -/
def ofString (s : String) : Bytes := encode s.toList

/-! ## Reading -/

/-- Why a text could not be read: the index where the ill-formed sequence starts, and how many of
its bytes to pass over (`none` when the bytes ended too early). -/
structure Fault where
  start : Nat
  length : Option Nat
  deriving DecidableEq, Repr

/-- The wording of a fault. -/
def Fault.message (f : Fault) : String :=
  match f.length with
  | some n => s!"invalid utf-8 sequence of {n} bytes from index {f.start}"
  | none => s!"incomplete utf-8 byte sequence from index {f.start}"

/-- Whether `b` can follow a leading byte. -/
def isContinuation (b : UInt8) : Bool := 0x80 ≤ b && b ≤ 0xBF

/-- The range a second byte must lie in after the leading byte `a`. It is narrower than the range
of continuation bytes where an overlong form, a surrogate or a too large number would arise. -/
def secondRange (a : UInt8) : UInt8 × UInt8 :=
  if a = 0xE0 then (0xA0, 0xBF)
  else if a = 0xED then (0x80, 0x9F)
  else if a = 0xF0 then (0x90, 0xBF)
  else if a = 0xF4 then (0x80, 0x8F)
  else (0x80, 0xBF)

/-- How many bytes follow the leading byte `a`, if it is one. -/
def following? (a : UInt8) : Option Nat :=
  if a < 0x80 then some 0
  else if 0xC2 ≤ a && a ≤ 0xDF then some 1
  else if 0xE0 ≤ a && a ≤ 0xEF then some 2
  else if 0xF0 ≤ a && a ≤ 0xF4 then some 3
  else none

/-- The six payload bits of a continuation byte. -/
def payload (b : UInt8) : Nat := b.toNat % 64

/-- The first character of `a :: rest` and what follows it, or the length of the fault. -/
def next (a : UInt8) (rest : Bytes) : Except (Option Nat) (Char × Bytes) :=
  match following? a with
  | none => .error (some 1)
  | some 0 => .ok (Char.ofNat a.toNat, rest)
  | some more =>
    match rest with
    | [] => .error none
    | b :: rest =>
      if b < (secondRange a).1 || (secondRange a).2 < b then .error (some 1)
      else if more = 1 then .ok (Char.ofNat (a.toNat % 32 * 64 + payload b), rest)
      else
        match rest with
        | [] => .error none
        | c :: rest =>
          if !isContinuation c then .error (some 2)
          else if more = 2 then
            .ok (Char.ofNat (a.toNat % 16 * 4096 + payload b * 64 + payload c), rest)
          else
            match rest with
            | [] => .error none
            | d :: rest =>
              if !isContinuation d then .error (some 3)
              else
                .ok (Char.ofNat
                  (a.toNat % 8 * 262144 + payload b * 4096 + payload c * 64 + payload d), rest)

/-- Reading a character leaves no more bytes than there were after its first one. -/
theorem next_shorter {a : UInt8} {rest : Bytes} {p : Char × Bytes} (h : next a rest = .ok p) :
    p.2.length ≤ rest.length := by
  unfold next at h
  repeat' split at h
  all_goals cases h
  all_goals simp
  all_goals omega

/-- Read on, with the characters read so far in reverse and `pos` bytes behind. -/
def decodeFrom (done : List Char) (pos : Nat) : Bytes → Except Fault (List Char)
  | [] => .ok done.reverse
  | a :: rest =>
    match _h : next a rest with
    | .error length => .error ⟨pos, length⟩
    | .ok (c, rest') => decodeFrom (c :: done) (pos + c.utf8Size) rest'
termination_by bs => bs.length
decreasing_by
  have hle : rest'.length ≤ rest.length := next_shorter _h
  simp only [List.length_cons]
  omega

/-- The text written by `bs`. -/
def decode (bs : Bytes) : Except Fault (List Char) := decodeFrom [] 0 bs

/-- The string written by `bs`. -/
def toString (bs : Bytes) : Except Fault String := (decode bs).map String.ofList

end LikedYou.Utf8
