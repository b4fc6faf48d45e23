import LikedYou.Json.Fault
import LikedYou.Text.Utf8

/-!
# The tokens of JSON

Blanks, words, texts and numbers, read from the front of a byte string; and values that nobody asked
for, which are passed over without being built.

## Places of faults

A fault that is noticed by looking at a byte counts that byte, so its unread bytes begin after it. A
fault that is noticed at the end has none.

## Two readings of one token

A value that is passed over is checked less than one that is wanted: surrogates need not be paired,
texts need not be UTF-8, and a number has no size. A number that breaks off is bad where it is passed
over, and ends early where it is wanted.

## Termination

Each of these functions leaves fewer bytes than it is given, which the `_shorter` lemmas say.
-/

namespace LikedYou.Json

/-- Report a fault. -/
def fail {α : Type} (cause : Cause) (unread : Bytes) : Except Fault α :=
  .error { cause := cause, unread := unread }

/-! ## Blanks and words -/

/-- The four blanks of JSON. -/
def isBlank (b : UInt8) : Bool := b = 0x20 || b = 0x0A || b = 0x09 || b = 0x0D

/-- The bytes from the first one on that is no blank. -/
def skipBlanks (bs : Bytes) : Bytes := bs.dropWhile isBlank

theorem length_dropWhile_le {α : Type} (p : α → Bool) (l : List α) :
    (l.dropWhile p).length ≤ l.length :=
  (List.dropWhile_sublist p).length_le

theorem length_skipBlanks_le (bs : Bytes) : (skipBlanks bs).length ≤ bs.length :=
  length_dropWhile_le isBlank bs

/-- The rest of a word, such as `ull` after `n`. -/
def readWord : List UInt8 → Bytes → Except Fault Bytes
  | [], bs => .ok bs
  | _ :: _, [] => fail .endOfValue []
  | w :: ws, b :: bs => if b = w then readWord ws bs else fail .wordWanted bs

theorem readWord_shorter {ws : List UInt8} {bs rest : Bytes} (h : readWord ws bs = .ok rest) :
    rest.length ≤ bs.length := by
  induction ws generalizing bs with
  | nil => cases h; exact Nat.le_refl _
  | cons w ws ih =>
    cases bs with
    | nil => cases h
    | cons b bs =>
      rw [readWord] at h
      split at h
      · have := ih h
        simp only [List.length_cons]
        omega
      · cases h

/-- What follows the first letter of `null`, `true` and `false`. -/
def afterN : List UInt8 := [0x75, 0x6C, 0x6C]

@[inherit_doc afterN] def afterT : List UInt8 := [0x72, 0x75, 0x65]

@[inherit_doc afterN] def afterF : List UInt8 := [0x61, 0x6C, 0x73, 0x65]

/-! ## Texts -/

/-- The value of a hexadecimal digit. -/
def hexValue? (b : UInt8) : Option Nat :=
  let n := b.toNat
  if 0x30 ≤ n && n ≤ 0x39 then some (n - 0x30)
  else if 0x61 ≤ n && n ≤ 0x66 then some (n - 0x61 + 10)
  else if 0x41 ≤ n && n ≤ 0x46 then some (n - 0x41 + 10)
  else none

/-- Four hexadecimal digits. -/
def readHex : Bytes → Except Fault (Nat × Bytes)
  | a :: b :: c :: d :: rest =>
    match hexValue? a, hexValue? b, hexValue? c, hexValue? d with
    | some a, some b, some c, some d => .ok (((a * 16 + b) * 16 + c) * 16 + d, rest)
    | _, _, _, _ => fail .badEscape rest
  | _ => fail .endOfText []

theorem readHex_shorter {bs : Bytes} {p : Nat × Bytes} (h : readHex bs = .ok p) :
    p.2.length < bs.length := by
  unfold readHex at h
  repeat' split at h
  all_goals cases h
  simp
  omega

/-- Whether a number is the first half of a pair of surrogates. -/
def isHighSurrogate (n : Nat) : Bool := 0xD800 ≤ n && n ≤ 0xDBFF

/-- Whether a number is the second half of a pair of surrogates. -/
def isLowSurrogate (n : Nat) : Bool := 0xDC00 ≤ n && n ≤ 0xDFFF

/-- The character that a pair of surrogates stands for. -/
def joinSurrogates (high low : Nat) : Char :=
  Char.ofNat ((high - 0xD800) * 0x400 + (low - 0xDC00) + 0x10000)

/-- The second half of a pair whose first half is `high`. -/
def readLowSurrogate (high : Nat) : Bytes → Except Fault (Char × Bytes)
  | [] => fail .endOfText []
  | a :: rest =>
    if a ≠ 0x5C then fail .unfinishedPair rest
    else
      match rest with
      | [] => fail .endOfText []
      | b :: rest =>
        if b ≠ 0x75 then fail .unfinishedPair rest
        else
          match readHex rest with
          | .error f => .error f
          | .ok (low, rest) =>
            if isLowSurrogate low then .ok (joinSurrogates high low, rest)
            else fail .loneSurrogate rest

theorem readLowSurrogate_shorter {high : Nat} {bs : Bytes} {p : Char × Bytes}
    (h : readLowSurrogate high bs = .ok p) : p.2.length < bs.length := by
  unfold readLowSurrogate at h
  repeat' split at h
  all_goals simp only [fail, reduceCtorEq, Except.ok.injEq] at h
  next hr _ =>
    have := readHex_shorter hr
    rw [← h]
    simp only [List.length_cons] at this ⊢
    omega

/-- A character given by its number, after the `u`. -/
def readUnicode (bs : Bytes) : Except Fault (Char × Bytes) :=
  match readHex bs with
  | .error f => .error f
  | .ok (n, rest) =>
    if isLowSurrogate n then fail .loneSurrogate rest
    else if isHighSurrogate n then readLowSurrogate n rest
    else .ok (Char.ofNat n, rest)

theorem readUnicode_shorter {bs : Bytes} {p : Char × Bytes} (h : readUnicode bs = .ok p) :
    p.2.length < bs.length := by
  unfold readUnicode at h
  repeat' split at h
  · cases h
  · cases h
  · next hr _ _ =>
    have h1 := readHex_shorter hr
    have h2 := readLowSurrogate_shorter h
    simp at h1
    omega
  · next hr _ _ =>
    cases h
    exact readHex_shorter hr

/-- The character that a letter after a backslash stands for. -/
def shortEscape? (b : UInt8) : Option Char :=
  if b = 0x22 then some '"'
  else if b = 0x5C then some '\\'
  else if b = 0x2F then some '/'
  else if b = 0x62 then some '\x08'
  else if b = 0x66 then some '\x0c'
  else if b = 0x6E then some '\n'
  else if b = 0x72 then some '\r'
  else if b = 0x74 then some '\t'
  else none

/-- What follows a backslash. -/
def readEscape : Bytes → Except Fault (Char × Bytes)
  | [] => fail .endOfText []
  | b :: rest =>
    if b = 0x75 then readUnicode rest
    else
      match shortEscape? b with
      | some c => .ok (c, rest)
      | none => fail .badEscape rest

theorem readEscape_shorter {bs : Bytes} {p : Char × Bytes} (h : readEscape bs = .ok p) :
    p.2.length < bs.length := by
  unfold readEscape at h
  repeat' split at h
  · cases h
  · have := readUnicode_shorter h
    simp only [List.length_cons]
    omega
  · cases h
    simp
  · cases h

/-- The bytes of a text up to its closing mark, with the bytes read so far in reverse. -/
def readTextFrom (done : Bytes) : Bytes → Except Fault (Bytes × Bytes)
  | [] => fail .endOfText []
  | b :: rest =>
    if b = 0x22 then .ok (done.reverse, rest)
    else if b = 0x5C then
      match _h : readEscape rest with
      | .error f => .error f
      | .ok (c, rest') => readTextFrom ((Utf8.encodeChar c).reverse ++ done) rest'
    else if b < 0x20 then fail .controlCharacter rest
    else readTextFrom (b :: done) rest
termination_by bs => bs.length
decreasing_by
  · have h : rest'.length < rest.length := readEscape_shorter _h
    simp only [List.length_cons]
    omega
  · simp

theorem readTextFrom_shorter {done bs : Bytes} {p : Bytes × Bytes}
    (h : readTextFrom done bs = .ok p) : p.2.length < bs.length := by
  fun_induction readTextFrom done bs with
  | case1 => cases h
  | case2 => cases h; simp
  | case3 => cases h
  | case4 done rest c rest' hr _ ih =>
    have h1 : rest'.length < rest.length := readEscape_shorter hr
    have h2 := ih h
    simp only [List.length_cons]
    omega
  | case5 => cases h
  | case6 done b rest _ _ _ ih =>
    have := ih h
    simp only [List.length_cons]
    omega

/-- The last `n` bytes. -/
def lastBytes (n : Nat) (bs : Bytes) : Bytes := bs.drop (bs.length - n)

/-- A text, after its opening mark. It is read to its end before it is looked at whether its bytes
are well formed. The place of the first ill-formed one is found by counting from behind the closing
mark back over the bytes of the text that come after its well-formed front; so it is further on where
these bytes were written by escapes. -/
def readText (bs : Bytes) : Except Fault (String × Bytes) :=
  match readTextFrom [] bs with
  | .error f => .error f
  | .ok (text, rest) =>
    match Utf8.toString text with
    | .ok s => .ok (s, rest)
    | .error f => fail .badUtf8 (lastBytes (rest.length + (text.length - f.start)) bs)

theorem readText_shorter {bs : Bytes} {p : String × Bytes} (h : readText bs = .ok p) :
    p.2.length < bs.length := by
  unfold readText at h
  repeat' split at h
  all_goals cases h
  next hr _ _ _ => exact readTextFrom_shorter hr

/-! ## Numbers -/

/-- A number: an integer that fits into 64 bits, or else a floating point number. -/
inductive Number where
  | int (n : Int)
  | float (x : Float)

/-- Whether a byte is a digit. -/
def isDigit (b : UInt8) : Bool := 0x30 ≤ b && b ≤ 0x39

/-- The largest natural number that is read exactly, plus one. -/
def wordBound : Nat := UInt64.size

/-- Read digits after those of `n` while the number stays below `wordBound`. Returns the number and
how many digits were left out. -/
def absorb (n : Nat) : Bytes → Nat × Nat
  | [] => (n, 0)
  | d :: ds =>
    let n' := 10 * n + (d.toNat - 0x30)
    if n' < wordBound then absorb n' ds else (n, ds.length + 1)

/-- `10 ^ k` as a floating point number. -/
def powerOfTen (k : Nat) : Float := Float.ofScientific 1 false k

/-- Divide by `10 ^ k`, in steps of at most `10 ^ 308`. -/
def scaleDown (x : Float) (k : Nat) : Float :=
  if k ≤ 308 then x / powerOfTen k
  else if x == 0.0 then x
  else scaleDown (x / powerOfTen 308) (k - 308)
termination_by k

/-- Multiply by `10 ^ k`; `none` if the result is too large. -/
def scaleUp? (x : Float) (k : Nat) : Option Float :=
  if k ≤ 308 then
    let y := x * powerOfTen k
    if y.isInf then none else some y
  else if x == 0.0 then some x
  else none

/-- The floating point number `n · 10 ^ e`. -/
def floatOfParts (negative : Bool) (n : Nat) (e : Int) (rest : Bytes) :
    Except Fault (Number × Bytes) :=
  let x := (UInt64.ofNat n).toFloat
  let scaled := if 0 ≤ e then scaleUp? x e.toNat else some (scaleDown x (-e).toNat)
  match scaled with
  | some y => .ok (.float (if negative then -y else y), rest)
  | none => fail .numberTooLarge rest

/-- The digits of an exponent. `none` if they become too many, together with what follows the digit
that was too much. -/
def exponentDigits (e : Nat) : Bytes → Option Nat × Bytes
  | [] => (some e, [])
  | b :: rest =>
    if isDigit b then
      let e' := 10 * e + (b.toNat - 0x30)
      if e' < UInt32.size / 2 then exponentDigits e' rest else (none, rest)
    else (some e, b :: rest)

/-- The sign of an exponent, as whether it is negative. -/
def exponentSign : Bytes → Bool × Bytes
  | 0x2B :: rest => (false, rest)
  | 0x2D :: rest => (true, rest)
  | rest => (false, rest)

/-- An exponent, after its letter. -/
def readExponent (negative : Bool) (n : Nat) (e : Int) (bs : Bytes) :
    Except Fault (Number × Bytes) :=
  match exponentSign bs with
  | (_, []) => fail .endOfValue []
  | (down, b :: rest) =>
    if !isDigit b then fail .badNumber rest
    else
      match exponentDigits (b.toNat - 0x30) rest with
      | (some k, rest) => floatOfParts negative n (if down then e - k else e + k) rest
      | (none, rest) =>
        if n ≠ 0 && !down then fail .numberTooLarge rest
        else .ok (.float (if negative then -0.0 else 0.0), rest.dropWhile isDigit)

/-- The digits after the point. -/
def readFraction (negative : Bool) (n : Nat) (e : Int) (bs : Bytes) :
    Except Fault (Number × Bytes) :=
  let digits := bs.takeWhile isDigit
  match digits, bs.dropWhile isDigit with
  | [], [] => fail .endOfValue []
  | [], _ :: rest => fail .badNumber rest
  | _ :: _, rest =>
    let (n', left) := absorb n digits
    let e' := e - (digits.length - left)
    match rest with
    | 0x65 :: rest => readExponent negative n' e' rest
    | 0x45 :: rest => readExponent negative n' e' rest
    | _ => floatOfParts negative n' e' rest

/-- What follows the digits of an integer `n`, of which the last `left` had to be left out. -/
def finishNumber (negative : Bool) (n left : Nat) : Bytes → Except Fault (Number × Bytes)
  | 0x2E :: rest => readFraction negative n left rest
  | 0x65 :: rest => readExponent negative n left rest
  | 0x45 :: rest => readExponent negative n left rest
  | rest =>
    if left ≠ 0 then floatOfParts negative n left rest
    else if !negative then .ok (.int n, rest)
    else if n = 0 || UInt64.size / 2 < n then .ok (.float (-(UInt64.ofNat n).toFloat), rest)
    else .ok (.int (-(n : Int)), rest)

/-- A number, after its minus sign. -/
def readNumber (negative : Bool) : Bytes → Except Fault (Number × Bytes)
  | [] => fail .endOfValue []
  | b :: rest =>
    if b = 0x30 then
      match rest with
      | d :: rest =>
        if isDigit d then fail .badNumber rest else finishNumber negative 0 0 (d :: rest)
      | [] => finishNumber negative 0 0 []
    else if isDigit b then
      let (n, left) := absorb 0 (b :: rest.takeWhile isDigit)
      finishNumber negative n left (rest.dropWhile isDigit)
    else fail .badNumber rest

theorem floatOfParts_rest {negative : Bool} {n : Nat} {e : Int} {bs : Bytes} {p : Number × Bytes}
    (h : floatOfParts negative n e bs = .ok p) : p.2 = bs := by
  unfold floatOfParts at h
  dsimp only at h
  split at h <;> cases h
  rfl

theorem length_exponentDigits_le (e : Nat) (bs : Bytes) :
    (exponentDigits e bs).2.length ≤ bs.length := by
  induction bs generalizing e with
  | nil => simp [exponentDigits]
  | cons b bs ih =>
    rw [exponentDigits]
    dsimp only
    repeat' split
    · have := ih (10 * e + (b.toNat - 0x30))
      simp only [List.length_cons]
      omega
    · simp
    · simp

theorem length_exponentSign_le (bs : Bytes) : (exponentSign bs).2.length ≤ bs.length := by
  unfold exponentSign
  split <;> simp

theorem readExponent_shorter {negative : Bool} {n : Nat} {e : Int} {bs : Bytes}
    {p : Number × Bytes} (h : readExponent negative n e bs = .ok p) : p.2.length < bs.length := by
  unfold readExponent at h
  have hsign := length_exponentSign_le bs
  split at h
  · cases h
  · next down b rest hs =>
    rw [hs] at hsign
    simp only [List.length_cons] at hsign
    split at h
    · cases h
    · have hdigits := length_exponentDigits_le (b.toNat - 0x30) rest
      split at h
      · next k rest' hd =>
        rw [hd] at hdigits
        rw [floatOfParts_rest h]
        simp only at hdigits
        omega
      · next rest' hd =>
        rw [hd] at hdigits
        simp only at hdigits
        split at h
        · cases h
        · cases h
          have := length_dropWhile_le isDigit rest'
          simp only
          omega

theorem readFraction_shorter {negative : Bool} {n : Nat} {e : Int} {bs : Bytes}
    {p : Number × Bytes} (h : readFraction negative n e bs = .ok p) : p.2.length ≤ bs.length := by
  unfold readFraction at h
  have hle := length_dropWhile_le isDigit bs
  dsimp only at h
  split at h
  · cases h
  · cases h
  · split at h
    · next hr =>
      have := readExponent_shorter h
      rw [hr] at hle
      simp only [List.length_cons] at hle
      omega
    · next hr =>
      have := readExponent_shorter h
      rw [hr] at hle
      simp only [List.length_cons] at hle
      omega
    · rw [floatOfParts_rest h]
      exact hle

theorem finishNumber_shorter {negative : Bool} {n left : Nat} {bs : Bytes} {p : Number × Bytes}
    (h : finishNumber negative n left bs = .ok p) : p.2.length ≤ bs.length := by
  unfold finishNumber at h
  split at h
  · have := readFraction_shorter h
    simp only [List.length_cons]
    omega
  · have := readExponent_shorter h
    simp only [List.length_cons]
    omega
  · have := readExponent_shorter h
    simp only [List.length_cons]
    omega
  · repeat' split at h
    · exact Nat.le_of_eq (congrArg List.length (floatOfParts_rest h))
    · cases h
      exact Nat.le_refl _
    · cases h
      exact Nat.le_refl _
    · cases h
      exact Nat.le_refl _

theorem readNumber_shorter {negative : Bool} {bs : Bytes} {p : Number × Bytes}
    (h : readNumber negative bs = .ok p) : p.2.length < bs.length := by
  unfold readNumber at h
  split at h
  · cases h
  · next b rest =>
    split at h
    · split at h
      · split at h
        · cases h
        · have := finishNumber_shorter h
          simp only [List.length_cons] at this ⊢
          omega
      · have := finishNumber_shorter h
        simp only [List.length_nil] at this
        simp only [List.length_cons]
        omega
    · split at h
      · have h1 := finishNumber_shorter h
        have h2 := length_dropWhile_le isDigit rest
        simp only [List.length_cons]
        omega
      · cases h

end LikedYou.Json
