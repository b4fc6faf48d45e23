import LikedYou.Json.Scan

/-!
# Values that are passed over

The value of a field that a record does not have is passed over. Nothing is built, and any depth of
nesting is allowed: the brackets that are open are kept in a list.

`skipItems` is called where a value is to begin, inside the open brackets. After each value
`closeBrackets` closes as many brackets as it finds closed, and stops before the next value.
-/

namespace LikedYou.Json

/-! ## Texts and numbers -/

/-- Pass over what follows a backslash. -/
def skipEscape : Bytes → Except Fault Bytes
  | [] => fail .endOfText []
  | b :: rest =>
    if b = 0x75 then (readHex rest).map Prod.snd
    else if (shortEscape? b).isSome then .ok rest
    else fail .badEscape rest

theorem skipEscape_shorter {bs rest : Bytes} (h : skipEscape bs = .ok rest) :
    rest.length < bs.length := by
  unfold skipEscape at h
  repeat' split at h
  · cases h
  · next b r _ =>
    cases hr : readHex r with
    | error f => simp [hr, Except.map] at h
    | ok p =>
      have hlt := readHex_shorter hr
      simp [hr, Except.map] at h
      subst h
      simp only [List.length_cons]
      omega
  · cases h
    simp
  · cases h

/-- Pass over a text, after its opening mark. -/
def skipText : Bytes → Except Fault Bytes
  | [] => fail .endOfText []
  | b :: rest =>
    if b = 0x22 then .ok rest
    else if b = 0x5C then
      match _h : skipEscape rest with
      | .error f => .error f
      | .ok rest' => skipText rest'
    else if b < 0x20 then fail .controlCharacter (b :: rest)
    else skipText rest
termination_by bs => bs.length
decreasing_by
  · have h : rest'.length < rest.length := skipEscape_shorter _h
    simp only [List.length_cons]
    omega
  · simp

theorem skipText_shorter {bs rest : Bytes} (h : skipText bs = .ok rest) :
    rest.length < bs.length := by
  fun_induction skipText bs with
  | case1 => cases h
  | case2 => cases h; simp
  | case3 => cases h
  | case4 r r' hr _ ih =>
    have h1 : r'.length < r.length := skipEscape_shorter hr
    have h2 := ih h
    simp only [List.length_cons]
    omega
  | case5 => cases h
  | case6 b r _ _ _ ih =>
    have := ih h
    simp only [List.length_cons]
    omega

/-- Pass over an exponent, after its letter. -/
def skipExponent (bs : Bytes) : Except Fault Bytes :=
  match (exponentSign bs).2 with
  | [] => fail .badNumber []
  | b :: rest => if isDigit b then .ok (rest.dropWhile isDigit) else fail .badNumber rest

/-- Pass over what follows the digits of a number. -/
def skipExponentIfAny : Bytes → Except Fault Bytes
  | 0x65 :: rest => skipExponent rest
  | 0x45 :: rest => skipExponent rest
  | rest => .ok rest

/-- Pass over the digits after the point, and what follows them. -/
def skipFraction (bs : Bytes) : Except Fault Bytes :=
  if (bs.takeWhile isDigit).isEmpty then fail .badNumber bs.tail
  else skipExponentIfAny (bs.dropWhile isDigit)

/-- Pass over what follows the digits of an integer. -/
def skipFractionIfAny : Bytes → Except Fault Bytes
  | 0x2E :: rest => skipFraction rest
  | rest => skipExponentIfAny rest

/-- Pass over a number, after its minus sign. -/
def skipNumber : Bytes → Except Fault Bytes
  | [] => fail .badNumber []
  | b :: rest =>
    if b = 0x30 then
      match rest with
      | d :: rest => if isDigit d then fail .badNumber rest else skipFractionIfAny (d :: rest)
      | [] => .ok []
    else if isDigit b then skipFractionIfAny (rest.dropWhile isDigit)
    else fail .badNumber rest

theorem skipExponent_shorter {bs rest : Bytes} (h : skipExponent bs = .ok rest) :
    rest.length ≤ bs.length := by
  unfold skipExponent at h
  have hsign := length_exponentSign_le bs
  split at h
  · cases h
  · next b r hs =>
    rw [hs] at hsign
    split at h
    · cases h
      have := length_dropWhile_le isDigit r
      simp only [List.length_cons] at hsign
      omega
    · cases h

theorem skipExponentIfAny_shorter {bs rest : Bytes} (h : skipExponentIfAny bs = .ok rest) :
    rest.length ≤ bs.length := by
  unfold skipExponentIfAny at h
  split at h
  · have := skipExponent_shorter h
    simp only [List.length_cons]
    omega
  · have := skipExponent_shorter h
    simp only [List.length_cons]
    omega
  · cases h
    exact Nat.le_refl _

theorem skipFractionIfAny_shorter {bs rest : Bytes} (h : skipFractionIfAny bs = .ok rest) :
    rest.length ≤ bs.length := by
  unfold skipFractionIfAny at h
  split at h
  · next r =>
    unfold skipFraction at h
    split at h
    · cases h
    · have h1 := skipExponentIfAny_shorter h
      have h2 := length_dropWhile_le isDigit r
      simp only [List.length_cons]
      omega
  · exact skipExponentIfAny_shorter h

theorem skipNumber_shorter {bs rest : Bytes} (h : skipNumber bs = .ok rest) :
    rest.length < bs.length := by
  unfold skipNumber at h
  repeat' split at h
  · cases h
  · cases h
  · have := skipFractionIfAny_shorter h
    simp only [List.length_cons] at this ⊢
    omega
  · cases h
    simp
  · next b r _ _ =>
    have h1 := skipFractionIfAny_shorter h
    have h2 := length_dropWhile_le isDigit r
    simp only [List.length_cons]
    omega
  · cases h

/-! ## Lists and objects -/

/-- The kinds of brackets. -/
inductive Bracket where
  | list
  | object
  deriving DecidableEq

namespace Bracket

/-- The byte that closes a bracket. -/
def closing : Bracket → UInt8
  | list => 0x5D
  | object => 0x7D

/-- What is missing if the text ends inside a bracket. -/
def atEnd : Bracket → Cause
  | list => .endOfList
  | object => .endOfObject

/-- What is missing if a value is followed by something else than a comma. -/
def commaWanted : Bracket → Cause
  | list => .listCommaWanted
  | object => .objectCommaWanted

/-- Go to where the next value begins: in an object, past its name and the colon. -/
def toValue : Bracket → Bytes → Except Fault Bytes
  | list, bs => .ok bs
  | object, bs =>
    match skipBlanks bs with
    | [] => fail .endOfObject []
    | b :: rest =>
      if b ≠ 0x22 then fail .keyWanted rest
      else
        match skipText rest with
        | .error f => .error f
        | .ok rest =>
          match skipBlanks rest with
          | [] => fail .endOfObject []
          | c :: rest => if c = 0x3A then .ok rest else fail .colonWanted rest

theorem toValue_shorter {k : Bracket} {bs rest : Bytes} (h : k.toValue bs = .ok rest) :
    rest.length ≤ bs.length := by
  have h0 := length_skipBlanks_le bs
  cases k with
  | list =>
    cases h
    exact Nat.le_refl _
  | object =>
    rw [toValue] at h
    split at h
    · cases h
    · next b r hb =>
      rw [hb] at h0
      simp only [List.length_cons] at h0
      split at h
      · cases h
      · split at h
        · cases h
        · next r' hr =>
          have h1 := skipText_shorter hr
          have h2 := length_skipBlanks_le r'
          split at h
          · cases h
          · next c r'' hc =>
            rw [hc] at h2
            simp only [List.length_cons] at h2
            split at h
            · cases h
              omega
            · cases h

end Bracket

/-- After a value inside the open brackets: close those that are closed here. What is returned are
the brackets still open; if there are any, the next value of the innermost one begins. -/
def closeBrackets : List Bracket → Bytes → Except Fault (List Bracket × Bytes)
  | [], bs => .ok ([], bs)
  | k :: outer, bs =>
    match skipBlanks bs with
    | [] => fail k.atEnd []
    | b :: rest =>
      if b = 0x2C then (k.toValue rest).map fun rest => (k :: outer, rest)
      else if b = k.closing then closeBrackets outer rest
      else fail k.commaWanted rest

theorem closeBrackets_shorter {ks : List Bracket} {bs : Bytes} {p : List Bracket × Bytes}
    (h : closeBrackets ks bs = .ok p) : p.2.length ≤ bs.length := by
  induction ks generalizing bs with
  | nil => cases h; exact Nat.le_refl _
  | cons k outer ih =>
    rw [closeBrackets] at h
    have h0 := length_skipBlanks_le bs
    split at h
    · cases h
    · next b r hb =>
      rw [hb] at h0
      simp only [List.length_cons] at h0
      split at h
      · cases hr : k.toValue r with
        | error f => simp [hr, Except.map] at h
        | ok r' =>
          have h1 := Bracket.toValue_shorter hr
          simp [hr, Except.map] at h
          subst h
          simp only
          omega
      · split at h
        · have h1 := ih h
          omega
        · cases h

/-- After an opening bracket, inside the open ones. -/
def openBracket (k : Bracket) (outer : List Bracket) (bs : Bytes) :
    Except Fault (List Bracket × Bytes) :=
  match skipBlanks bs with
  | [] => fail k.atEnd []
  | b :: rest =>
    if b = k.closing then closeBrackets outer rest
    else (k.toValue (b :: rest)).map fun rest => (k :: outer, rest)

theorem openBracket_shorter {k : Bracket} {ks : List Bracket} {bs : Bytes}
    {p : List Bracket × Bytes} (h : openBracket k ks bs = .ok p) : p.2.length ≤ bs.length := by
  unfold openBracket at h
  have h0 := length_skipBlanks_le bs
  split at h
  · cases h
  · next b r hb =>
    rw [hb] at h0
    split at h
    · have h1 := closeBrackets_shorter h
      simp only [List.length_cons] at h0
      omega
    · cases hr : k.toValue (b :: r) with
      | error f => simp [hr, Except.map] at h
      | ok r' =>
        have h1 := Bracket.toValue_shorter hr
        simp [hr, Except.map] at h
        subst h
        simp only
        omega

/-- Pass over a word, a text or a number that begins with `b`. -/
def skipScalar (b : UInt8) (rest : Bytes) : Except Fault Bytes :=
  if b = 0x6E then readWord afterN rest
  else if b = 0x74 then readWord afterT rest
  else if b = 0x66 then readWord afterF rest
  else if b = 0x22 then skipText rest
  else if b = 0x2D then skipNumber rest
  else if isDigit b then skipNumber (b :: rest)
  else fail .valueWanted rest

theorem skipScalar_shorter {b : UInt8} {bs rest : Bytes} (h : skipScalar b bs = .ok rest) :
    rest.length ≤ bs.length := by
  unfold skipScalar at h
  repeat' split at h
  · exact readWord_shorter h
  · exact readWord_shorter h
  · exact readWord_shorter h
  · exact Nat.le_of_lt (skipText_shorter h)
  · exact Nat.le_of_lt (skipNumber_shorter h)
  · have := skipNumber_shorter h
    simp only [List.length_cons] at this
    omega
  · cases h

/-- Pass over one value or one opening bracket, and the brackets that are closed after it. -/
def skipStart (outer : List Bracket) (bs : Bytes) : Except Fault (List Bracket × Bytes) :=
  match skipBlanks bs with
  | [] => fail .endOfValue []
  | b :: rest =>
    if b = 0x5B then openBracket .list outer rest
    else if b = 0x7B then openBracket .object outer rest
    else
      match skipScalar b rest with
      | .error f => .error f
      | .ok rest => closeBrackets outer rest

theorem skipStart_shorter {ks : List Bracket} {bs : Bytes} {p : List Bracket × Bytes}
    (h : skipStart ks bs = .ok p) : p.2.length < bs.length := by
  unfold skipStart at h
  have h0 := length_skipBlanks_le bs
  split at h
  · cases h
  · next b r hb =>
    rw [hb] at h0
    simp only [List.length_cons] at h0
    split at h
    · have := openBracket_shorter h
      omega
    · split at h
      · have := openBracket_shorter h
        omega
      · split at h
        · cases h
        · next r' hr =>
          have h1 := skipScalar_shorter hr
          have h2 := closeBrackets_shorter h
          omega

/-- Pass over values until all brackets are closed. -/
def skipItems (outer : List Bracket) (bs : Bytes) : Except Fault Bytes :=
  match _h : skipStart outer bs with
  | .error f => .error f
  | .ok ([], rest) => .ok rest
  | .ok (k :: ks, rest) => skipItems (k :: ks) rest
termination_by bs.length
decreasing_by
  exact skipStart_shorter _h

theorem skipItems_shorter {ks : List Bracket} {bs rest : Bytes} (h : skipItems ks bs = .ok rest) :
    rest.length < bs.length := by
  fun_induction skipItems ks bs with
  | case1 => cases h
  | case2 ks bs r hr =>
    cases h
    exact skipStart_shorter hr
  | case3 ks bs k ks' r hr ih =>
    have h1 := skipStart_shorter hr
    have h2 := ih h
    simp only at h1
    omega

/-- Pass over one value. -/
def skipValue (bs : Bytes) : Except Fault Bytes := skipItems [] bs

theorem skipValue_shorter {bs rest : Bytes} (h : skipValue bs = .ok rest) :
    rest.length < bs.length := skipItems_shorter h

end LikedYou.Json
