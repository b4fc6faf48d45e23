import LikedYou.Json.Fault
import LikedYou.Json.Scan

/-!
# Readers of values

A document is read in one pass over its bytes, guided by the shape that is wanted, so the first
fault met on the way is the one reported. Here are the readers of single values: truth values,
texts, numbers, timestamps, one of some names, and a value that may be `null`.

## Termination

A `Reader` carries the proof that it uses up at least one byte, and that is what bounds the loops
over items and members.
-/

namespace LikedYou.Json

/-- A way to read a value from the front of a byte string, using up at least one byte. -/
structure Reader (α : Type) where
  run : Bytes → Except Fault (α × Bytes)
  shorter : ∀ {bs : Bytes} {p : α × Bytes}, run bs = .ok p → p.2.length < bs.length

/-! ## Plain values -/

/-- The fault of finding something else than `wanted`. -/
def mismatch (wanted : String) : Bytes → Fault
  | [] => ⟨.valueWanted, [], []⟩
  | b :: rest =>
    let word (rest : Except Fault Bytes) (found : Found) : Fault :=
      match rest with
      | .error f => f
      | .ok rest => ⟨.mismatch found wanted, rest, []⟩
    let number (read : Except Fault (Number × Bytes)) : Fault :=
      match read with
      | .error f => f
      | .ok (.int n, rest) => ⟨.mismatch (.int n) wanted, rest, []⟩
      | .ok (.float x, rest) => ⟨.mismatch (.float x) wanted, rest, []⟩
    if b = 0x6E then word (readWord afterN rest) .null
    else if b = 0x74 then word (readWord afterT rest) (.flag true)
    else if b = 0x66 then word (readWord afterF rest) (.flag false)
    else if b = 0x2D then number (readNumber true rest)
    else if isDigit b then number (readNumber false (b :: rest))
    else if b = 0x22 then
      match readText rest with
      | .error f => f
      | .ok (s, rest) => ⟨.mismatch (.text s) wanted, rest, []⟩
    else if b = 0x5B then ⟨.mismatch .list wanted, b :: rest, []⟩
    else if b = 0x7B then ⟨.mismatch .object wanted, b :: rest, []⟩
    else ⟨.valueWanted, rest, []⟩

/-- Read a value by its first byte, after blanks. -/
def readStart {α : Type} (read : UInt8 → Bytes → Except Fault (α × Bytes)) (bs : Bytes) :
    Except Fault (α × Bytes) :=
  match skipBlanks bs with
  | [] => fail .endOfValue []
  | b :: rest => read b rest

theorem readStart_shorter {α : Type} {read : UInt8 → Bytes → Except Fault (α × Bytes)}
    (hread : ∀ {b rest p}, read b rest = .ok p → p.2.length ≤ rest.length) {bs : Bytes}
    {p : α × Bytes} (h : readStart read bs = .ok p) : p.2.length < bs.length := by
  unfold readStart at h
  have h0 := length_skipBlanks_le bs
  split at h
  · cases h
  · next b rest hb =>
    rw [hb] at h0
    simp only [List.length_cons] at h0
    have := hread h
    omega

/-- A reader that decides by the first byte of the value. -/
def Reader.ofStart {α : Type} (read : UInt8 → Bytes → Except Fault (α × Bytes))
    (hread : ∀ {b rest p}, read b rest = .ok p → p.2.length ≤ rest.length) : Reader α :=
  ⟨readStart read, readStart_shorter hread⟩

/-- A truth value that begins with `b`. -/
def readFlag (b : UInt8) (rest : Bytes) : Except Fault (Bool × Bytes) :=
  if b = 0x74 then (readWord afterT rest).map fun rest => (true, rest)
  else if b = 0x66 then (readWord afterF rest).map fun rest => (false, rest)
  else .error (mismatch "a boolean" (b :: rest))

/-- A text that begins with `b`. -/
def readTextOr (wanted : String) (b : UInt8) (rest : Bytes) : Except Fault (String × Bytes) :=
  if b = 0x22 then readText rest else .error (mismatch wanted (b :: rest))

/-- A number that begins with `b`. -/
def readNumberOr (wanted : String) (b : UInt8) (rest : Bytes) : Except Fault (Number × Bytes) :=
  if b = 0x2D then readNumber true rest
  else if isDigit b then readNumber false (b :: rest)
  else .error (mismatch wanted (b :: rest))

/-- An integer from `low` to `high` that begins with `b`. -/
def readIntIn (wanted : String) (low high : Int) (b : UInt8) (rest : Bytes) :
    Except Fault (Int × Bytes) :=
  match readNumberOr wanted b rest with
  | .error f => .error f
  | .ok (.int n, rest) =>
    if low ≤ n && n ≤ high then .ok (n, rest) else fail (.outOfRange n wanted) rest
  | .ok (.float x, rest) => fail (.mismatch (.float x) wanted) rest

/-- A floating point number that begins with `b`. -/
def readFloat (b : UInt8) (rest : Bytes) : Except Fault (Float × Bytes) :=
  match readNumberOr "f64" b rest with
  | .error f => .error f
  | .ok (.int n, rest) =>
    let x := (UInt64.ofNat n.natAbs).toFloat
    .ok (if n < 0 then -x else x, rest)
  | .ok (.float x, rest) => .ok (x, rest)

/-- A timestamp that begins with `b`. -/
def readTime (b : UInt8) (rest : Bytes) : Except Fault (Time.Timestamp × Bytes) :=
  match readTextOr "an RFC 3339 formatted date and time string" b rest with
  | .error f => .error f
  | .ok (s, rest) =>
    match Time.Rfc3339.read s.toList with
    | .ok t => .ok (t, rest)
    | .error f => fail (.badTime f) rest

theorem map_shorter {α β : Type} {r : Except Fault (α × Bytes)} {f : α → β} {n : Nat}
    (hr : ∀ {q : α × Bytes}, r = .ok q → q.2.length < n) {p : β × Bytes}
    (h : (r.map fun (a, rest) => (f a, rest)) = .ok p) : p.2.length < n := by
  cases hq : r with
  | error e => simp [hq, Except.map] at h
  | ok q =>
    simp only [hq, Except.map, Except.ok.injEq] at h
    subst h
    exact hr hq

/-- Read a value and turn it into another one. -/
def Reader.map {α β : Type} (f : α → β) (r : Reader α) : Reader β :=
  ⟨fun bs => (r.run bs).map fun (a, rest) => (f a, rest), fun h => map_shorter r.shorter h⟩

theorem readFlag_shorter {b : UInt8} {rest : Bytes} {p : Bool × Bytes}
    (h : readFlag b rest = .ok p) : p.2.length ≤ rest.length := by
  unfold readFlag at h
  split at h
  · cases hr : readWord afterT rest with
    | error f => simp [hr, Except.map] at h
    | ok r =>
      simp [hr, Except.map] at h
      subst h
      exact readWord_shorter hr
  · split at h
    · cases hr : readWord afterF rest with
      | error f => simp [hr, Except.map] at h
      | ok r =>
        simp [hr, Except.map] at h
        subst h
        exact readWord_shorter hr
    · cases h

theorem readTextOr_shorter {wanted : String} {b : UInt8} {rest : Bytes} {p : String × Bytes}
    (h : readTextOr wanted b rest = .ok p) : p.2.length ≤ rest.length := by
  unfold readTextOr at h
  split at h
  · exact Nat.le_of_lt (readText_shorter h)
  · cases h

theorem readNumberOr_shorter {wanted : String} {b : UInt8} {rest : Bytes} {p : Number × Bytes}
    (h : readNumberOr wanted b rest = .ok p) : p.2.length ≤ rest.length := by
  unfold readNumberOr at h
  repeat' split at h
  · exact Nat.le_of_lt (readNumber_shorter h)
  · have := readNumber_shorter h
    simp only [List.length_cons] at this
    omega
  · cases h

theorem readIntIn_shorter {wanted : String} {low high : Int} {b : UInt8} {rest : Bytes}
    {p : Int × Bytes} (h : readIntIn wanted low high b rest = .ok p) :
    p.2.length ≤ rest.length := by
  unfold readIntIn at h
  repeat' split at h
  · cases h
  · next hr _ =>
    cases h
    exact readNumberOr_shorter hr
  · cases h
  · cases h

theorem readFloat_shorter {b : UInt8} {rest : Bytes} {p : Float × Bytes}
    (h : readFloat b rest = .ok p) : p.2.length ≤ rest.length := by
  unfold readFloat at h
  split at h
  · cases h
  · next hr =>
    cases h
    exact readNumberOr_shorter hr
  · next hr =>
    cases h
    exact readNumberOr_shorter hr

theorem readTime_shorter {b : UInt8} {rest : Bytes} {p : Time.Timestamp × Bytes}
    (h : readTime b rest = .ok p) : p.2.length ≤ rest.length := by
  unfold readTime at h
  repeat' split at h
  · cases h
  · next hr _ _ _ =>
    cases h
    exact readTextOr_shorter hr
  · cases h

namespace Reader

def flag : Reader Bool := ofStart readFlag readFlag_shorter

def text : Reader String := ofStart (readTextOr "a string") readTextOr_shorter

def float : Reader Float := ofStart readFloat readFloat_shorter

def time : Reader Time.Timestamp := ofStart readTime readTime_shorter

/-- An integer from `low` to `high`. -/
def intIn (wanted : String) (low high : Int) : Reader Int :=
  ofStart (readIntIn wanted low high) readIntIn_shorter

def int64 : Reader Int64 :=
  (intIn "i64" Int64.minValue.toInt Int64.maxValue.toInt).map Int64.ofInt

def int32 : Reader Int32 :=
  (intIn "i32" Int32.minValue.toInt Int32.maxValue.toInt).map Int32.ofInt

def uint64 : Reader UInt64 :=
  (intIn "u64" 0 (UInt64.size - 1)).map fun n => UInt64.ofNat n.toNat

end Reader

/-! ## One of some names -/

/-- One of some names, after the mark that opens it. -/
def readName (names : List String) (rest : Bytes) : Except Fault (Fin names.length × Bytes) :=
  match readText rest with
  | .error f => .error f
  | .ok (s, rest) =>
    match names.findFinIdx? (· = s) with
    | some i => .ok (i, rest)
    | none => fail (.unknownName s names) rest

/-- The second half of a name that is given as the only field of an object whose value is `null`:
the colon, the value and the closing bracket. -/
def readNullField (bs : Bytes) : Except Fault Bytes :=
  match skipBlanks bs with
  | [] => fail .endOfObject []
  | b :: rest =>
    if b ≠ 0x3A then fail .colonWanted rest
    else
      match skipBlanks rest with
      | [] => fail .endOfValue []
      | b :: rest =>
        if b ≠ 0x6E then .error (mismatch "unit" (b :: rest))
        else
          match readWord afterN rest with
          | .error f => .error f
          | .ok rest =>
            match skipBlanks rest with
            | [] => fail .endOfObject []
            | b :: rest => if b = 0x7D then .ok rest else fail .valueWanted (b :: rest)

/-- One of some names, given as a text or as the only field of an object. -/
def readChoice (names : List String) (b : UInt8) (rest : Bytes) :
    Except Fault (Fin names.length × Bytes) :=
  if b = 0x22 then readName names rest
  else if b = 0x7B then
    match skipBlanks rest with
    | [] => fail .endOfObject []
    | b :: rest =>
      if b = 0x22 then
        match readName names rest with
        | .error f => .error f
        | .ok (i, rest) => (readNullField rest).map fun rest => (i, rest)
      else if b = 0x7D then fail .valueWanted rest
      else fail .keyWanted rest
  else fail .valueWanted rest

theorem readName_shorter {names : List String} {bs : Bytes} {p : Fin names.length × Bytes}
    (h : readName names bs = .ok p) : p.2.length < bs.length := by
  unfold readName at h
  repeat' split at h
  · cases h
  · next hr _ _ _ =>
    cases h
    exact readText_shorter hr
  · cases h

theorem readNullField_shorter {bs rest : Bytes} (h : readNullField bs = .ok rest) :
    rest.length ≤ bs.length := by
  unfold readNullField at h
  have h0 := length_skipBlanks_le bs
  split at h
  · cases h
  · next b r hb =>
    rw [hb] at h0
    simp only [List.length_cons] at h0
    split at h
    · cases h
    · have h1 := length_skipBlanks_le r
      split at h
      · cases h
      · next b r' hb =>
        rw [hb] at h1
        simp only [List.length_cons] at h1
        split at h
        · cases h
        · split at h
          · cases h
          · next r'' hr =>
            have h2 := readWord_shorter hr
            have h3 := length_skipBlanks_le r''
            split at h
            · cases h
            · next b r''' hb =>
              rw [hb] at h3
              simp only [List.length_cons] at h3
              split at h
              · cases h
                omega
              · cases h

theorem readChoice_shorter {names : List String} {b : UInt8} {rest : Bytes}
    {p : Fin names.length × Bytes} (h : readChoice names b rest = .ok p) :
    p.2.length ≤ rest.length := by
  unfold readChoice at h
  split at h
  · exact Nat.le_of_lt (readName_shorter h)
  · split at h
    · have h0 := length_skipBlanks_le rest
      split at h
      · cases h
      · next b r hb =>
        rw [hb] at h0
        simp only [List.length_cons] at h0
        split at h
        · split at h
          · cases h
          · next i r' hr =>
            have h1 := readName_shorter hr
            cases hn : readNullField r' with
            | error f => simp [hn, Except.map] at h
            | ok r'' =>
              have h2 := readNullField_shorter hn
              simp [hn, Except.map] at h
              subst h
              simp only at h1 ⊢
              omega
        · split at h
          · cases h
          · cases h
    · cases h

/-- One of some names. -/
def Reader.choice (names : List String) : Reader (Fin names.length) :=
  ofStart (readChoice names) readChoice_shorter

/-! ## Values that may be absent -/

/-- A value or `null`. -/
def readOption {α : Type} (r : Reader α) (bs : Bytes) : Except Fault (Option α × Bytes) :=
  match skipBlanks bs with
  | [] => fail .endOfValue []
  | b :: rest =>
    if b = 0x6E then (readWord afterN rest).map fun rest => (none, rest)
    else (r.run (b :: rest)).map fun (a, rest) => (some a, rest)

theorem readOption_shorter {α : Type} {r : Reader α} {bs : Bytes} {p : Option α × Bytes}
    (h : readOption r bs = .ok p) : p.2.length < bs.length := by
  unfold readOption at h
  have h0 := length_skipBlanks_le bs
  split at h
  · cases h
  · next b rest hb =>
    rw [hb] at h0
    simp only [List.length_cons] at h0
    split at h
    · cases hr : readWord afterN rest with
      | error f => simp [hr, Except.map] at h
      | ok rest' =>
        have := readWord_shorter hr
        simp [hr, Except.map] at h
        subst h
        simp only
        omega
    · have := map_shorter r.shorter h
      simp only [List.length_cons] at this
      omega

/-- A value or `null`. -/
def Reader.option {α : Type} (r : Reader α) : Reader (Option α) :=
  ⟨readOption r, readOption_shorter⟩

end LikedYou.Json
