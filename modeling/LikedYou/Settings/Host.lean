import LikedYou.Decimal.Numeral

/-!
# Hosts to listen on

An address of the Internet protocol: four octets with points between them, or, in brackets, eight
groups of hexadecimal digits with colons between them. There, one run of zero groups may be left out
between two colons, the last two groups may be written as four octets, and a percent sign and the
number of a zone may follow.

An address is written in one way only: in lower case, without leading zeros, with the longest run of
at least two zero groups left out and the first one of several. Four octets stand at the end of the
addresses that stand for one of the older kind.
-/

namespace LikedYou

/-- An address of a host. -/
inductive Host where
  | v4 (a b c d : Nat)
  | v6 (groups : List Nat) (zone : Nat)
  deriving DecidableEq, Repr

namespace Host

/-! ## Reading -/

/-- The value of a hexadecimal digit. -/
def hexDigit? (c : Char) : Option Nat :=
  if '0' ≤ c && c ≤ '9' then some (c.toNat - 0x30)
  else if 'a' ≤ c && c ≤ 'f' then some (c.toNat - 0x57)
  else if 'A' ≤ c && c ≤ 'F' then some (c.toNat - 0x37)
  else none

/-- The number of some digits in the given base. -/
def valueOf (base : Nat) (digits : List Nat) : Nat := digits.foldl (fun n d => base * n + d) 0

/-- Whether `c` is a digit in the given base. -/
def isDigitOf (base : Nat) (c : Char) : Bool := (hexDigit? c).any (· < base)

/-- Read digits in the given base, at least one. -/
def readDigits? (base : Nat) (cs : List Char) : Option (List Nat × List Char) :=
  let digits := (cs.takeWhile (isDigitOf base)).filterMap hexDigit?
  if digits.isEmpty then none else some (digits, cs.dropWhile (isDigitOf base))

/-- Read an octet: at most three digits without leading zeros. -/
def readOctet? (cs : List Char) : Option (Nat × List Char) :=
  match readDigits? 10 cs with
  | none => none
  | some (digits, rest) =>
    let n := valueOf 10 digits
    if digits.length ≤ 3 && n ≤ 255 && (digits.length = 1 || digits.head? ≠ some 0) then
      some (n, rest)
    else none

/-- Read a group: at most four hexadecimal digits. -/
def readGroup? (cs : List Char) : Option (Nat × List Char) :=
  match readDigits? 16 cs with
  | none => none
  | some (digits, rest) => if digits.length ≤ 4 then some (valueOf 16 digits, rest) else none

/-- Read a given character. -/
def readChar? (c : Char) : List Char → Option (List Char)
  | [] => none
  | d :: rest => if c = d then some rest else none

/-- Read `n` more octets, each after a point. -/
def readOctets? : (n : Nat) → List Char → Option (List Nat × List Char)
  | 0, cs => some ([], cs)
  | n + 1, cs =>
    match (readChar? '.' cs).bind readOctet? with
    | none => none
    | some (octet, rest) =>
      match readOctets? n rest with
      | none => none
      | some (octets, rest) => some (octet :: octets, rest)

/-- Read four octets. -/
def readFour? (cs : List Char) : Option (List Nat × List Char) :=
  match readOctet? cs with
  | none => none
  | some (octet, rest) =>
    match readOctets? 3 rest with
    | none => none
    | some (octets, rest) => some (octet :: octets, rest)

/-- Two groups for four octets. -/
def pairUp : List Nat → List Nat
  | a :: b :: rest => (256 * a + b) :: pairUp rest
  | _ => []

/-- The groups in front, with colons between them, and whether they end in four octets. -/
structure Groups where
  groups : List Nat
  endsInOctets : Bool
  rest : List Char

/-- Read at most `limit` groups, the first one without a colon before it if `first` is set. Octets
are only tried where there is room for two groups. -/
def readGroups (first : Bool) : (limit : Nat) → List Char → Groups
  | 0, cs => ⟨[], false, cs⟩
  | limit + 1, cs =>
    match if first then some cs else readChar? ':' cs with
    | none => ⟨[], false, cs⟩
    | some after =>
      match if limit = 0 then none else readFour? after with
      | some (octets, rest) => ⟨pairUp octets, true, rest⟩
      | none =>
        match readGroup? after with
        | none => ⟨[], false, cs⟩
        | some (group, rest) =>
          let more := readGroups false limit rest
          { more with groups := group :: more.groups }

/-- Read eight groups, a run of which may be left out. -/
def readEight? (cs : List Char) : Option (List Nat × List Char) :=
  let front := readGroups true 8 cs
  if front.groups.length = 8 then some (front.groups, front.rest)
  else if front.endsInOctets then none
  else
    match (readChar? ':' front.rest).bind (readChar? ':') with
    | none => none
    | some rest =>
      let back := readGroups true (7 - front.groups.length) rest
      let missing := 8 - front.groups.length - back.groups.length
      some (front.groups ++ List.replicate missing 0 ++ back.groups, back.rest)

/-- Read a zone, if there is one; zero stands for none. -/
def readZone (cs : List Char) : Nat × List Char :=
  match (readChar? '%' cs).bind (readDigits? 10) with
  | none => (0, cs)
  | some (digits, rest) =>
    let n := valueOf 10 digits
    if n < UInt32.size then (n, rest) else (0, cs)

/-- Read four octets and nothing else. -/
def readV4? (cs : List Char) : Option Host :=
  match readFour? cs with
  | some ([a, b, c, d], []) => some (.v4 a b c d)
  | _ => none

/-- Read eight groups in brackets, perhaps with a zone, and nothing else. -/
def readV6? (cs : List Char) : Option Host :=
  match (readChar? '[' cs).bind readEight? with
  | none => none
  | some (groups, rest) =>
    let (zone, rest) := readZone rest
    if rest = [']'] then some (.v6 groups zone) else none

/-- The address written by a text. -/
def ofString? (s : String) : Option Host := (readV4? s.toList).or (readV6? s.toList)

/-! ## Writing -/

/-- A group in hexadecimal digits. -/
def groupText (n : Nat) : String := String.ofList (Nat.toDigits 16 n)

/-- Groups with colons between them. -/
def groupsText (groups : List Nat) : String := ":".intercalate (groups.map groupText)

/-- How many zero groups there are in front. -/
def zerosInFront (groups : List Nat) : Nat := (groups.takeWhile (· = 0)).length

/-- The longest run of zero groups: how many groups are before it, and how long it is. The first of
several is taken. -/
def longestRun : List Nat → Nat × Nat
  | [] => (0, 0)
  | g :: groups =>
    let (start, length) := longestRun groups
    let here := zerosInFront (g :: groups)
    if length ≤ here then (0, here) else (start + 1, length)

/-- Octets with points between them. -/
def octetsText (a b c d : Nat) : String := s!"{a}.{b}.{c}.{d}"

/-- Eight groups. -/
def eightText (groups : List Nat) : String :=
  match groups with
  | [0, 0, 0, 0, 0, 0xFFFF, x, y] =>
    "::ffff:" ++ octetsText (x / 256) (x % 256) (y / 256) (y % 256)
  | _ =>
    let (start, length) := longestRun groups
    if 1 < length then
      groupsText (groups.take start) ++ "::" ++ groupsText (groups.drop (start + length))
    else groupsText groups

/-- An address with a port. -/
def withPort (port : Nat) : Host → String
  | v4 a b c d => s!"{octetsText a b c d}:{port}"
  | v6 groups zone =>
    if zone = 0 then s!"[{eightText groups}]:{port}" else s!"[{eightText groups}%{zone}]:{port}"

end Host

end LikedYou
