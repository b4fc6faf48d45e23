import LikedYou.Bytes

/-!
# Media types

A media type has a type, a subtype and parameters: `application/json; charset=utf-8`. Names are
tokens and their case does not matter. A subtype may end in a suffix, after its last plus sign, that
tells its format, as in `application/problem+json`.

## Reading parameters

A parameter is a name, an equals sign and a value, which is a token or stands in quotes and is then
not empty. Parameters are separated by semicolons. Spaces may stand before a name and after a closing
quote, and nowhere else; nothing has to follow the last semicolon.
-/

namespace LikedYou.Http

/-- A media type, in lower case and without its parameters. -/
structure MediaType where
  type : Bytes
  subtype : Bytes
  suffix : Option Bytes
  deriving DecidableEq, Repr

namespace MediaType

/-! ## Characters -/

/-- A letter in lower case, and any other byte as it is. -/
def lower (b : UInt8) : UInt8 := if 0x41 ≤ b && b ≤ 0x5A then b + 0x20 else b

/-- Whether a byte is a letter or a digit. -/
def isAlphanumeric (b : UInt8) : Bool :=
  (0x30 ≤ b && b ≤ 0x39) || (0x61 ≤ lower b && lower b ≤ 0x7A)

/-- Whether a byte may stand in a token: letters, digits and some signs. -/
def isToken (b : UInt8) : Bool :=
  isAlphanumeric b ||
    [0x21, 0x23, 0x24, 0x25, 0x26, 0x27, 0x2A, 0x2B, 0x2D, 0x2E, 0x5E, 0x5F, 0x60, 0x7C,
      0x7E].contains b

/-- Whether a byte may stand in quotes. -/
def isQuotable (b : UInt8) : Bool := 0x20 ≤ b && b ≠ 0x7F

/-- Whether a byte may stand in the header at all: a printable character or a tab. -/
def isVisible (b : UInt8) : Bool := (0x20 ≤ b && b ≤ 0x7E) || b = 0x09

/-! ## Parameters -/

/-- Where one is while reading parameters. -/
inductive Place where
  /-- Before a name, after blanks if any. -/
  | start
  | name
  /-- After the equals sign. -/
  | value
  | token
  /-- After the opening quote. -/
  | quote
  | quoted
  /-- After the closing quote. -/
  | closed
  deriving DecidableEq, Repr

/-- Go past one byte. -/
def Place.next? (b : UInt8) : Place → Option Place
  | start => if b = 0x20 then some start else if isToken b then some name else none
  | name => if isToken b then some name else if b = 0x3D then some value else none
  | value => if b = 0x22 then some quote else if isToken b then some token else none
  | token => if isToken b then some token else if b = 0x3B then some start else none
  | quote => if isQuotable b then some quoted else none
  | quoted => if b = 0x22 then some closed else if isQuotable b then some quoted else none
  | closed => if b = 0x3B then some start else if b = 0x20 then some closed else none

/-- Whether parameters may end here. -/
def Place.mayEnd : Place → Bool
  | start | value | token | closed => true
  | name | quote | quoted => false

/-- Whether parameters can be read from here to the end. -/
def parametersFrom (place : Place) : Bytes → Bool
  | [] => place.mayEnd
  | b :: bs =>
    match place.next? b with
    | some place => parametersFrom place bs
    | none => false

/-! ## Types -/

/-- A subtype without its suffix, and the suffix. A plus sign in front is part of the subtype. -/
def splitSuffix (name : Bytes) : Bytes × Option Bytes :=
  let suffix := (name.reverse.takeWhile (· ≠ 0x2B)).reverse
  let subtype := name.take (name.length - suffix.length - 1)
  if suffix.length + 1 < name.length then (subtype, some suffix) else (name, none)

/-- Read a media type. -/
def ofBytes? (bs : Bytes) : Option MediaType :=
  let type := bs.takeWhile isToken
  match bs.dropWhile isToken with
  | 0x2F :: rest =>
    let name := rest.takeWhile isToken
    let wellEnded :=
      match rest.dropWhile isToken with
      | [] => true
      | 0x3B :: parameters => !name.isEmpty && parametersFrom .start parameters
      | _ => false
    if type.isEmpty || !wellEnded then none
    else
      let (subtype, suffix) := splitSuffix (name.map lower)
      some ⟨type.map lower, subtype, suffix⟩
  | _ => none

/-- The bytes of `application` and `json`. -/
def application : Bytes :=
  [0x61, 0x70, 0x70, 0x6C, 0x69, 0x63, 0x61, 0x74, 0x69, 0x6F, 0x6E]

@[inherit_doc application] def json : Bytes := [0x6A, 0x73, 0x6F, 0x6E]

/-- Whether a media type is one of JSON texts. -/
def isJson (m : MediaType) : Bool :=
  m.type = application && (m.subtype = json || m.suffix = some json)

/-- Whether a header announces a JSON text. -/
def announcesJson (header : Bytes) : Bool :=
  header.all isVisible && (ofBytes? header).any isJson

end MediaType

end LikedYou.Http
