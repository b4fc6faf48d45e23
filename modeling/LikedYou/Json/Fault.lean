import LikedYou.Bytes
import LikedYou.Decimal.Shortest
import LikedYou.Text.Quoted
import LikedYou.Time.Rfc3339

/-!
# Why a JSON text cannot be read

A fault has a cause, the place where it was noticed, and the path of the field inside which it
arose. The place is kept as the bytes that were still unread; line and column are worked out from
the whole text only when a message is wanted.

There are two sorts of cause. The text may break the grammar, or end early. Or it may be a JSON text
but not one of the wanted document: a value of another type, a number out of range, a missing or
repeated field.
-/

namespace LikedYou.Json

/-- What was found where another type of value was wanted. -/
inductive Found where
  | null
  | flag (b : Bool)
  | int (n : Int)
  | float (x : Float)
  | text (s : String)
  | list
  | object

/-- How a message speaks of what was found. -/
def Found.describe : Found → String
  | .null => "null"
  | .flag b => s!"boolean `{b}`"
  | .int n => s!"integer `{n}`"
  | .float x => s!"floating point `{String.ofList (Decimal.float x)}`"
  | .text s => s!"string {Text.quoted s}"
  | .list => "sequence"
  | .object => "map"

/-- What is wrong. -/
inductive Cause where
  | endOfValue
  | endOfText
  | endOfList
  | endOfObject
  | valueWanted
  | wordWanted
  | keyWanted
  | colonWanted
  | listCommaWanted
  | objectCommaWanted
  | trailingComma
  | trailingCharacters
  | badNumber
  | numberTooLarge
  | badEscape
  | loneSurrogate
  | unfinishedPair
  | controlCharacter
  | badUtf8
  | mismatch (found : Found) (wanted : String)
  | outOfRange (n : Int) (wanted : String)
  | missingField (name : String)
  | repeatedField (name : String)
  | unknownName (name : String) (names : List String)
  | tooFewItems (count : Nat) (record : String) (size : Nat)
  | objectWanted
  | badTime (fault : Time.Rfc3339.Fault)

namespace Cause

/-- The list of the names one of which was wanted. -/
def oneOf : List String → String
  | [] => "there are no variants"
  | [a] => s!"expected `{a}`"
  | [a, b] => s!"expected `{a}` or `{b}`"
  | names => "expected one of " ++ ", ".intercalate (names.map fun n => s!"`{n}`")

/-- The wording of a cause. -/
def message : Cause → String
  | endOfValue => "EOF while parsing a value"
  | endOfText => "EOF while parsing a string"
  | endOfList => "EOF while parsing a list"
  | endOfObject => "EOF while parsing an object"
  | valueWanted => "expected value"
  | wordWanted => "expected ident"
  | keyWanted => "key must be a string"
  | colonWanted => "expected `:`"
  | listCommaWanted => "expected `,` or `]`"
  | objectCommaWanted => "expected `,` or `\x7d`"
  | trailingComma => "trailing comma"
  | trailingCharacters => "trailing characters"
  | badNumber => "invalid number"
  | numberTooLarge => "number out of range"
  | badEscape => "invalid escape"
  | loneSurrogate => "lone leading surrogate in hex escape"
  | unfinishedPair => "unexpected end of hex escape"
  | controlCharacter => "control character (\\u0000-\\u001F) found while parsing a string"
  | badUtf8 => "invalid unicode code point"
  | mismatch found wanted => s!"invalid type: {found.describe}, expected {wanted}"
  | outOfRange n wanted => s!"invalid value: integer `{n}`, expected {wanted}"
  | missingField name => s!"missing field `{name}`"
  | repeatedField name => s!"duplicate field `{name}`"
  | unknownName name names => s!"unknown variant `{name}`, {oneOf names}"
  | tooFewItems count record size =>
    let items := if size = 1 then "element" else "elements"
    s!"invalid length {count}, expected struct {record} with {size} {items}"
  | objectWanted => "invalid value: map, expected map with a single key"
  | badTime fault => fault.message

/-- Whether the text is a JSON text as far as it was read, but not one of the wanted document. -/
def isAboutData : Cause → Bool
  | mismatch .. | outOfRange .. | missingField .. | repeatedField .. | unknownName ..
  | tooFewItems .. | objectWanted | badTime .. => true
  | _ => false

end Cause

/-- One step of the path from a document to a part of it. -/
inductive Step where
  | field (name : String)
  | item (index : Nat)

/-- A path as text: names joined by points, indices in brackets. -/
def describePath : List Step → String
  | [] => ""
  | .field name :: rest => name ++ more rest
  | .item i :: rest => s!"[{i}]" ++ more rest
where
  /-- The path after its first step. -/
  more : List Step → String
    | [] => ""
    | .field name :: rest => "." ++ name ++ more rest
    | .item i :: rest => s!"[{i}]" ++ more rest

/-- A fault: its cause, the bytes unread when it was noticed, the path of the part it is in. -/
structure Fault where
  cause : Cause
  unread : Bytes
  path : List Step := []

namespace Fault

/-- The fault as seen from outside the part that `step` leads to. -/
def inside (step : Step) (f : Fault) : Fault := { f with path := step :: f.path }

/-- Line and column of a place: lines are counted from 1, columns are the bytes of the line up to
the place. -/
def position (whole unread : Bytes) : Nat × Nat :=
  (whole.take (whole.length - unread.length)).foldl
    (fun (line, column) (b : UInt8) => if b = 0x0A then (line + 1, 0) else (line, column + 1)) (1, 0)

/-- The wording of a fault of the text `whole`. -/
def message (whole : Bytes) (f : Fault) : String :=
  let (line, column) := position whole f.unread
  s!"{f.cause.message} at line {line} column {column}"

/-- The wording of a fault with the path of its part in front. -/
def messageWithPath (whole : Bytes) (f : Fault) : String :=
  if f.path.isEmpty then f.message whole
  else s!"{describePath f.path}: {f.message whole}"

end Fault

end LikedYou.Json
