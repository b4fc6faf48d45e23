import LikedYou.Decimal.Shortest
import LikedYou.Json.Shape
import LikedYou.Time.Rfc3339

/-!
# Writing documents

The compact form: no blanks, fields in the order of the record, and of the characters of a text only
those escaped that have to be.
-/

namespace LikedYou.Json

/-! ## Texts -/

/-- One character of a text. -/
def writeChar (c : Char) : List Char :=
  if c = '"' then ['\\', '"']
  else if c = '\\' then ['\\', '\\']
  else if c = '\x08' then ['\\', 'b']
  else if c = '\t' then ['\\', 't']
  else if c = '\n' then ['\\', 'n']
  else if c = '\x0c' then ['\\', 'f']
  else if c = '\r' then ['\\', 'r']
  else if c.toNat < 0x20 then
    ['\\', 'u', '0', '0', Nat.digitChar (c.toNat / 16), Nat.digitChar (c.toNat % 16)]
  else [c]

/-- A text. -/
def writeText (s : String) : List Char := '"' :: s.toList.flatMap writeChar ++ ['"']

/-! ## Documents -/

/-- A truth value. -/
def writeFlag (b : Bool) : List Char := if b then "true".toList else "false".toList

/-- Parts with commas between them. -/
def commaSeparated (parts : List (List Char)) : List Char := List.intercalate [','] parts

/-- A field with its value. -/
def writeField (name : String) (value : List Char) : List Char := writeText name ++ ':' :: value

mutual

/-- A document. -/
def Shape.write : (s : Shape) → s.Data → List Char
  | .flag, b => writeFlag b
  | .text, t => writeText t
  | .int64, n => Decimal.integer (Int64.toInt n)
  | .int32, n => Decimal.integer (Int32.toInt n)
  | .uint64, n => Decimal.digits (UInt64.toNat n)
  | .float, x => Decimal.float x
  | .time, t => '"' :: Time.Rfc3339.write t ++ ['"']
  | .choice names, i => writeText (names.get i)
  | .option _, none => "null".toList
  | .option shape, some d => shape.write d
  | .list shape, ds => '[' :: commaSeparated (List.map shape.write ds) ++ [']']
  | .record _ fields, ds => '\x7b' :: commaSeparated (fields.write ds) ++ ['\x7d']

/-- The fields of a record that are written. -/
def Fields.write : (fs : Fields) → fs.Data → List (List Char)
  | .nil, _ => []
  | .cons field shape rest, (d, ds) =>
    if field.omitted && shape.isNone d then rest.write ds
    else writeField field.name (shape.write d) :: rest.write ds

end

end LikedYou.Json
