import LikedYou.Json.Record

/-!
# Reading documents

Every shape has a reader, and a document is read when nothing but blanks follows it.
-/

namespace LikedYou.Json

mutual

/-- How a document of a shape is read. -/
def Shape.reader : (s : Shape) → Reader s.Data
  | .flag => .flag
  | .text => .text
  | .int64 => .int64
  | .int32 => .int32
  | .uint64 => .uint64
  | .float => .float
  | .time => .time
  | .choice names => .choice names
  | .option shape => .option shape.reader
  | .list shape => .list shape.reader
  | .record name fields => .record name fields fields.readers

/-- How the fields of a record are read. -/
def Fields.readers : (fs : Fields) → fs.Readers
  | .nil => ()
  | .cons _ shape rest => (shape.reader, rest.readers)

end

/-- A document and nothing else. -/
def Shape.read (s : Shape) (bs : Bytes) : Except Fault s.Data :=
  match s.reader.run bs with
  | .error f => .error f
  | .ok (d, rest) =>
    match skipBlanks rest with
    | [] => .ok d
    | _ :: rest => fail .trailingCharacters rest

end LikedYou.Json
