import LikedYou.Time.Timestamp

/-!
# The shapes of documents

A shape says what a JSON document looks like: a plain value, a list, or a record of named fields.
`Shape.Data` is the type of what a document of that shape says. Reading and writing are defined once
for all shapes; a type of messages only has to tell its shape.

A record is written as an object. It may also be read from a list that gives its fields in order.
-/

namespace LikedYou.Json

/-- A field of a record. -/
structure Field where
  /-- The name that the field has in objects. -/
  name : String
  /-- Whether the default value of its shape stands in for the field where it is missing. -/
  defaulted : Bool
  /-- Whether the field is left out where it has no value. -/
  omitted : Bool
  deriving DecidableEq

namespace Field

/-- A field that has to be there. -/
def required (name : String) : Field := ⟨name, false, false⟩

/-- A field that has a default value. -/
def withDefault (name : String) : Field := ⟨name, true, false⟩

/-- A field that may be missing, and is left out where it has no value. -/
def ifAny (name : String) : Field := ⟨name, true, true⟩

/-- A field that is left out where it has no value. Only an object may lack it. -/
def ifAnyInObject (name : String) : Field := ⟨name, false, true⟩

end Field

mutual

/-- The shape of a document. -/
inductive Shape where
  | flag
  | text
  | int64
  | int32
  | uint64
  | float
  | time
  /-- One of some names. -/
  | choice (names : List String)
  /-- A value or `null`. -/
  | option (shape : Shape)
  | list (shape : Shape)
  | record (name : String) (fields : Fields)

/-- The fields of a record, in the order in which they are written. -/
inductive Fields where
  | nil
  | cons (field : Field) (shape : Shape) (rest : Fields)

end

/-! ## What a document says -/

mutual

/-- What a document of a shape says. -/
def Shape.Data : Shape → Type
  | .flag => Bool
  | .text => String
  | .int64 => Int64
  | .int32 => Int32
  | .uint64 => UInt64
  | .float => Float
  | .time => Time.Timestamp
  | .choice names => Fin names.length
  | .option shape => Option shape.Data
  | .list shape => List shape.Data
  | .record _ fields => fields.Data

/-- What the fields of a record say. -/
def Fields.Data : Fields → Type
  | .nil => Unit
  | .cons _ shape rest => shape.Data × rest.Data

end

namespace Shape

/-- Whether the shape has a document for "no value". -/
def isOption : Shape → Bool
  | .option _ => true
  | _ => false

/-- The default value of a shape, if it has one. -/
def default? : (s : Shape) → Option s.Data
  | .flag => some false
  | .text => some ""
  | .option _ => some none
  | _ => none

/-- Whether a document says that there is no value. -/
def isNone : (s : Shape) → s.Data → Bool
  | .option _, d => Option.isNone d
  | _, _ => false

end Shape

/-- What stands in for a field that an object lacks. -/
def Field.missing? (field : Field) (shape : Shape) : Option shape.Data :=
  if field.defaulted || shape.isOption then shape.default? else none

namespace Fields

/-- How many fields there are. -/
def size : Fields → Nat
  | .nil => 0
  | .cons _ _ rest => rest.size + 1

/-- The fields that were found so far. -/
def Slots : Fields → Type
  | .nil => Unit
  | .cons _ shape rest => Option shape.Data × rest.Slots

/-- No field was found yet. -/
def noSlots : (fs : Fields) → fs.Slots
  | .nil => ()
  | .cons _ _ rest => (none, rest.noSlots)

/-- What the fields of an object say, or the name of the first one that is missing. -/
def fill : (fs : Fields) → fs.Slots → Except String fs.Data
  | .nil, _ => .ok ()
  | .cons field shape rest, (slot, slots) =>
    match slot.or (field.missing? shape) with
    | none => .error field.name
    | some d => (rest.fill slots).map fun ds => (d, ds)

end Fields

end LikedYou.Json
