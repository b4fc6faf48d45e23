import LikedYou.Json.Read
import LikedYou.Json.Write

/-!
# Types with a JSON form

A type of messages tells the shape of its documents and how its values correspond to what such a
document says. The correspondence is one to one, so a law that is proved for all shapes holds for
all messages.
-/

namespace LikedYou.Json

/-- Values of the type are written as documents of `shape`. -/
class Document (α : Type) where
  shape : Shape
  toData : α → shape.Data
  ofData : shape.Data → α
  ofData_toData : ∀ a, ofData (toData a) = a := by intro _; rfl
  toData_ofData : ∀ d, toData (ofData d) = d := by intro _; rfl

/-! ## Writing and reading -/

section

variable {α : Type} [Document α]

/-- The document of a value. -/
def encode (a : α) : List Char := (Document.shape α).write (Document.toData a)

/-- The document of a value, as a string. -/
def encodeString (a : α) : String := String.ofList (encode a)

/-- The value that a document tells. -/
def decode (bs : Bytes) : Except Fault α := ((Document.shape α).read bs).map Document.ofData

/-- The value that a document tells, whatever follows the document. -/
def decodeFront (bs : Bytes) : Except Fault α :=
  ((Document.shape α).reader.run bs).map fun (d, _) => Document.ofData d

/-- The value that a document tells, or the wording of what is wrong with the document. -/
def decodeString (s : String) : Except String α :=
  let bs := Utf8.ofString s
  match decode bs with
  | .ok a => .ok a
  | .error f => .error (f.message bs)

end

/-! ## Plain types -/

instance : Document Bool where
  shape := .flag
  toData := id
  ofData := id

instance : Document String where
  shape := .text
  toData := id
  ofData := id

instance : Document Int64 where
  shape := .int64
  toData := id
  ofData := id

instance : Document UInt64 where
  shape := .uint64
  toData := id
  ofData := id

theorem map_ofData_toData {α : Type} [Document α] (as : List α) :
    (as.map Document.toData).map Document.ofData = as := by
  simp [Function.comp_def, Document.ofData_toData]

theorem map_toData_ofData {α : Type} [Document α] (ds : List (Document.shape α).Data) :
    (ds.map Document.ofData).map (Document.toData (α := α)) = ds := by
  simp [Function.comp_def, Document.toData_ofData]

theorem optionMap_ofData_toData {α : Type} [Document α] (a : Option α) :
    (a.map Document.toData).map Document.ofData = a := by
  simp [Function.comp_def, Document.ofData_toData]

theorem optionMap_toData_ofData {α : Type} [Document α] (d : Option (Document.shape α).Data) :
    (d.map Document.ofData).map (Document.toData (α := α)) = d := by
  simp [Function.comp_def, Document.toData_ofData]

instance {α : Type} [Document α] : Document (List α) where
  shape := .list (Document.shape α)
  toData := List.map Document.toData
  ofData := List.map Document.ofData
  ofData_toData := map_ofData_toData
  toData_ofData := map_toData_ofData

end LikedYou.Json
