import LikedYou.Proofs.Json.RoundTrip

/-!
# Messages that lose nothing

* `Shape.lossless` — a test of a shape alone
* `Shape.faithful_of_lossless` — a document of a shape that passes it tells all of what was written
* `Shape.run_object` — an object that gives some of the fields is read with defaults for the others
* `comesBack_of_lossless` — so the messages of a type with such a shape come back as they were

A type of messages is tested once, by its shape, and nothing is said of its values one by one.
-/

namespace LikedYou.Json

/-! ## Shapes -/

mutual

/-- Whether all documents of a shape lose nothing: names differ, and "no value" is said in one way.
Floating point numbers and timestamps do not pass. -/
def Shape.lossless : Shape → Bool
  | .flag | .text | .int64 | .int32 | .uint64 => true
  | .float | .time => false
  | .choice names => names.Nodup
  | .option shape => !shape.isOption && shape.lossless
  | .list shape => shape.lossless
  | .record _ fields => fields.lossless

/-- Whether the fields of a record have different names, and lose nothing. -/
def Fields.lossless : Fields → Bool
  | .nil => true
  | .cons field shape rest => !rest.names.contains field.name && shape.lossless && rest.lossless

end

theorem findFinIdx?_get {names : List String} (h : names.Nodup) (i : Fin names.length) :
    names.findFinIdx? (· = names.get i) = some i := by
  rw [List.findFinIdx?_eq_some_iff]
  refine ⟨by simp, fun j hj => ?_⟩
  have hne : names.get j ≠ names.get i := List.pairwise_iff_getElem.mp h j i j.isLt i.isLt hj
  simpa using hne

mutual

/-- **Documents of a shape that passes tell all of what was written.** -/
theorem Shape.faithful_of_lossless : (s : Shape) → s.lossless = true → (d : s.Data) → s.Faithful d
  | .flag, _, _ | .text, _, _ | .int64, _, _ | .int32, _, _ | .uint64, _, _ => trivial
  | .float, h, _ | .time, h, _ => absurd h Bool.false_ne_true
  | .choice _, h, i => findFinIdx?_get (of_decide_eq_true h) i
  | .option shape, h, _ => by
    obtain ⟨hoption, hshape⟩ := Bool.and_eq_true_iff.mp h
    exact ⟨by simpa using hoption, fun d _ => shape.faithful_of_lossless hshape d⟩
  | .list shape, h, _ => fun d _ => shape.faithful_of_lossless h d
  | .record _ fields, h, ds => fields.faithful_of_lossless h ds

theorem Fields.faithful_of_lossless : (fs : Fields) → fs.lossless = true → (ds : fs.Data) →
    fs.Faithful ds
  | .nil, _, _ => trivial
  | .cons field shape rest, h, (d, ds) => by
    obtain ⟨hfirst, hrest⟩ := Bool.and_eq_true_iff.mp h
    obtain ⟨hname, hshape⟩ := Bool.and_eq_true_iff.mp hfirst
    refine ⟨?_, shape.faithful_of_lossless hshape d, rest.faithful_of_lossless hrest ds⟩
    simpa using hname

end

/-- Whatever is in the slots of such a record survives. -/
theorem Fields.each_survives_of_lossless : (fs : Fields) → fs.lossless = true → (slots : fs.Slots) →
    fs.Each Shape.Survives slots
  | .nil, _, _ => trivial
  | .cons field shape rest, h, (slot, slots) => by
    obtain ⟨hfirst, hrest⟩ := Bool.and_eq_true_iff.mp h
    obtain ⟨hname, hshape⟩ := Bool.and_eq_true_iff.mp hfirst
    refine ⟨?_, fun d _ => shape.survives d (shape.faithful_of_lossless hshape d),
      rest.each_survives_of_lossless hrest slots⟩
    simpa using hname

/-! ## Objects that lack fields -/

namespace Shape

/-- The fields of a record. -/
def fields : Shape → Fields
  | .record _ fields => fields
  | _ => .nil

/-- The object that gives some of the fields, and nothing else. -/
def object (s : Shape) (slots : s.fields.Slots) : Bytes :=
  Utf8.encode (writeObject (s.fields.members slots))

/-- The record of which some fields are given, if all others have a default. -/
def fill? : (s : Shape) → s.fields.Slots → Option s.Data
  | .record _ fields, slots => (fields.fill slots).toOption
  | _, _ => none

theorem eq_ok_of_toOption {ε α : Type} {x : Except ε α} {a : α} (h : x.toOption = some a) :
    x = .ok a := by
  cases x with
  | error e => cases h
  | ok b =>
    cases h
    rfl

/-- **An object that gives some of the fields reads as the record with defaults for the others.** -/
theorem run_object {s : Shape} (h : s.lossless = true) {slots : s.fields.Slots} {d : s.Data}
    (hfill : s.fill? slots = some d) : s.reader.run (s.object slots) = .ok (d, []) := by
  match s with
  | .record name fs =>
    have hsurvives := fs.each_survives_of_lossless h slots
    have hrun := run_writeObject name hsurvives (eq_ok_of_toOption hfill) []
    rwa [List.append_nil] at hrun

end Shape

/-! ## Messages -/

section

variable {α : Type} [Document α]

theorem ofString_encodeString (a : α) : Utf8.ofString (encodeString a) = Utf8.encode (encode a) := by
  rw [Utf8.ofString, encodeString, String.toList_ofList]

/-- **The text of a message reads as that message.** -/
theorem decodeString_encodeString (h : (Document.shape α).lossless = true) (a : α) :
    decodeString (encodeString a) = .ok a := by
  have hdecode := decode_encode (Shape.faithful_of_lossless _ h (Document.toData a))
  rw [decodeString]
  simp only [ofString_encodeString, hdecode]

/-- A body that begins with a message is taken for it, unless the message could go on. -/
theorem decodeFront_encode_append (h : (Document.shape α).lossless = true) (a : α) {rest : Bytes}
    (hrest : EndsNumber rest) : decodeFront (Utf8.encode (encode a) ++ rest) = .ok a := by
  have hfaithful := Shape.faithful_of_lossless _ h (Document.toData a)
  have hrun := (Shape.survives _ _ hfaithful).1 rest hrest
  rw [decodeFront, encode, hrun]
  exact congrArg Except.ok (Document.ofData_toData a)

end

/-- A body that gives some of the fields is taken for the message with defaults for the others. -/
theorem decodeFront_object {α : Type} [Document α] (h : (Document.shape α).lossless = true)
    {slots : (Document.shape α).fields.Slots} {d : (Document.shape α).Data}
    (hfill : (Document.shape α).fill? slots = some d) :
    decodeFront ((Document.shape α).object slots) = .ok (Document.ofData d) := by
  rw [decodeFront, Shape.run_object h hfill]
  rfl

/-- Whether every value of a type comes back from its text as it was. -/
structure ComesBack (α : Type) [Document α] : Prop where
  /-- A text that was kept reads as the value that was written. -/
  kept : ∀ a : α, decodeString (encodeString a) = .ok a
  /-- So does one that was sent in a body. -/
  sent : ∀ a : α, decodeFront (Utf8.ofString (encodeString a)) = .ok a
  /-- What was read is written as it was. -/
  rewritten : ∀ a b : α, decodeString (encodeString a) = .ok b → encodeString b = encodeString a

theorem comesBack_of_lossless (α : Type) [Document α] (h : (Document.shape α).lossless = true) :
    ComesBack α where
  kept := decodeString_encodeString h
  sent a := by
    have hends : EndsNumber [] := by rintro _ ⟨⟩
    have hfront := decodeFront_encode_append h a hends
    rw [List.append_nil] at hfront
    rw [ofString_encodeString, hfront]
  rewritten a b hread := by
    rw [decodeString_encodeString h] at hread
    cases hread
    rfl

end LikedYou.Json
