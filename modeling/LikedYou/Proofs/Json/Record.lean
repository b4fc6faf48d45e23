import LikedYou.Proofs.Json.Items

/-!
# Records in documents

* `run_writeObject` — an object reads as the record that its members tell, with defaults for those missing
* `readsValue_record` — the object of a record reads as that record

The members are read in the order of the fields, each into its slot. A member says nothing about the
fields before its own, so the induction goes over the fields that are left, and the fields passed
already are kept in a function that puts the slots of the rest back into their place.
-/

namespace LikedYou.Json

/-! ## Fields -/

namespace Fields

/-- The names of the fields. -/
def names : Fields → List String
  | .nil => []
  | .cons field _ rest => field.name :: rest.names

/-- The slots that are filled when all fields that were written were read. -/
def filled : (fs : Fields) → fs.Data → fs.Slots
  | .nil, _ => ()
  | .cons field shape rest, (d, ds) =>
    (if field.omitted && shape.isNone d then none else some d, rest.filled ds)

/-- The members of an object that fill these slots. -/
def members : (fs : Fields) → fs.Slots → List (List Char)
  | .nil, _ => []
  | .cons _ _ rest, (none, slots) => rest.members slots
  | .cons field shape rest, (some d, slots) =>
    writeField field.name (shape.write d) :: rest.members slots

/-- Whether different fields have different names, and each value in a slot satisfies `p`. -/
def Each (p : (s : Shape) → s.Data → Prop) : (fs : Fields) → fs.Slots → Prop
  | .nil, _ => True
  | .cons field shape rest, (slot, slots) =>
    field.name ∉ rest.names ∧ (∀ d, slot = some d → p shape d) ∧ rest.Each p slots

/-- What is written of a record is what fills its slots. -/
theorem write_eq_members (fs : Fields) (ds : fs.Data) : fs.write ds = fs.members (fs.filled ds) := by
  match fs, ds with
  | .nil, _ => rfl
  | .cons field shape rest, (d, ds) =>
    rw [write, filled]
    split
    · exact write_eq_members rest ds
    · exact congrArg (_ :: ·) (write_eq_members rest ds)

end Fields

/-- What is left out is what stands in for a missing field. -/
theorem missing?_of_isNone (field : Field) {shape : Shape} {d : shape.Data}
    (h : shape.isNone d = true) : field.missing? shape = some d := by
  cases shape with
  | option shape =>
    cases d with
    | none => simp [Field.missing?, Shape.isOption, Shape.default?]
    | some d => cases h
  | _ => cases h

theorem fill_filled (fs : Fields) (ds : fs.Data) : fs.fill (fs.filled ds) = .ok ds := by
  match fs, ds with
  | .nil, _ => rfl
  | .cons field shape rest, (d, ds) =>
    have hrest := fill_filled rest ds
    rw [Fields.filled, Fields.fill]
    by_cases hout : (field.omitted && shape.isNone d) = true
    · have hmissing := missing?_of_isNone field (Bool.and_eq_true_iff.mp hout).2
      simp only [if_pos hout, Option.none_or, hmissing, hrest]
      rfl
    · simp only [if_neg hout, Option.some_or, hrest]
      rfl

/-! ## Members -/

theorem encode_writeField (name : String) (value : List Char) :
    Utf8.encode (writeField name value) =
      0x22 :: (textTail name ++ 0x3A :: Utf8.encode value) := by
  rw [writeField, Utf8.encode_append, encode_writeText, Utf8.encode_cons]
  rfl

theorem nextMember_close (first : Bool) (rest : Bytes) :
    nextMember first (0x7D :: rest) = .ok (false, rest) := by
  rw [nextMember, skipBlanks_cons (by decide)]
  rfl

theorem nextMember_name (first : Bool) (rest : Bytes) :
    nextMember first (separator first ++ 0x22 :: rest) = .ok (true, rest) := by
  cases first with
  | true =>
    show nextMember true (0x22 :: rest) = _
    rw [nextMember, skipBlanks_cons (by decide)]
    rfl
  | false =>
    show nextMember false (0x2C :: 0x22 :: rest) = _
    rw [nextMember, skipBlanks_cons (by decide)]
    simp only [skipBlanks_cons (show isBlank 0x22 = false by decide)]
    rfl

theorem readMemberValue_colon {α : Type} (name : String) {r : Reader α} {bs rest : Bytes} {a : α}
    (h : r.run bs = .ok (a, rest)) :
    readMemberValue name r.run (0x3A :: bs) = .ok (a, rest) := by
  rw [readMemberValue, skipBlanks_cons (by decide)]
  simp only [if_true, h]

section

variable {fs : Fields} {rs : fs.Readers} {first : Bool} {slots : fs.Slots}

theorem readMembers_close (rest : Bytes) :
    readMembers fs rs first slots (0x7D :: rest) = .ok (slots, rest) := by
  have hnext := nextMember_close first rest
  rw [readMembers]
  split
  · next he => rw [hnext] at he; cases he
  · next he => rw [hnext] at he; cases he; rfl
  · next he => rw [hnext] at he; cases he

theorem readMembers_step {name : String} {bs rest : Bytes} {slots' : fs.Slots}
    (h : readMember name fs rs slots bs = .ok (slots', rest)) :
    readMembers fs rs first slots (separator first ++ 0x22 :: (textTail name ++ bs)) =
      readMembers fs rs false slots' rest := by
  have hnext := nextMember_name first (textTail name ++ bs)
  have htext := readText_textTail name bs
  rw [readMembers]
  split
  · next he => rw [hnext] at he; cases he
  · next he => rw [hnext] at he; cases he
  · next he =>
    rw [hnext] at he
    cases he
    split
    · next he => rw [htext] at he; cases he
    · next he =>
      rw [htext] at he
      cases he
      split
      · next he => rw [h] at he; cases he
      · next he =>
        rw [h] at he
        cases he
        rfl

end

/-- Turn the slots that were read into others. -/
def mapSlots {α β : Type} (put : α → β) (r : Except Trouble (α × Bytes)) :
    Except Trouble (β × Bytes) :=
  r.map fun (slots, bs) => (put slots, bs)

namespace Fields

variable {field : Field} {shape : Shape} {rest : Fields}

/-- The slot of the first field before those of the others. -/
def slotsCons (slot : Option shape.Data) (slots : rest.Slots) : (cons field shape rest).Slots :=
  (slot, slots)

theorem noSlots_cons : (cons field shape rest).noSlots = slotsCons none rest.noSlots := rfl

end Fields

section

variable {field : Field} {shape : Shape} {rest : Fields}

theorem readMember_cons_of_ne {name : String} (h : field.name ≠ name) (slot : Option shape.Data)
    (slots : rest.Slots) (bs : Bytes) :
    readMember name (.cons field shape rest) (Fields.readers _) (Fields.slotsCons slot slots) bs =
      mapSlots (Fields.slotsCons slot) (readMember name rest rest.readers slots bs) := by
  rw [readMember.eq_def]
  simp only [Fields.readers, Fields.slotsCons, if_neg h]
  cases readMember name rest rest.readers slots bs <;> rfl

theorem readMember_cons_self {d : shape.Data} {bs tail : Bytes}
    (h : shape.reader.run bs = .ok (d, tail)) (slots : rest.Slots) :
    readMember field.name (.cons field shape rest) (Fields.readers _)
        (Fields.slotsCons none slots) (0x3A :: bs) =
      .ok (Fields.slotsCons (some d) slots, tail) := by
  rw [readMember.eq_def]
  simp only [Fields.readers, Fields.slotsCons, if_true, readMemberValue_colon field.name h]

end

/-! ## Records -/

/-- Whether a value of a shape is written such that it reads as itself. -/
def Shape.Survives (s : Shape) (d : s.Data) : Prop :=
  s.reader.ReadsValue (Utf8.encode (s.write d)) d

/-- The members of the fields `left` fill their slots. The other fields are in `put`. -/
theorem readMembers_members {fs : Fields} {left : Fields} {put : left.Slots → fs.Slots}
    (hput : ∀ name ∈ left.names, ∀ slots bs, readMember name fs fs.readers (put slots) bs =
      mapSlots put (readMember name left left.readers slots bs))
    {slots : left.Slots} (h : left.Each Shape.Survives slots) (first : Bool) (rest : Bytes) :
    readMembers fs fs.readers first (put left.noSlots)
        (joined first ((left.members slots).map Utf8.encode) ++ 0x7D :: rest) =
      .ok (put slots, rest) := by
  match left, slots with
  | .nil, _ => exact readMembers_close rest
  | .cons field shape left, (slot, slots) =>
    obtain ⟨hname, hslot, hslots⟩ := h
    -- whatever the slot of this field holds, it stays as it is while the others are filled
    have hrest : ∀ slot, ∀ name ∈ left.names, ∀ slots bs,
        readMember name fs fs.readers (put (Fields.slotsCons slot slots)) bs =
          mapSlots (fun slots => put (Fields.slotsCons slot slots))
            (readMember name left left.readers slots bs) := by
      intro slot name hmem slots bs
      have hne : field.name ≠ name := fun he => hname (he ▸ hmem)
      rw [hput name (List.mem_cons_of_mem _ hmem), readMember_cons_of_ne hne]
      cases readMember name left left.readers slots bs <;> rfl
    rw [Fields.noSlots_cons]
    cases slot with
    | none => exact readMembers_members (hrest none) hslots first rest
    | some d =>
      obtain ⟨hreads, -⟩ := hslot d rfl
      have hrun := hreads _
        (endsNumber_joined ((left.members slots).map Utf8.encode) (b := 0x7D) (by decide) rest)
      have hmember :=
        (hput field.name List.mem_cons_self (Fields.slotsCons none left.noSlots) _).trans
        (congrArg (mapSlots put) (readMember_cons_self hrun left.noSlots))
      rw [Fields.members, List.map_cons, joined, encode_writeField]
      simp only [List.append_assoc, List.cons_append]
      rw [readMembers_step hmember]
      exact readMembers_members (hrest (some d)) hslots false rest

/-- An object with these members. -/
def writeObject (members : List (List Char)) : List Char :=
  '\x7b' :: commaSeparated members ++ ['\x7d']

theorem encode_writeObject (members : List (List Char)) :
    Utf8.encode (writeObject members) =
      0x7B :: (joined true (members.map Utf8.encode) ++ [0x7D]) := by
  rw [writeObject, List.cons_append, Utf8.encode_cons, Utf8.encode_append, encode_commaSeparated]
  rfl

/-- **An object reads as the record that its members tell**, with a default for each one that is
missing. -/
theorem run_writeObject (name : String) {fs : Fields} {slots : fs.Slots} {ds : fs.Data}
    (h : fs.Each Shape.Survives slots) (hfill : fs.fill slots = .ok ds) (rest : Bytes) :
    (Reader.record name fs fs.readers).run (Utf8.encode (writeObject (fs.members slots)) ++ rest) =
      .ok (ds, rest) := by
  have hput : ∀ name ∈ fs.names, ∀ slots bs, readMember name fs fs.readers (id slots) bs =
      mapSlots id (readMember name fs fs.readers slots bs) := by
    intro name _ slots bs
    rw [id_eq]
    cases readMember name fs fs.readers slots bs <;> rfl
  have hmembers := readMembers_members hput h true rest
  rw [id_eq, id_eq] at hmembers
  rw [encode_writeObject, Reader.record, Reader.run_ofStart, List.cons_append,
    readStart_cons (by decide), readRecord, if_neg (by decide), if_pos rfl, readRecordObject,
    List.append_assoc, List.singleton_append]
  simp only [hmembers, hfill]

/-- **The object of a record reads as that record.** -/
theorem readsValue_record (name : String) {fs : Fields} {ds : fs.Data}
    (h : fs.Each Shape.Survives (fs.filled ds)) : Shape.Survives (.record name fs) ds := by
  have hwrite : Shape.write (.record name fs) ds = writeObject (fs.members (fs.filled ds)) :=
    congrArg writeObject (fs.write_eq_members ds)
  show (Reader.record name fs fs.readers).ReadsValue
    (Utf8.encode (Shape.write (.record name fs) ds)) ds
  rw [hwrite]
  exact ⟨fun rest _ => run_writeObject name h (fill_filled fs ds) rest, _, _, encode_writeObject _,
    by decide, by decide⟩

end LikedYou.Json
