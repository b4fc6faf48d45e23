import LikedYou.Proofs.Json.Record

/-!
# Documents survive

* `Shape.survives` — a document of any shape reads as what was written
* `decode_encode` — a message reads as the message that was written
* `encode_injective` — different messages have different documents

Floating point numbers and timestamps are left to those who need them: `Shape.Faithful` asks that
each of them reads as itself.
-/

namespace LikedYou.Json

/-! ## Plain values -/

theorem startsValue_of_digit_or_minus {b : UInt8} (h : b = 0x2D ∨ isDigit b = true) :
    StartsValue b := by
  rcases h with rfl | h
  · exact ⟨by decide, by decide⟩
  · refine ⟨isBlank_of_isDigit h, ?_⟩
    rintro rfl
    exact absurd h (by decide)

theorem survives_flag (b : Bool) : Shape.Survives .flag b := by
  cases b with
  | true => exact ⟨fun rest _ => rfl, _, _, rfl, by decide, by decide⟩
  | false => exact ⟨fun rest _ => rfl, _, _, rfl, by decide, by decide⟩

theorem readsValue_text (s : String) : Reader.text.ReadsValue (Utf8.encode (writeText s)) s := by
  rw [encode_writeText]
  refine ⟨fun rest _ => ?_, _, _, rfl, by decide, by decide⟩
  rw [Reader.text, Reader.run_ofStart, List.cons_append, readStart_cons (by decide), readTextOr,
    if_pos rfl, readText_textTail]

/-- A reader of integers that takes them for something else. -/
theorem readsValue_integer {α : Type} (wanted : String) {low high : Int} (n : Int) (f : Int → α)
    (hlow : low ≤ n) (hhigh : n ≤ high) (hmin : Int64.minValue.toInt ≤ n) (hmax : n < wordBound) :
    ((Reader.intIn wanted low high).map f).ReadsValue (integerBytes n) (f n) := by
  obtain ⟨b, tail, hb, hhead⟩ := exists_head_integerBytes n
  refine ⟨fun rest hrest => ?_, b, tail, hb, startsValue_of_digit_or_minus hhead⟩
  have hread := readIntIn_integerBytes wanted hb hrest hlow hhigh hmin hmax
  show ((readStart (readIntIn wanted low high) (integerBytes n ++ rest)).map fun (n, rest) =>
    (f n, rest)) = _
  rw [hb, List.cons_append, readStart_cons (startsValue_of_digit_or_minus hhead).1, hread]
  rfl

theorem survives_int64 (n : Int64) : Shape.Survives .int64 n := by
  have h := readsValue_integer "i64" n.toInt Int64.ofInt n.minValue_le_toInt n.toInt_le
    n.minValue_le_toInt (Int.lt_of_le_of_lt n.toInt_le (by decide))
  rwa [Int64.ofInt_toInt] at h

theorem survives_int32 (n : Int32) : Shape.Survives .int32 n := by
  have h := readsValue_integer "i32" n.toInt Int32.ofInt n.minValue_le_toInt n.toInt_le
    (Int.le_trans (by decide) n.minValue_le_toInt) (Int.lt_of_le_of_lt n.toInt_le (by decide))
  rwa [Int32.ofInt_toInt] at h

theorem survives_uint64 (n : UInt64) : Shape.Survives .uint64 n := by
  have hnonneg : (0 : Int) ≤ n.toNat := Int.natCast_nonneg n.toNat
  have hbound : (n.toNat : Int) < UInt64.size := Int.ofNat_lt.mpr n.toNat_lt_size
  have h := readsValue_integer "u64" n.toNat (fun n => UInt64.ofNat n.toNat) hnonneg
    (Int.le_sub_one_of_lt hbound) (Int.le_trans (by decide) hnonneg) hbound
  rw [integerBytes_of_nonneg (by omega), Int.natAbs_natCast, Int.toNat_natCast,
    UInt64.ofNat_toNat] at h
  exact h

theorem survives_choice {names : List String} {i : Fin names.length}
    (h : names.findFinIdx? (· = names.get i) = some i) : Shape.Survives (.choice names) i := by
  show (Reader.choice names).ReadsValue (Utf8.encode (writeText (names.get i))) i
  rw [encode_writeText]
  refine ⟨fun rest _ => ?_, _, _, rfl, by decide, by decide⟩
  rw [Reader.choice, Reader.run_ofStart, List.cons_append, readStart_cons (by decide), readChoice,
    if_pos rfl, readName, readText_textTail]
  simp only [h]

/-! ## Values that may be absent -/

theorem readsValue_none {α : Type} (r : Reader α) :
    (Reader.option r).ReadsValue (Utf8.encode "null".toList) none :=
  ⟨fun _ _ => rfl, _, _, rfl, by decide, by decide⟩

theorem readsValue_some {α : Type} {r : Reader α} {bs : Bytes} {a : α} (h : r.ReadsValue bs a)
    (hnull : bs.head? ≠ some 0x6E) : (Reader.option r).ReadsValue bs (some a) := by
  obtain ⟨hreads, b, tail, rfl, hstart⟩ := h
  refine ⟨fun rest hrest => ?_, b, tail, rfl, hstart⟩
  have hb : b ≠ 0x6E := fun he => hnull (congrArg some he)
  have hrun := hreads rest hrest
  show readOption r (b :: tail ++ rest) = _
  rw [List.cons_append] at hrun ⊢
  rw [readOption, skipBlanks_cons hstart.1]
  simp only [if_neg hb, hrun]
  rfl

/-! ## All shapes -/

mutual

/-- Whether a document of what `d` says tells all of it. -/
def Shape.Faithful : (s : Shape) → s.Data → Prop
  | .flag, _ | .text, _ | .int64, _ | .int32, _ | .uint64, _ => True
  | .float, x => Shape.Survives .float x ∧ (Utf8.encode (Decimal.float x)).head? ≠ some 0x6E
  | .time, t => Shape.Survives .time t
  | .choice names, i => names.findFinIdx? (· = names.get i) = some i
  | .option shape, d? => shape.isOption = false ∧ ∀ d, d? = some d → shape.Faithful d
  | .list shape, ds => ∀ d, d ∈ (show List shape.Data from ds) → shape.Faithful d
  | .record _ fields, ds => fields.Faithful ds

/-- Whether the fields of a record have different names, and what they say can be told. -/
def Fields.Faithful : (fs : Fields) → fs.Data → Prop
  | .nil, _ => True
  | .cons field shape rest, (d, ds) =>
    field.name ∉ rest.names ∧ shape.Faithful d ∧ rest.Faithful ds

end

theorem head?_encode {c : Char} (hc : c.toNat < 0x80) (cs : List Char) :
    (Utf8.encode (c :: cs)).head? = some (UInt8.ofNat c.toNat) := by
  rw [Utf8.encode_cons, Utf8.encodeChar_ascii hc]
  rfl

/-- Only "no value" is written as `null`. -/
theorem head?_write {s : Shape} {d : s.Data} (h : s.Faithful d) (hs : s.isOption = false) :
    (Utf8.encode (s.write d)).head? ≠ some 0x6E := by
  have hinteger : ∀ n : Int, (integerBytes n).head? ≠ some 0x6E := by
    intro n
    obtain ⟨b, tail, hb, hhead⟩ := exists_head_integerBytes n
    rw [hb]
    rintro ⟨⟩
    exact absurd hhead (by decide)
  have hmark : ∀ (c : Char) (cs : List Char), c = '"' ∨ c = '[' ∨ c = '\x7b' →
      (Utf8.encode (c :: cs)).head? ≠ some 0x6E := by
    rintro c cs (rfl | rfl | rfl)
    all_goals
      rw [head?_encode (by decide)]
      decide
  cases s with
  | flag => cases d <;> decide
  | text => exact hmark _ _ (Or.inl rfl)
  | int64 => exact hinteger _
  | int32 => exact hinteger _
  | uint64 =>
    have hn := hinteger (UInt64.toNat d)
    rwa [integerBytes_of_nonneg (by omega), Int.natAbs_natCast] at hn
  | float => exact h.2
  | time => exact hmark _ _ (Or.inl rfl)
  | choice names => exact hmark _ _ (Or.inl rfl)
  | option shape => cases hs
  | list shape => exact hmark _ _ (Or.inr (Or.inl rfl))
  | record name fields => exact hmark _ _ (Or.inr (Or.inr rfl))

mutual

/-- **A document of any shape reads as what was written.** -/
theorem Shape.survives : (s : Shape) → (d : s.Data) → s.Faithful d → s.Survives d
  | .flag, b, _ => survives_flag b
  | .text, t, _ => readsValue_text t
  | .int64, n, _ => survives_int64 n
  | .int32, n, _ => survives_int32 n
  | .uint64, n, _ => survives_uint64 n
  | .float, _, h => h.1
  | .time, _, h => h
  | .choice _, _, h => survives_choice h
  | .option shape, none, _ => readsValue_none shape.reader
  | .option shape, some d, h =>
    readsValue_some (shape.survives d (h.2 d rfl)) (head?_write (s := shape) (h.2 d rfl) h.1)
  | .list shape, _, h => readsValue_list fun d hd => shape.survives d (h d hd)
  | .record name fields, ds, h => readsValue_record name (fields.each_survives ds h)

theorem Fields.each_survives : (fs : Fields) → (ds : fs.Data) → fs.Faithful ds →
    fs.Each Shape.Survives (fs.filled ds)
  | .nil, _, _ => trivial
  | .cons _ shape rest, (d, ds), ⟨hname, hd, hds⟩ => by
    have hsurvives := shape.survives d hd
    refine ⟨hname, fun d' hslot => ?_, rest.each_survives ds hds⟩
    split at hslot
    · cases hslot
    · cases hslot
      exact hsurvives

end

theorem Shape.read_write {s : Shape} {d : s.Data} (h : s.Faithful d) :
    s.read (Utf8.encode (s.write d)) = .ok d := by
  have hrun := (s.survives d h).1 [] (by rintro _ ⟨⟩)
  rw [List.append_nil] at hrun
  rw [Shape.read, hrun]
  rfl

/-! ## Messages -/

section

variable {α : Type} [Document α] {a b : α}

/-- **A message reads as the message that was written.** -/
theorem decode_encode (h : (Document.shape α).Faithful (Document.toData a)) :
    decode (Utf8.encode (encode a)) = .ok a := by
  rw [decode, encode, Shape.read_write h]
  exact congrArg Except.ok (Document.ofData_toData a)

/-- **Different messages have different documents.** -/
theorem encode_injective (ha : (Document.shape α).Faithful (Document.toData a))
    (hb : (Document.shape α).Faithful (Document.toData b)) (h : encode a = encode b) : a = b := by
  have hread := decode_encode ha
  rw [h, decode_encode hb] at hread
  exact (Except.ok.inj hread).symm

end

end LikedYou.Json
