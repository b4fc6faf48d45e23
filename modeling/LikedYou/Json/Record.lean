import LikedYou.Json.Items
import LikedYou.Json.Shape
import LikedYou.Json.Skip

/-!
# Records in documents

A record is an object of named fields, in any order, or a list of its fields in their order. Members
that are no fields are passed over.

## Where a fault is noticed

Some faults belong to a record as a whole: a field that is repeated or missing, a list with too few
items. Their place is where reading would have gone on after closing the record, if it is closed
there. So inside a record such a fault is a mere cause, and gets its place when the record is left.
-/

namespace LikedYou.Json

/-- What went wrong inside a record: a fault with its place, or a cause for which the record is left
with `unread` still to come. -/
inductive Trouble where
  | fault (f : Fault)
  | cause (c : Cause) (unread : Bytes)

/-- Give a trouble its place: past the closing bracket, if that is what comes next. -/
def Trouble.leave (closing : UInt8) : Trouble → Fault
  | .fault f => f
  | .cause c unread =>
    match skipBlanks unread with
    | [] => ⟨c, [], []⟩
    | b :: rest => ⟨c, if b = closing then rest else b :: rest, []⟩

/-- Readers for the fields of a record. -/
def Fields.Readers : Fields → Type
  | .nil => Unit
  | .cons _ shape rest => Reader shape.Data × rest.Readers

/-- Read the value of the member `name`: the colon, then what `r` reads. What is wrong with the value
is inside the member, what is wrong before it is not. -/
def readMemberValue {α : Type} (name : String) (r : Bytes → Except Fault (α × Bytes)) (bs : Bytes) :
    Except Trouble (α × Bytes) :=
  match skipBlanks bs with
  | [] => .error (.fault ⟨.endOfObject, [], []⟩)
  | b :: rest =>
    if b = 0x3A then
      match r rest with
      | .error f => .error (.fault (f.inside (.field name)))
      | .ok p => .ok p
    else .error (.fault ⟨.colonWanted, rest, []⟩)

theorem readMemberValue_shorter {α : Type} {name : String}
    {r : Bytes → Except Fault (α × Bytes)}
    (hr : ∀ {bs p}, r bs = .ok p → p.2.length ≤ bs.length) {bs : Bytes} {p : α × Bytes}
    (h : readMemberValue name r bs = .ok p) : p.2.length ≤ bs.length := by
  unfold readMemberValue at h
  have h0 := length_skipBlanks_le bs
  split at h
  · cases h
  · next b rest hb =>
    rw [hb] at h0
    simp only [List.length_cons] at h0
    split at h
    · split at h
      · cases h
      · next hp =>
        cases h
        have := hr hp
        omega
    · cases h

/-- Read the member `name` of an object, after its name, into the slot of its field. A member that
is no field is passed over. -/
def readMember (name : String) : (fs : Fields) → fs.Readers → fs.Slots → Bytes →
    Except Trouble (fs.Slots × Bytes)
  | .nil, _, _, bs =>
    readMemberValue name (fun bs => (skipValue bs).map fun rest => ((), rest)) bs
  | .cons field _ rest, (r, rs), (slot, slots), bs =>
    if field.name = name then
      match slot with
      | some _ => .error (.cause (.repeatedField name) bs)
      | none =>
        match readMemberValue name r.run bs with
        | .error t => .error t
        | .ok (d, bs) => .ok ((some d, slots), bs)
    else
      match readMember name rest rs slots bs with
      | .error t => .error t
      | .ok (slots, bs) => .ok ((slot, slots), bs)

theorem readMember_shorter {name : String} : ∀ (fs : Fields) {rs : fs.Readers}
    {slots : fs.Slots} {bs : Bytes} {p : fs.Slots × Bytes},
    readMember name fs rs slots bs = .ok p → p.2.length ≤ bs.length
  | .nil, _, _, _, _, h => by
    rw [readMember] at h
    refine readMemberValue_shorter ?_ h
    intro bs p hp
    cases hs : skipValue bs with
    | error f => simp [hs, Except.map] at hp
    | ok rest =>
      have := skipValue_shorter hs
      simp [hs, Except.map] at hp
      subst hp
      exact Nat.le_of_lt this
  | .cons field _ rest, (r, rs), (slot, slots), _, _, h => by
    simp only [readMember] at h
    split at h
    · split at h
      · cases h
      · split at h
        · cases h
        · next d bs' hr =>
          cases h
          exact readMemberValue_shorter (fun hp => Nat.le_of_lt (r.shorter hp)) hr
    · split at h
      · cases h
      · next slots' bs' hr =>
        cases h
        exact readMember_shorter rest hr

/-- Go to the next member of an object, past the mark that opens its name. `none` means that the
object is closed, and comes with what follows its closing bracket. -/
def nextMember (first : Bool) (bs : Bytes) : Except Fault (Bool × Bytes) :=
  match skipBlanks bs with
  | [] => fail .endOfObject []
  | b :: rest =>
    if b = 0x7D then .ok (false, rest)
    else if first then if b = 0x22 then .ok (true, rest) else fail .keyWanted rest
    else if b = 0x2C then
      match skipBlanks rest with
      | [] => fail .endOfValue []
      | c :: rest =>
        if c = 0x22 then .ok (true, rest)
        else if c = 0x7D then fail .trailingComma rest
        else fail .keyWanted rest
    else fail .objectCommaWanted rest

theorem nextMember_shorter {first : Bool} {bs : Bytes} {p : Bool × Bytes}
    (h : nextMember first bs = .ok p) : p.2.length < bs.length := by
  unfold nextMember at h
  have h0 := length_skipBlanks_le bs
  split at h
  · cases h
  · next b r hb =>
    rw [hb] at h0
    simp only [List.length_cons] at h0
    split at h
    · cases h
      simp only
      omega
    · split at h
      · split at h
        · cases h
          simp only
          omega
        · cases h
      · split at h
        · have h1 := length_skipBlanks_le r
          split at h
          · cases h
          · next c r' hc =>
            rw [hc] at h1
            simp only [List.length_cons] at h1
            repeat' split at h
            · cases h
              simp only
              omega
            · cases h
            · cases h
        · cases h

/-- The members of an object, up to its closing bracket. -/
def readMembers (fs : Fields) (rs : fs.Readers) (first : Bool) (slots : fs.Slots) (bs : Bytes) :
    Except Trouble (fs.Slots × Bytes) :=
  match _hn : nextMember first bs with
  | .error f => .error (.fault f)
  | .ok (false, rest) => .ok (slots, rest)
  | .ok (true, name) =>
    match _ht : readText name with
    | .error f => .error (.fault f)
    | .ok (name, rest) =>
      match _hm : readMember name fs rs slots rest with
      | .error t => .error t
      | .ok (slots, rest) => readMembers fs rs false slots rest
termination_by bs.length
decreasing_by
  have h1 := nextMember_shorter _hn
  have h2 := readText_shorter _ht
  have h3 := readMember_shorter fs _hm
  simp only at h1 h2 h3
  omega

theorem readMembers_shorter {fs : Fields} {rs : fs.Readers} {first : Bool} {slots : fs.Slots}
    {bs : Bytes} {p : fs.Slots × Bytes} (h : readMembers fs rs first slots bs = .ok p) :
    p.2.length < bs.length := by
  fun_induction readMembers fs rs first slots bs with
  | case1 => cases h
  | case2 first slots bs rest hn =>
    cases h
    exact nextMember_shorter hn
  | case3 => cases h
  | case4 => cases h
  | case5 first slots bs name hn s rest ht slots' rest' hm ih =>
    have h1 := nextMember_shorter hn
    have h2 := readText_shorter ht
    have h3 := readMember_shorter fs hm
    have h4 := ih h
    simp only at h1 h2 h3
    omega

/-- The fields of a record given in a list, from the `index`-th one on. `record` and `size` are the
name of the record and the number of all its fields. -/
def readFieldItems (record : String) (size : Nat) : (fs : Fields) → fs.Readers →
    (index : Nat) → (first : Bool) → Bytes → Except Trouble (fs.Data × Bytes)
  | .nil, _, _, _, bs => .ok ((), bs)
  | .cons field shape rest, (r, rs), index, first, bs =>
    match nextItem? first bs with
    | .error f => .error (.fault f)
    | .ok none =>
      match if field.defaulted then shape.default? else none with
      | none => .error (.cause (.tooFewItems index record size) bs)
      | some d =>
        match readFieldItems record size rest rs (index + 1) first bs with
        | .error t => .error t
        | .ok (ds, bs) => .ok ((d, ds), bs)
    | .ok (some item) =>
      match r.run item with
      | .error f => .error (.fault (f.inside (.item index)))
      | .ok (d, bs) =>
        match readFieldItems record size rest rs (index + 1) false bs with
        | .error t => .error t
        | .ok (ds, bs) => .ok ((d, ds), bs)

theorem readFieldItems_shorter {record : String} {size : Nat} : ∀ (fs : Fields)
    {rs : fs.Readers} {index : Nat} {first : Bool} {bs : Bytes} {p : fs.Data × Bytes},
    readFieldItems record size fs rs index first bs = .ok p → p.2.length ≤ bs.length
  | .nil, _, _, _, _, _, h => by
    rw [readFieldItems] at h
    cases h
    exact Nat.le_refl _
  | .cons field shape rest, (r, rs), _, _, _, _, h => by
    rw [readFieldItems] at h
    split at h
    · cases h
    · split at h
      · cases h
      · split at h
        · cases h
        · next hr =>
          cases h
          exact readFieldItems_shorter rest hr
    · next item hn =>
      split at h
      · cases h
      · next d bs' hd =>
        split at h
        · cases h
        · next hr =>
          cases h
          have h1 := nextItem?_shorter hn
          have h2 : bs'.length < item.length := r.shorter hd
          have h3 := readFieldItems_shorter rest hr
          simp only at h3 ⊢
          omega

/-- A record given as a list, after its opening bracket. -/
def readRecordList (name : String) (fs : Fields) (rs : fs.Readers) (bs : Bytes) :
    Except Fault (fs.Data × Bytes) :=
  match readFieldItems name fs.size fs rs 0 true bs with
  | .error t => .error (t.leave 0x5D)
  | .ok (ds, rest) => (closeList rest).map fun rest => (ds, rest)

/-- A record given as an object, after its opening bracket. -/
def readRecordObject (fs : Fields) (rs : fs.Readers) (bs : Bytes) :
    Except Fault (fs.Data × Bytes) :=
  match readMembers fs rs true fs.noSlots bs with
  | .error t => .error (t.leave 0x7D)
  | .ok (slots, rest) =>
    match fs.fill slots with
    | .error name => fail (.missingField name) rest
    | .ok ds => .ok (ds, rest)

/-- A record that begins with `b`. -/
def readRecord (name : String) (fs : Fields) (rs : fs.Readers) (b : UInt8) (rest : Bytes) :
    Except Fault (fs.Data × Bytes) :=
  if b = 0x5B then readRecordList name fs rs rest
  else if b = 0x7B then readRecordObject fs rs rest
  else .error (mismatch s!"struct {name}" (b :: rest))

theorem readRecord_shorter {name : String} {fs : Fields} {rs : fs.Readers} {b : UInt8}
    {rest : Bytes} {p : fs.Data × Bytes} (h : readRecord name fs rs b rest = .ok p) :
    p.2.length ≤ rest.length := by
  unfold readRecord at h
  split at h
  · unfold readRecordList at h
    split at h
    · cases h
    · next ds r hr =>
      have h1 := readFieldItems_shorter fs hr
      cases hc : closeList r with
      | error f => simp [hc, Except.map] at h
      | ok r' =>
        have h2 := closeList_shorter hc
        simp [hc, Except.map] at h
        subst h
        simp only at h1 ⊢
        omega
  · split at h
    · unfold readRecordObject at h
      split at h
      · cases h
      · next slots r hr =>
        have h1 := readMembers_shorter hr
        split at h
        · cases h
        · cases h
          exact Nat.le_of_lt h1
    · cases h

/-- A record. -/
def Reader.record (name : String) (fs : Fields) (rs : fs.Readers) : Reader fs.Data :=
  ofStart (readRecord name fs rs) readRecord_shorter

end LikedYou.Json
