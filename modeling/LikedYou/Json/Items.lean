import LikedYou.Json.Reader

/-!
# Lists in documents

Between the brackets stand items with commas between them, and no comma after the last one. A fault
inside an item is reported with its index, a fault noticed before an item begins is not.
-/

namespace LikedYou.Json

/-- Go to the next item of a list: `none` if the list is closed here. -/
def nextItem? (first : Bool) (bs : Bytes) : Except Fault (Option Bytes) :=
  match skipBlanks bs with
  | [] => fail .endOfList []
  | b :: rest =>
    if b = 0x5D then .ok none
    else if first then .ok (some (b :: rest))
    else if b = 0x2C then
      match skipBlanks rest with
      | [] => fail .endOfValue []
      | c :: rest => if c = 0x5D then fail .trailingComma rest else .ok (some (c :: rest))
    else fail .listCommaWanted rest

/-- Go past the bracket that closes a list. -/
def closeList (bs : Bytes) : Except Fault Bytes :=
  match skipBlanks bs with
  | [] => fail .endOfList []
  | b :: rest =>
    if b = 0x5D then .ok rest
    else if b = 0x2C then
      match skipBlanks rest with
      | [] => fail .trailingCharacters []
      | c :: rest => if c = 0x5D then fail .trailingComma rest else fail .trailingCharacters rest
    else fail .trailingCharacters rest

theorem nextItem?_shorter {first : Bool} {bs rest : Bytes}
    (h : nextItem? first bs = .ok (some rest)) : rest.length ≤ bs.length := by
  unfold nextItem? at h
  have h0 := length_skipBlanks_le bs
  split at h
  · cases h
  · next b r hb =>
    rw [hb] at h0
    simp only [List.length_cons] at h0
    split at h
    · cases h
    · split at h
      · cases h
        simpa only [List.length_cons] using h0
      · split at h
        · have h1 := length_skipBlanks_le r
          split at h
          · cases h
          · next c r' hc =>
            rw [hc] at h1
            simp only [List.length_cons] at h1
            split at h
            · cases h
            · cases h
              simp only [List.length_cons]
              omega
        · cases h

theorem closeList_shorter {bs rest : Bytes} (h : closeList bs = .ok rest) :
    rest.length < bs.length := by
  unfold closeList at h
  have h0 := length_skipBlanks_le bs
  split at h
  · cases h
  · next b r hb =>
    rw [hb] at h0
    simp only [List.length_cons] at h0
    repeat' split at h
    · cases h
      omega
    · cases h
    · cases h
    · cases h
    · cases h

/-- The items of a list from the `index`-th one on, with those read so far in reverse. -/
def readItems {α : Type} (r : Reader α) (done : List α) (index : Nat) (bs : Bytes) :
    Except Fault (List α × Bytes) :=
  match _hn : nextItem? (index = 0) bs with
  | .error f => .error f
  | .ok none => (closeList bs).map fun rest => (done.reverse, rest)
  | .ok (some item) =>
    match _hr : r.run item with
    | .error f => .error (f.inside (.item index))
    | .ok (a, rest) => readItems r (a :: done) (index + 1) rest
termination_by bs.length
decreasing_by
  have h1 := nextItem?_shorter _hn
  have h2 : rest.length < item.length := r.shorter _hr
  omega

theorem readItems_shorter {α : Type} {r : Reader α} {done : List α} {index : Nat} {bs : Bytes}
    {p : List α × Bytes} (h : readItems r done index bs = .ok p) : p.2.length < bs.length := by
  fun_induction readItems r done index bs with
  | case1 => cases h
  | case2 done index bs _ =>
    cases hc : closeList bs with
    | error f => simp [hc, Except.map] at h
    | ok rest =>
      have := closeList_shorter hc
      simp [hc, Except.map] at h
      subst h
      exact this
  | case3 => cases h
  | case4 done index bs item hn a rest hr ih =>
    have h1 := nextItem?_shorter hn
    have h2 : rest.length < item.length := r.shorter hr
    have h3 := ih h
    omega

/-- A list that begins with `b`. -/
def readList {α : Type} (r : Reader α) (b : UInt8) (rest : Bytes) :
    Except Fault (List α × Bytes) :=
  if b = 0x5B then readItems r [] 0 rest else .error (mismatch "a sequence" (b :: rest))

theorem readList_shorter {α : Type} {r : Reader α} {b : UInt8} {rest : Bytes}
    {p : List α × Bytes} (h : readList r b rest = .ok p) : p.2.length ≤ rest.length := by
  unfold readList at h
  split at h
  · exact Nat.le_of_lt (readItems_shorter h)
  · cases h

/-- A list. -/
def Reader.list {α : Type} (r : Reader α) : Reader (List α) := ofStart (readList r) readList_shorter

end LikedYou.Json
