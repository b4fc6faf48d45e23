import LikedYou.Json.Document
import LikedYou.Proofs.Json.Number
import LikedYou.Proofs.Json.Text

/-!
# Lists in documents

`readsValue_list` — the items of a list read as these items, if each of them reads as itself.

How far a value goes is not always known from its own bytes: a number goes on as long as digits
follow. So what is said of a reader is said for everything that may follow, except what would
continue a number.
-/

namespace LikedYou.Json

/-! ## What a reader makes of some bytes -/

/-- Whether a value can begin with a byte, also as an item of a list. -/
def StartsValue (b : UInt8) : Prop := isBlank b = false ∧ b ≠ 0x5D

namespace Reader

variable {α : Type}

/-- Whether the bytes `bs` read as `a`, whatever follows them as long as no number goes on there. -/
def Reads (r : Reader α) (bs : Bytes) (a : α) : Prop :=
  ∀ rest, EndsNumber rest → r.run (bs ++ rest) = .ok (a, rest)

/-- Whether the bytes `bs` are a value that reads as `a`. -/
def ReadsValue (r : Reader α) (bs : Bytes) (a : α) : Prop :=
  r.Reads bs a ∧ ∃ b tail, bs = b :: tail ∧ StartsValue b

theorem run_ofStart {read : UInt8 → Bytes → Except Fault (α × Bytes)}
    (hread : ∀ {b rest p}, read b rest = .ok p → p.2.length ≤ rest.length) (bs : Bytes) :
    (ofStart read hread).run bs = readStart read bs := rfl

end Reader

theorem endsNumber_cons {b : UInt8} (h : isDigit b = false ∧ b ≠ 0x2E ∧ b ≠ 0x65 ∧ b ≠ 0x45)
    (rest : Bytes) : EndsNumber (b :: rest) := by
  intro b' hb'
  cases hb'
  exact h

theorem skipBlanks_cons {b : UInt8} (h : isBlank b = false) (rest : Bytes) :
    skipBlanks (b :: rest) = b :: rest := by
  rw [skipBlanks, List.dropWhile_cons_of_neg (by simp [h])]

theorem readStart_cons {α : Type} {read : UInt8 → Bytes → Except Fault (α × Bytes)} {b : UInt8}
    (h : isBlank b = false) (rest : Bytes) : readStart read (b :: rest) = read b rest := by
  rw [readStart, skipBlanks_cons h]

/-! ## Parts with commas between them -/

/-- What stands before a part: nothing before the first one, a comma before the others. -/
def separator (first : Bool) : Bytes := if first then [] else [0x2C]

/-- Parts, each after its separator. -/
def joined : Bool → List Bytes → Bytes
  | _, [] => []
  | first, part :: parts => separator first ++ part ++ joined false parts

theorem encode_commaSeparated (parts : List (List Char)) :
    Utf8.encode (commaSeparated parts) = joined true (parts.map Utf8.encode) := by
  rcases parts with - | ⟨part, parts⟩
  · rfl
  induction parts generalizing part with
  | nil => simp [commaSeparated, joined, separator]
  | cons next parts ih =>
    rw [commaSeparated, List.intercalate_cons_cons, ← commaSeparated, Utf8.encode_append,
      Utf8.encode_append, ih]
    simp [joined, separator]
    rfl

theorem endsNumber_joined (parts : List Bytes) {b : UInt8}
    (h : isDigit b = false ∧ b ≠ 0x2E ∧ b ≠ 0x65 ∧ b ≠ 0x45) (rest : Bytes) :
    EndsNumber (joined false parts ++ b :: rest) := by
  cases parts with
  | nil => exact endsNumber_cons h rest
  | cons part parts => exact endsNumber_cons (by decide) _

/-! ## Items -/

theorem nextItem?_close (first : Bool) (rest : Bytes) :
    nextItem? first (0x5D :: rest) = .ok none := by
  rw [nextItem?, skipBlanks_cons (by decide)]
  rfl

theorem nextItem?_value (first : Bool) {b : UInt8} (h : StartsValue b) (rest : Bytes) :
    nextItem? first (separator first ++ b :: rest) = .ok (some (b :: rest)) := by
  cases first with
  | true =>
    show nextItem? true (b :: rest) = _
    rw [nextItem?, skipBlanks_cons h.1]
    simp only [if_neg h.2, if_true]
  | false =>
    show nextItem? false (0x2C :: b :: rest) = _
    rw [nextItem?, skipBlanks_cons (by decide)]
    simp only [skipBlanks_cons h.1, if_neg h.2]
    rfl

theorem closeList_close (rest : Bytes) : closeList (0x5D :: rest) = .ok rest := by
  rw [closeList, skipBlanks_cons (by decide)]
  rfl

section

variable {α : Type} {r : Reader α}

theorem readItems_close (done : List α) (index : Nat) (rest : Bytes) :
    readItems r done index (0x5D :: rest) = .ok (done.reverse, rest) := by
  have hnext := nextItem?_close (decide (index = 0)) rest
  rw [readItems]
  split
  · next he => rw [hnext] at he; cases he
  · rw [closeList_close]
    rfl
  · next he => rw [hnext] at he; cases he

theorem readItems_step {done : List α} {index : Nat} {bs item rest : Bytes} {a : α}
    (hnext : nextItem? (decide (index = 0)) bs = .ok (some item))
    (hrun : r.run item = .ok (a, rest)) :
    readItems r done index bs = readItems r (a :: done) (index + 1) rest := by
  rw [readItems]
  split
  · next he => rw [hnext] at he; cases he
  · next he => rw [hnext] at he; cases he
  · next item' he =>
    rw [hnext] at he
    cases he
    split
    · next he => rw [hrun] at he; cases he
    · next a' rest' he =>
      rw [hrun] at he
      cases he
      rfl

theorem readItems_joined {write : α → Bytes} {as : List α}
    (h : ∀ a ∈ as, r.ReadsValue (write a) a) (done : List α) (index : Nat) (rest : Bytes) :
    readItems r done index (joined (decide (index = 0)) (as.map write) ++ 0x5D :: rest) =
      .ok (done.reverse ++ as, rest) := by
  induction as generalizing done index with
  | nil =>
    rw [List.append_nil]
    exact readItems_close done index rest
  | cons a as ih =>
    obtain ⟨hreads, b, tail, hb, hstart⟩ := h a List.mem_cons_self
    have hrun := hreads _ (endsNumber_joined (as.map write) (b := 0x5D) (by decide) rest)
    -- what follows the item is a comma or the end of the list, so it cannot go on there
    have hnext := nextItem?_value (decide (index = 0)) hstart
      (tail ++ (joined false (as.map write) ++ 0x5D :: rest))
    rw [← List.cons_append, ← hb] at hnext
    have hmore := ih (fun x hx => h x (List.mem_cons_of_mem a hx)) (a :: done) (index + 1)
    rw [show decide (index + 1 = 0) = false by simp] at hmore
    rw [List.map_cons, joined, List.append_assoc, List.append_assoc, readItems_step hnext hrun,
      hmore]
    simp

/-- **The items of a list read as these items.** -/
theorem readsValue_list {write : α → List Char} {as : List α}
    (h : ∀ a ∈ as, r.ReadsValue (Utf8.encode (write a)) a) :
    (Reader.list r).ReadsValue
      (Utf8.encode ('[' :: commaSeparated (as.map write) ++ [']'])) as := by
  have hbytes : Utf8.encode ('[' :: commaSeparated (as.map write) ++ [']']) =
      0x5B :: (joined true (as.map fun a => Utf8.encode (write a)) ++ [0x5D]) := by
    rw [List.cons_append, Utf8.encode_cons, Utf8.encode_append, encode_commaSeparated,
      List.map_map]
    rfl
  rw [hbytes]
  refine ⟨fun rest _ => ?_, _, _, rfl, by decide, by decide⟩
  rw [Reader.list, Reader.run_ofStart, List.cons_append, readStart_cons (by decide), readList,
    if_pos rfl, List.append_assoc, List.singleton_append]
  exact readItems_joined h [] 0 rest

end

end LikedYou.Json
