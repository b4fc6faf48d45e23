import LikedYou.Sql.Keyset

/-!
# How the text of a selection reads

* `Sql.Select.read?` — a reader of selections: first words, then phrases, then the whole
* `Sql.Select.read?_text` — the text of a selection reads as that selection
* `Sql.mentioned` — the places that a text mentions, in order
* `Sql.Select.mentioned_text` — those are the places of its conditions, and then that of its limit

The reader knows the wording of each phrase, and neither how a text is put together nor for which page
it was.
-/

namespace LikedYou.Sql

/-! ## Words -/

/-- The words of a text, which stand between blanks. -/
def words (text : String) : List String := (text.toList.splitOn ' ').map String.ofList

theorem words_append (a b : String) : words (a ++ " " ++ b) = words a ++ words b := by
  have hblank : (a ++ " " ++ b).toList = a.toList ++ ' ' :: b.toList := by
    rw [String.toList_append, String.toList_append, List.append_assoc]
    rfl
  rw [words, hblank, List.splitOn_append_cons_self, List.map_append]
  rfl

theorem words_of_not_mem {word : String} (h : ' ' ∉ word.toList) : words word = [word] := by
  rw [words, List.splitOn_eq_singleton h, List.map_singleton, String.ofList_toList]

/-- The place of a parameter, as it is written: a dollar sign and the number. -/
def placeWord (place : Nat) : String := "$" ++ place.repr

theorem toList_placeWord (place : Nat) :
    (placeWord place).toList = '$' :: Nat.toDigits 10 place := by
  rw [placeWord, Nat.repr_eq_ofList_toDigits, String.toList_append, String.toList_ofList,
    String.toList_ofList, List.singleton_append]

/-- The place that a word tells. -/
def place? (word : String) : Option Nat :=
  match word.toList with
  | '$' :: digits =>
    if digits.isEmpty || !digits.all Char.isDigit then none
    else some (Nat.ofDigitChars 10 digits 0)
  | _ => none

theorem isDigit_of_mem_toDigits {n : Nat} {c : Char} (h : c ∈ Nat.toDigits 10 n) : c.isDigit :=
  Nat.isDigit_of_mem_toDigits (by decide) (Nat.le_refl 10) h

theorem place?_placeWord (place : Nat) : place? (placeWord place) = some place := by
  have hempty : (Nat.toDigits 10 place).isEmpty = false :=
    List.isEmpty_eq_false_iff.mpr Nat.toDigits_ne_nil
  have hall : (Nat.toDigits 10 place).all Char.isDigit = true :=
    List.all_eq_true.mpr fun c => isDigit_of_mem_toDigits
  rw [place?, toList_placeWord]
  simp only [hempty, hall]
  rw [Nat.ofDigitChars_ten_toDigits]
  rfl

theorem words_placeWord (place : Nat) : words (placeWord place) = [placeWord place] := by
  refine words_of_not_mem ?_
  rw [toList_placeWord, List.mem_cons, not_or]
  exact ⟨by decide, fun h => absurd (isDigit_of_mem_toDigits h) (by decide)⟩

/-! ## Phrases -/

/-- What some words of a selection say together. -/
inductive Phrase where
  /-- The actor and the second of the decisions where something holds. -/
  | likersWhere
  | condition (c : Condition)
  | and
  /-- Newest first, and at most as many as the parameter at `limit` tells. -/
  | newestFirst (limit : Nat)
  deriving DecidableEq, Repr

/-- What the words of a selection say. -/
def phrases? : List String → Option (List Phrase)
  | [] => some []
  | "SELECT" :: "d.actor_user_id," :: "EXTRACT(EPOCH" :: "FROM" :: "d.created_at)::bigint" ::
      "AS" :: "timestamp" :: "FROM" :: "decisions" :: "d" :: "WHERE" :: rest =>
    (phrases? rest).map (.likersWhere :: ·)
  | "d.recipient_user_id" :: "=" :: word :: rest => do
    let place ← place? word
    (phrases? rest).map (.condition (.recipientIs place) :: ·)
  | "d.liked_recipient" :: "=" :: "TRUE" :: rest => (phrases? rest).map (.condition .liked :: ·)
  | "NOT" :: "EXISTS" :: "(SELECT" :: "1" :: "FROM" :: "decisions" :: "r" ::
      "WHERE" :: "r.actor_user_id" :: "=" :: "d.recipient_user_id" ::
      "AND" :: "r.recipient_user_id" :: "=" :: "d.actor_user_id)" :: rest =>
    (phrases? rest).map (.condition .undecided :: ·)
  | "EXTRACT(EPOCH" :: "FROM" :: "d.created_at)::bigint" :: "<" :: word :: rest => do
    let place ← place? word
    (phrases? rest).map (.condition (.before place) :: ·)
  | "AND" :: rest => (phrases? rest).map (.and :: ·)
  | "ORDER" :: "BY" :: "d.created_at" :: "DESC" :: "LIMIT" :: word :: rest => do
    let place ← place? word
    (phrases? rest).map (.newestFirst place :: ·)
  | _ => none

/-- The selection after its first phrase. -/
def ofPhrases? : List Phrase → Option Select
  | [.condition c, .newestFirst limit] => some ⟨[c], limit⟩
  | .condition c :: .and :: rest =>
    (ofPhrases? rest).map fun s => { s with conditions := c :: s.conditions }
  | _ => none

/-- The selection that a text reads as. -/
def Select.read? (text : String) : Option Select := do
  match ← phrases? (words text) with
  | .likersWhere :: rest => ofPhrases? rest
  | _ => none

/-! ## The words of a selection -/

/-- The words of a condition. -/
def Condition.words : Condition → List String
  | recipientIs place => ["d.recipient_user_id", "=", placeWord place]
  | liked => ["d.liked_recipient", "=", "TRUE"]
  | undecided =>
    ["NOT", "EXISTS", "(SELECT", "1", "FROM", "decisions", "r", "WHERE", "r.actor_user_id", "=",
      "d.recipient_user_id", "AND", "r.recipient_user_id", "=", "d.actor_user_id)"]
  | before place =>
    ["EXTRACT(EPOCH", "FROM", "d.created_at)::bigint", "<", placeWord place]

theorem Condition.words_text (c : Condition) : Sql.words c.text = c.words := by
  cases c with
  | recipientIs place =>
    have htext : (recipientIs place).text = "d.recipient_user_id =" ++ " " ++ placeWord place := rfl
    have hwords : Sql.words "d.recipient_user_id =" = ["d.recipient_user_id", "="] := by
      decide +kernel
    rw [htext, words_append, words_placeWord, hwords]
    rfl
  | liked => decide +kernel
  | undecided => decide +kernel
  | before place =>
    have htext : (before place).text =
        "EXTRACT(EPOCH FROM d.created_at)::bigint <" ++ " " ++ placeWord place := rfl
    have hwords : Sql.words "EXTRACT(EPOCH FROM d.created_at)::bigint <" =
        ["EXTRACT(EPOCH", "FROM", "d.created_at)::bigint", "<"] := by decide +kernel
    rw [htext, words_append, words_placeWord, hwords]
    rfl

theorem phrases?_words (c : Condition) (rest : List String) :
    phrases? (c.words ++ rest) = (phrases? rest).map (.condition c :: ·) := by
  cases c with
  | recipientIs place =>
    simp only [Condition.words, List.cons_append, List.nil_append, phrases?, place?_placeWord]
    rfl
  | liked => simp only [Condition.words, List.cons_append, List.nil_append, phrases?]
  | undecided => simp only [Condition.words, List.cons_append, List.nil_append, phrases?]
  | before place =>
    simp only [Condition.words, List.cons_append, List.nil_append, phrases?, place?_placeWord]
    rfl

/-- Words at both ends of a text. -/
theorem words_framed {head head' tail tail' : String} (hhead : head = head' ++ " ")
    (htail : tail = " " ++ tail') (text : String) :
    words (head ++ text ++ tail) = words head' ++ words text ++ words tail' := by
  subst hhead htail
  rw [← String.append_assoc, words_append, words_append]

/-- The words before the conditions. -/
def wordsBefore : List String :=
  ["SELECT", "d.actor_user_id,", "EXTRACT(EPOCH", "FROM", "d.created_at)::bigint", "AS",
    "timestamp", "FROM", "decisions", "d", "WHERE"]

/-- The words after the conditions. -/
def wordsAfter (limit : Nat) : List String :=
  ["ORDER", "BY", "d.created_at", "DESC", "LIMIT", placeWord limit]

theorem Select.words_text (s : Select) : Sql.words s.text =
    wordsBefore ++ Sql.words (" AND ".intercalate (s.conditions.map Condition.text)) ++
      wordsAfter s.limit := by
  have htail : " ORDER BY d.created_at DESC LIMIT $" ++ s.limit.repr =
      " " ++ ("ORDER BY d.created_at DESC LIMIT" ++ " " ++ placeWord s.limit) := by
    rw [placeWord, ← String.append_assoc, ← String.append_assoc]
    exact congrArg (· ++ s.limit.repr) (by decide +kernel)
  have hbefore : Sql.words ("SELECT d.actor_user_id, EXTRACT(EPOCH FROM d.created_at)::bigint " ++
      "AS timestamp FROM decisions d WHERE") = wordsBefore := by decide +kernel
  have hafter : Sql.words ("ORDER BY d.created_at DESC LIMIT" ++ " " ++ placeWord s.limit) =
      wordsAfter s.limit := by
    have hwords : Sql.words "ORDER BY d.created_at DESC LIMIT" =
        ["ORDER", "BY", "d.created_at", "DESC", "LIMIT"] := by decide +kernel
    rw [words_append, words_placeWord, hwords]
    rfl
  rw [← hbefore, ← hafter]
  exact words_framed (by decide +kernel) htail _

theorem words_and (a b : String) : words (a ++ " AND " ++ b) = words a ++ "AND" :: words b := by
  have hand : " AND " = " " ++ "AND" ++ " " := by decide +kernel
  have hword : words "AND" = ["AND"] := by decide +kernel
  rw [hand, ← String.append_assoc, ← String.append_assoc, words_append, words_append, hword,
    List.append_assoc]
  rfl

/-! ## Reading a selection -/

theorem phrases?_wordsBefore (rest : List String) :
    phrases? (wordsBefore ++ rest) = (phrases? rest).map (.likersWhere :: ·) := by
  simp only [wordsBefore, List.cons_append, List.nil_append, phrases?]

theorem phrases?_wordsAfter (limit : Nat) :
    phrases? (wordsAfter limit) = some [.newestFirst limit] := by
  simp only [wordsAfter, phrases?, place?_placeWord]
  rfl

/-- Conditions that are joined read as the conditions. -/
theorem ofPhrases?_conditions (c : Condition) (cs : List Condition) (limit : Nat) :
    (phrases? (words (" AND ".intercalate ((c :: cs).map Condition.text)) ++ wordsAfter limit)).bind
      ofPhrases? = some ⟨c :: cs, limit⟩ := by
  induction cs generalizing c with
  | nil =>
    rw [List.map_singleton, String.intercalate_singleton, c.words_text, phrases?_words,
      phrases?_wordsAfter]
    rfl
  | cons c' cs ih =>
    have hand : ∀ rest, phrases? ("AND" :: rest) = (phrases? rest).map (.and :: ·) := fun rest => by
      simp only [phrases?]
    rw [List.map_cons, List.map_cons, String.intercalate_cons_cons, ← List.map_cons, words_and,
      c.words_text, List.append_assoc, List.cons_append, phrases?_words, hand, Option.map_map,
      Option.bind_map]
    have hrest := congrArg (Option.map fun s : Select => { s with conditions := c :: s.conditions })
      (ih c')
    rw [Option.map_bind] at hrest
    exact hrest

/-- **The text of a selection reads as that selection.** -/
theorem Select.read?_text {s : Select} (h : s.conditions ≠ []) : read? s.text = some s := by
  obtain ⟨conditions, limit⟩ := s
  obtain ⟨c, cs, rfl⟩ := List.exists_cons_of_ne_nil h
  rw [read?, words_text, List.append_assoc, phrases?_wordsBefore]
  have hread := ofPhrases?_conditions c cs limit
  rw [Option.bind_eq_bind, Option.bind_map]
  exact hread

/-! ## Places -/

/-- The places that some characters mention, in order: numbers behind dollar signs. -/
def mentioned : List Char → List Nat
  | [] => []
  | c :: rest =>
    let digits := rest.takeWhile Char.isDigit
    if c = '$' ∧ digits ≠ [] then Nat.ofDigitChars 10 digits 0 :: mentioned rest
    else mentioned rest

/-- The places that a text mentions. -/
def places (text : String) : List Nat := mentioned text.toList

/-- The places of a condition. -/
def Condition.places : Condition → List Nat
  | recipientIs place | before place => [place]
  | liked | undecided => []

theorem mentioned_of_ne {c : Char} (h : c ≠ '$') (cs : List Char) :
    mentioned (c :: cs) = mentioned cs := by
  simp only [mentioned, h, false_and, if_false]

theorem mentioned_of_not_mem {cs : List Char} (h : '$' ∉ cs) : mentioned cs = [] := by
  induction cs with
  | nil => rfl
  | cons c cs ih =>
    rw [List.mem_cons, not_or] at h
    rw [mentioned_of_ne (Ne.symm h.1), ih h.2]

theorem takeWhile_append_of_neg {α : Type} {p : α → Bool} {a : α} (h : p a = false)
    (front back : List α) : (front ++ a :: back).takeWhile p = front.takeWhile p := by
  induction front with
  | nil => exact List.takeWhile_cons_of_neg (by rw [h]; exact Bool.false_ne_true)
  | cons b front ih => rw [List.cons_append, List.takeWhile_cons, List.takeWhile_cons, ih]

/-- No number goes on behind a blank. -/
theorem mentioned_append_blank (front back : List Char) :
    mentioned (front ++ ' ' :: back) = mentioned front ++ mentioned back := by
  induction front with
  | nil => exact mentioned_of_ne (by decide) back
  | cons c front ih =>
    simp only [List.cons_append, mentioned, takeWhile_append_of_neg (show ' '.isDigit = false from rfl),
      ih]
    split
    · rfl
    · rfl

theorem mentioned_intercalate (parts : List (List Char)) :
    mentioned ([' '].intercalate parts) = parts.flatMap mentioned := by
  induction parts with
  | nil => rfl
  | cons part parts ih =>
    cases parts with
    | nil => rw [List.intercalate_singleton, List.flatMap_singleton]
    | cons part' parts =>
      have hcons : [' '].intercalate (part :: part' :: parts) =
          part ++ ' ' :: [' '].intercalate (part' :: parts) := rfl
      rw [hcons, mentioned_append_blank, ih]
      rfl

/-- The places of a text are those of its words. -/
theorem places_eq (text : String) : places text = (words text).flatMap places := by
  have hparts := mentioned_intercalate (text.toList.splitOn ' ')
  rw [List.intercalate_splitOn] at hparts
  rw [places, hparts, words, List.flatMap_map]
  simp only [places, String.toList_ofList]

theorem places_placeWord (place : Nat) : places (placeWord place) = [place] := by
  have hdigits : (Nat.toDigits 10 place).takeWhile Char.isDigit = Nat.toDigits 10 place :=
    calc (Nat.toDigits 10 place).takeWhile Char.isDigit
      _ = (Nat.toDigits 10 place ++ []).takeWhile Char.isDigit := by rw [List.append_nil]
      _ = Nat.toDigits 10 place ++ [] :=
        List.takeWhile_append_of_pos fun c => isDigit_of_mem_toDigits
      _ = Nat.toDigits 10 place := List.append_nil _
  have hrest : mentioned (Nat.toDigits 10 place) = [] := mentioned_of_not_mem fun h =>
    absurd (isDigit_of_mem_toDigits h) (by decide)
  rw [places, toList_placeWord]
  simp only [mentioned, hdigits, hrest, Nat.ofDigitChars_ten_toDigits]
  exact if_pos ⟨trivial, Nat.toDigits_ne_nil⟩

theorem Condition.flatMap_places_words (c : Condition) : c.words.flatMap Sql.places = c.places := by
  cases c with
  | recipientIs place =>
    have hfront : ["d.recipient_user_id", "="].flatMap Sql.places = [] := by decide +kernel
    show (["d.recipient_user_id", "="] ++ [placeWord place]).flatMap Sql.places = [place]
    rw [List.flatMap_append, hfront, List.flatMap_singleton, places_placeWord]
    rfl
  | liked => decide +kernel
  | undecided => decide +kernel
  | before place =>
    have hfront : ["EXTRACT(EPOCH", "FROM", "d.created_at)::bigint", "<"].flatMap Sql.places = [] := by
      decide +kernel
    show (["EXTRACT(EPOCH", "FROM", "d.created_at)::bigint", "<"] ++ [placeWord place]).flatMap
      Sql.places = [place]
    rw [List.flatMap_append, hfront, List.flatMap_singleton, places_placeWord]
    rfl

theorem flatMap_places_conditions (conditions : List Condition) :
    (words (" AND ".intercalate (conditions.map Condition.text))).flatMap places =
      conditions.flatMap Condition.places := by
  induction conditions with
  | nil => decide +kernel
  | cons c cs ih =>
    cases cs with
    | nil =>
      rw [List.map_singleton, String.intercalate_singleton, c.words_text, c.flatMap_places_words,
        List.flatMap_singleton]
    | cons c' cs =>
      have hand : places "AND" = [] := by decide +kernel
      rw [List.map_cons, List.map_cons, String.intercalate_cons_cons, ← List.map_cons, words_and,
        c.words_text, List.flatMap_append, List.flatMap_cons, ih, hand, c.flatMap_places_words]
      rfl

/-- **A text mentions the places of its conditions, and then that of its limit**, each of them once. -/
theorem Select.places_text (s : Select) :
    places s.text = s.conditions.flatMap Condition.places ++ [s.limit] := by
  have hbefore : wordsBefore.flatMap places = [] := by decide +kernel
  have hafter : ["ORDER", "BY", "d.created_at", "DESC", "LIMIT"].flatMap places = [] := by
    decide +kernel
  have hlimit : (wordsAfter s.limit).flatMap places = [s.limit] := by
    show (["ORDER", "BY", "d.created_at", "DESC", "LIMIT"] ++ [placeWord s.limit]).flatMap places = _
    rw [List.flatMap_append, hafter, List.flatMap_singleton, places_placeWord]
    rfl
  rw [places_eq, s.words_text, List.flatMap_append, List.flatMap_append, hbefore, hlimit,
    flatMap_places_conditions, List.nil_append]

end LikedYou.Sql
