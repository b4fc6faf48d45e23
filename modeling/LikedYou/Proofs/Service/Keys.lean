import LikedYou.PageBounds
import LikedYou.Query
import LikedYou.Proofs.Paging.Token

/-!
# Cache keys

* `Cursor.colon_notMem` — a token that can be read holds no colon
* `Query.key_injective` — queries whose tokens can be read have different keys
* `Query.key_eq_iff` — two of them have one key only if list, recipient and token are the same

A recipient may have any name, also one with colons in it. The word for the listing ends at the first
colon of a key, and a token begins after the last one.
-/

namespace LikedYou

/-! ## Tokens -/

theorem Base64.not_isPlace_colon : ¬ Base64.IsPlace 0x3A := by
  unfold Base64.IsPlace
  decide

/-- **A token that can be read holds no colon.** -/
theorem Cursor.colon_notMem {token : String} {c : Option Cursor}
    (h : Cursor.ofToken token = .ok c) : ':' ∉ token.toList := by
  intro hcolon
  unfold Cursor.ofToken at h
  split at h
  · next hempty =>
    rw [String.isEmpty_iff] at hempty
    rw [hempty] at hcolon
    cases hcolon
  · split at h
    · cases h
    · next bs hdecode =>
      have hbyte : 0x3A ∈ Utf8.ofString token := by
        rw [Utf8.ofString, Utf8.encode, List.mem_flatMap]
        exact ⟨':', hcolon, by decide⟩
      exact Base64.not_isPlace_colon (Base64.isPlace_of_decode hdecode 0x3A hbyte)

/-! ## Texts with a separator -/

section

variable {α : Type} {a : α} {x x' y y' : List α}

theorem eq_of_append_cons_eq_of_notMem_left (hx : a ∉ x) (hx' : a ∉ x')
    (h : x ++ a :: y = x' ++ a :: y') : x = x' ∧ y = y' := by
  rcases List.append_eq_append_iff.mp h with ⟨t, ht, hy⟩ | ⟨t, ht, hy⟩
  · cases t with
    | nil =>
      cases hy
      exact ⟨by simpa using ht.symm, rfl⟩
    | cons b t =>
      cases hy
      exact absurd (by simp [ht]) hx'
  · cases t with
    | nil =>
      cases hy
      exact ⟨by simpa using ht, rfl⟩
    | cons b t =>
      cases hy
      exact absurd (by simp [ht]) hx

theorem eq_of_append_cons_eq_of_notMem_right (hy : a ∉ y) (hy' : a ∉ y')
    (h : x ++ a :: y = x' ++ a :: y') : x = x' ∧ y = y' := by
  have hreverse : y.reverse ++ a :: x.reverse = y'.reverse ++ a :: x'.reverse := by
    have h' := congrArg List.reverse h
    simpa using h'
  obtain ⟨hy, hx⟩ := eq_of_append_cons_eq_of_notMem_left (by simpa using hy) (by simpa using hy')
    hreverse
  exact ⟨List.reverse_inj.mp hx, List.reverse_inj.mp hy⟩

end

/-! ## Queries -/

namespace Query

/-- The list that a query asks for, if it asks for one. -/
def listing? : Query → Option Listing
  | .list listing _ _ => some listing
  | .count _ => none

/-- The user whom a query is about. -/
def recipient : Query → String
  | .list _ recipient _ => recipient
  | .count recipient => recipient

/-- The token of a query, if it has one. -/
def token? : Query → Option String
  | .list _ _ token => some token
  | .count _ => none

/-- Whether the token of a query can be read. -/
def Proper : Query → Prop
  | .list _ _ token => ∃ bounds, PageBounds.ofToken token = .ok bounds
  | .count _ => True

theorem proper_of_token? {q : Query}
    (h : ∀ token, q.token? = some token → ∃ c, Cursor.ofToken token = .ok c) : q.Proper := by
  cases q with
  | count recipient => trivial
  | list listing recipient token =>
    obtain ⟨c, hc⟩ := h token rfl
    exact ⟨PageBounds.ofCursor c, by rw [PageBounds.ofToken, hc]; rfl⟩

/-! ## Keys -/

/-- The word for a query in cache keys. -/
def word : Query → String
  | .list listing _ _ => listing.word
  | .count _ => "likerscount"

/-- What a key says after the word. -/
def rest : Query → List Char
  | .list _ recipient token => recipient.toList ++ ':' :: token.toList
  | .count recipient => recipient.toList

theorem toList_key (q : Query) : q.key.toList = q.word.toList ++ ':' :: q.rest := by
  cases q with
  | list listing recipient token => simp [key, word, rest, toString]
  | count recipient => simp [key, word, rest, toString]

theorem colon_notMem_word (q : Query) : ':' ∉ q.word.toList := by
  cases q with
  | list listing =>
    show ':' ∉ listing.word.toList
    cases listing with
    | everyone => decide
    | undecided => decide
  | count =>
    show ':' ∉ "likerscount".toList
    decide

theorem word_inj {listing listing' : Listing} : listing.word = listing'.word ↔ listing = listing' := by
  cases listing <;> cases listing' <;> decide

theorem word_ne (listing : Listing) : listing.word ≠ "likerscount" := by
  cases listing <;> decide

theorem colon_notMem_token {listing : Listing} {recipient token : String}
    (h : (Query.list listing recipient token).Proper) : ':' ∉ token.toList := by
  obtain ⟨bounds, hbounds⟩ := h
  cases hcursor : Cursor.ofToken token with
  | error f => simp [PageBounds.ofToken, hcursor, Except.map] at hbounds
  | ok c => exact Cursor.colon_notMem hcursor

/-- **Different queries whose tokens can be read have different keys.** -/
theorem key_injective {q q' : Query} (h : q.Proper) (h' : q'.Proper) (hkey : q.key = q'.key) :
    q = q' := by
  have hlist := congrArg String.toList hkey
  rw [toList_key, toList_key] at hlist
  obtain ⟨hword, hrest⟩ :=
    eq_of_append_cons_eq_of_notMem_left q.colon_notMem_word q'.colon_notMem_word hlist
  have hword' : q.word = q'.word := String.toList_injective hword
  cases q with
  | list listing recipient token =>
    cases q' with
    | list listing' recipient' token' =>
      obtain ⟨hrecipient, htoken⟩ := eq_of_append_cons_eq_of_notMem_right
        (colon_notMem_token h) (colon_notMem_token h') hrest
      rw [word_inj.mp hword', String.toList_injective hrecipient, String.toList_injective htoken]
    | count recipient' => exact absurd hword' (word_ne listing)
  | count recipient =>
    cases q' with
    | list listing' recipient' token' => exact absurd hword'.symm (word_ne listing')
    | count recipient' => rw [String.toList_injective hrest]

/-- **Two queries whose tokens can be read have one key if and only if they ask for the same list, or
both for a number, of the same recipient, by the same token.** -/
theorem key_eq_iff {q q' : Query}
    (h : ∀ token, q.token? = some token → ∃ c, Cursor.ofToken token = .ok c)
    (h' : ∀ token, q'.token? = some token → ∃ c, Cursor.ofToken token = .ok c) :
    q.key = q'.key ↔
      q.listing? = q'.listing? ∧ q.recipient = q'.recipient ∧ q.token? = q'.token? := by
  constructor
  · intro hkey
    rw [key_injective (proper_of_token? h) (proper_of_token? h') hkey]
    exact ⟨rfl, rfl, rfl⟩
  · rintro ⟨hlisting, hrecipient, htoken⟩
    cases q with
    | list listing recipient token =>
      cases q' with
      | list listing' recipient' token' =>
        cases hlisting
        cases hrecipient
        cases htoken
        rfl
      | count recipient' => cases hlisting
    | count recipient =>
      cases q' with
      | list listing' recipient' token' => cases hlisting
      | count recipient' =>
        cases hrecipient
        rfl

/-- A recipient is named like another one with his token. -/
theorem key_eq_iff_tokenInName :
    let token := (Cursor.mk 5 (-3)).token
    (∃ c, Cursor.ofToken "" = .ok c) ∧ (∃ c, Cursor.ofToken token = .ok c) ∧
      (list .everyone ("b:" ++ token) "").key ≠ (list .everyone "b" token).key := by
  intro token
  have hempty : ∃ c, Cursor.ofToken "" = .ok c := ⟨none, rfl⟩
  have htoken : ∃ c, Cursor.ofToken token = .ok c := ⟨_, Cursor.ofToken_token _⟩
  refine ⟨hempty, htoken, fun hkey => ?_⟩
  obtain ⟨-, -, hsame⟩ := (key_eq_iff (by rintro _ ⟨⟩; exact hempty)
    (by rintro _ ⟨⟩; exact htoken)).mp hkey
  have hne : token.isEmpty = false := Cursor.token_isEmpty _
  rw [← Option.some.inj hsame] at hne
  cases hne

/-- Were there a colon in a token, it could stand for the one before the token. -/
example : (list .everyone "a" "b:c").key = (list .everyone "a:b" "c").key := by decide

end Query

end LikedYou
