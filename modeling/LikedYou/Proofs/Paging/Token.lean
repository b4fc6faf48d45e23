import LikedYou.PageBounds
import LikedYou.Proofs.Json.Lossless
import LikedYou.Proofs.Text.Base64

/-!
# Tokens

* `Cursor.ofToken_token` — the token of a cursor leads back to it
* `Cursor.token_survives` — and can be put into an address as it is, whatever the cursor is
* `PageBounds.ofToken_cursorAfter` — the token after a like leads to the page below its second, of
  the same size
-/

namespace LikedYou

namespace Cursor

theorem faithful (c : Cursor) : (Json.Document.shape Cursor).Faithful (Json.Document.toData c) :=
  Json.Shape.faithful_of_lossless _ rfl _

theorem encode_ne_nil (c : Cursor) : Utf8.encode (Json.encode c) ≠ [] := by
  obtain ⟨-, b, tail, hb, -⟩ := Json.Shape.survives _ _ c.faithful
  exact hb ▸ List.cons_ne_nil b tail

theorem ofString_token (c : Cursor) :
    Utf8.ofString c.token = Base64.written (Utf8.encode (Json.encode c)) := by
  rw [token, Utf8.ofString, String.toList_ofList, Base64.written]

theorem token_isEmpty (c : Cursor) : c.token.isEmpty = false := by
  have hne := Base64.written_ne_nil c.encode_ne_nil
  rw [← ofString_token] at hne
  rw [← Bool.not_eq_true, String.isEmpty_iff]
  intro h
  exact hne (by rw [h]; rfl)

/-- **The token of a cursor leads back to it.** -/
theorem ofToken_token (c : Cursor) : ofToken c.token = .ok (some c) := by
  rw [ofToken, c.token_isEmpty, ofString_token, Base64.decode_written]
  simp only [Json.decode_encode c.faithful]
  rfl

/-- Different cursors have different tokens. -/
theorem token_injective {c c' : Cursor} (h : c.token = c'.token) : c = c' := by
  have hback := c.ofToken_token
  rw [h, c'.ofToken_token] at hback
  cases hback
  rfl

end Cursor

namespace PageBounds

/-- A token leads to the same page as its cursor. -/
theorem ofToken_token (c : Cursor) : ofToken c.token = .ok (ofCursor (some c)) := by
  rw [ofToken, Cursor.ofToken_token]
  rfl

theorem sized_of_pos (before : Option Int64) {limit : Int32} (h : 0 < limit.toInt) :
    sized before limit = ⟨before, limit, h⟩ := by
  rw [sized, dif_pos h]

theorem before_first (limit : Int32) : (first limit).before = none := by
  unfold first sized
  split <;> rfl

/-- The page below a second, of the same size. -/
def below (bounds : PageBounds) (second : Int64) : PageBounds :=
  ⟨some second, bounds.limit, bounds.limit_pos⟩

theorem size_pos (bounds : PageBounds) : 0 < bounds.size := by
  have := bounds.limit_pos
  unfold size
  omega

/-- **The token after a like leads to the page below its second.** -/
theorem ofToken_cursorAfter (bounds : PageBounds) (second : Int64) :
    ofToken (bounds.cursorAfter second).token = .ok (bounds.below second) := by
  rw [ofToken_token]
  exact congrArg Except.ok (sized_of_pos (some second) bounds.limit_pos)

end PageBounds

/-- **Every cursor survives as a token**, whatever its second and its size are. The token is not
empty, needs no escaping in an address, leads back to the cursor and to the page where the cursor
stands, and is that of no other cursor. -/
theorem Cursor.token_survives (c : Cursor) :
    c.token ≠ "" ∧ (∀ x ∈ c.token.toList, Base64.InAlphabet x) ∧
      ofToken c.token = .ok (some c) ∧
      PageBounds.ofToken c.token = .ok (PageBounds.ofCursor (some c)) ∧
      ∀ c', c'.token = c.token → c' = c := by
  refine ⟨fun hempty => ?_, fun x hx => ?_, c.ofToken_token, PageBounds.ofToken_token c,
    fun c' hc' => token_injective hc'⟩
  · have hnot := c.token_isEmpty
    rw [hempty] at hnot
    cases hnot
  · rw [token, String.toList_ofList] at hx
    exact Base64.inAlphabet_of_mem_encode x hx

end LikedYou
