import LikedYou.Api.Messages
import LikedYou.Proofs.Paging.Token

/-!
# Pages made of any rows

* `Page.assemble_of_le`, `Page.assemble_of_lt` — the two kinds of pages
* `Page.assembled` — a page loses, reorders and invents nothing, and neither does the reply made of it

Nothing is asked of the rows: there may be any number of them, in any order, of any seconds. A page of
more rows than fit leads on to the page below its last row, which has the same size.
-/

namespace LikedYou

namespace Page

variable {rows : List Liker} {bounds : PageBounds}

theorem assemble_of_le (h : rows.length ≤ bounds.size) : assemble rows bounds = ⟨rows, none⟩ :=
  if_pos h

/-- The last row of a page that is followed by another one. -/
theorem getLast?_take_size (rows : List Liker) (bounds : PageBounds) (h : bounds.size < rows.length) :
    (rows.take bounds.size).getLast? = rows[bounds.size - 1]? := by
  have hsize := bounds.size_pos
  rw [List.getLast?_take, if_neg (Nat.ne_of_gt hsize), List.getElem?_eq_getElem (by omega),
    Option.some_or]

theorem assemble_of_lt (h : bounds.size < rows.length) :
    ∃ last, rows[bounds.size - 1]? = some last ∧
      assemble rows bounds =
        ⟨rows.take bounds.size, some (bounds.cursorAfter last.timestamp).token⟩ := by
  have hlast : rows[bounds.size - 1]? = some rows[bounds.size - 1] :=
    List.getElem?_eq_getElem (by omega)
  refine ⟨_, hlast, ?_⟩
  rw [assemble, if_neg (Nat.not_le.mpr h)]
  simp only [getLast?_take_size rows bounds h, hlast, Option.map_some]

end Page

/-! ## Replies -/

/-- A like before 1970 is shown at its beginning, and every other one as it is. -/
theorem Api.LikerReply.toNat_unixTimestamp_ofLiker (l : Liker) :
    ((Api.LikerReply.ofLiker l).unixTimestamp.toNat : Int) = max 0 l.timestamp.toInt := by
  have hlt : l.timestamp.toInt.toNat < UInt64.size := by
    have := l.timestamp.toInt_lt
    rw [UInt64.size]
    omega
  rw [Api.LikerReply.ofLiker, UInt64.toNat_ofNat_of_lt' hlt]
  omega

/-- **A page loses, reorders and invents nothing**, whatever the rows are.
* It has the first rows, as many as fit.
* It leads on if and only if there are more rows than fit; its token is then that of the last row on
  it, and leads to the page below the second of that row, of the same size.
* The reply made of it has the same likers in the same order and the same token; only a second before
  1970 is shown as its beginning. -/
theorem Page.assembled (rows : List Liker) (bounds : PageBounds) :
    let page := Page.assemble rows bounds
    let reply := Api.ListReply.ofPage page
    page.likers = rows.take (min bounds.size rows.length) ∧
    (page.next = none ↔ rows.length ≤ bounds.size) ∧
    (∀ token, page.next = some token → ∃ last, rows[bounds.size - 1]? = some last ∧
      Cursor.ofToken token = .ok (some ⟨last.timestamp, bounds.limit⟩) ∧
      PageBounds.ofToken token = .ok ⟨some last.timestamp, bounds.limit, bounds.limit_pos⟩) ∧
    (reply.likers.map fun l => (l.actor, (l.unixTimestamp.toNat : Int))) =
      (page.likers.map fun l => (l.actor, max 0 l.timestamp.toInt)) ∧
    reply.nextToken = page.next := by
  intro page reply
  have hreply : (reply.likers.map fun l => (l.actor, (l.unixTimestamp.toNat : Int))) =
      page.likers.map fun l => (l.actor, max 0 l.timestamp.toInt) := by
    simp only [reply, Api.ListReply.ofPage, List.map_map]
    refine List.map_congr_left fun l _ => ?_
    exact Prod.ext rfl (Api.LikerReply.toNat_unixTimestamp_ofLiker l)
  by_cases hle : rows.length ≤ bounds.size
  · have hpage : page = ⟨rows, none⟩ := assemble_of_le hle
    refine ⟨?_, ?_, ?_, hreply, rfl⟩
    · rw [hpage, List.take_of_length_le (by omega)]
    · rw [hpage]
      exact iff_of_true rfl hle
    · rw [hpage]
      exact nofun
  · obtain ⟨last, hlast, hpage⟩ := assemble_of_lt (Nat.not_le.mp hle)
    have hpage : page = ⟨_, some (bounds.cursorAfter last.timestamp).token⟩ := hpage
    refine ⟨?_, ?_, fun token htoken => ?_, hreply, rfl⟩
    · rw [hpage, Nat.min_eq_left (by omega)]
    · rw [hpage]
      exact iff_of_false nofun hle
    · rw [hpage] at htoken
      cases htoken
      exact ⟨last, hlast, Cursor.ofToken_token _, bounds.ofToken_cursorAfter _⟩

end LikedYou
