import Std.Data.ExtTreeMap

/-!
# Tables that lose entries

* `Trims p f g` — the table `g` is what is left of `f` when entries that satisfy `p` may have gone
* `size_erase_add_one` — a table that loses an entry has one less

Caches remove entries at many moments, and none of them matters to a reader as long as only entries
go that would not be read. That is `Trims.bind_eq`.
-/

namespace LikedYou

variable {κ ι ε α : Type} {p q : ε → Prop} {f g h : κ → Option ε}

/-- Whether `g` is what is left of `f` when entries that satisfy `p` may have gone. -/
def Trims (p : ε → Prop) (f g : κ → Option ε) : Prop :=
  ∀ k, g k = f k ∨ g k = none ∧ ∃ e, f k = some e ∧ p e

namespace Trims

theorem refl (p : ε → Prop) (f : κ → Option ε) : Trims p f f := fun _ => Or.inl rfl

theorem trans (hfg : Trims p f g) (hgh : Trims p g h) : Trims p f h := by
  intro k
  rcases hgh k with hsame | ⟨hnone, e, he, hp⟩
  · rw [hsame]
    exact hfg k
  · rcases hfg k with hsame | ⟨hnone', -⟩
    · exact Or.inr ⟨hnone, e, hsame ▸ he, hp⟩
    · rw [hnone'] at he
      cases he

theorem mono (hfg : Trims p f g) (hpq : ∀ e, p e → q e) : Trims q f g := by
  intro k
  rcases hfg k with hsame | ⟨hnone, e, he, hp⟩
  · exact Or.inl hsame
  · exact Or.inr ⟨hnone, e, he, hpq e hp⟩

/-- The entries of some keys only. -/
theorem comp (hfg : Trims p f g) (keys : ι → κ) : Trims p (f ∘ keys) (g ∘ keys) := fun k =>
  hfg (keys k)

/-- An entry that is left is an entry of before. -/
theorem eq_some (hfg : Trims p f g) {k : κ} {e : ε} (he : g k = some e) : f k = some e := by
  rcases hfg k with hsame | ⟨hnone, -⟩
  · rw [← hsame, he]
  · rw [hnone] at he
    cases he

/-- An entry of before is left unless it is one of those that may have gone. -/
theorem eq_some_of_not (hfg : Trims p f g) {k : κ} {e : ε} (he : f k = some e) (hnot : ¬ p e) :
    g k = some e := by
  rcases hfg k with hsame | ⟨-, e', he', hp⟩
  · rw [hsame, he]
  · rw [he] at he'
    cases he'
    exact absurd hp hnot

/-- **Who makes nothing of the entries that may have gone does not notice.** -/
theorem bind_eq (hfg : Trims p f g) (read : ε → Option α) (hread : ∀ e, p e → read e = none)
    (k : κ) : (g k).bind read = (f k).bind read := by
  rcases hfg k with hsame | ⟨hnone, e, he, hp⟩
  · rw [hsame]
  · rw [hnone, he, Option.bind_none, Option.bind_some, hread e hp]

/-- Both tables change at some keys, in the same way. -/
theorem update (hfg : Trims p f g) {f' g' : κ → Option ε} (changed : κ → Prop)
    (hnew : ∀ k, changed k → g' k = f' k) (hf : ∀ k, ¬ changed k → f' k = f k)
    (hg : ∀ k, ¬ changed k → g' k = g k) : Trims p f' g' := by
  intro k
  by_cases hk : changed k
  · exact Or.inl (hnew k hk)
  · rw [hf k hk, hg k hk]
    exact hfg k

end Trims

theorem size_erase_add_one {α β : Type} {cmp : α → α → Ordering} [Std.TransCmp cmp]
    {t : Std.ExtTreeMap α β cmp} {key : α} (h : t.contains key = true) :
    (t.erase key).size + 1 = t.size := by
  have hpos : t.size ≠ 0 := by
    intro hzero
    rw [Std.ExtTreeMap.eq_empty_iff_size_eq_zero.mpr hzero, Std.ExtTreeMap.contains_empty] at h
    cases h
  rw [Std.ExtTreeMap.size_erase, if_pos h]
  omega

end LikedYou
