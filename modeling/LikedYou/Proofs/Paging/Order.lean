import LikedYou.Store.Relation

/-!
# The order of a list of likers

* `Decision.Precedes` — the strict order in which likes stand in a list
* `Relation.newestFirst_iff` — that is how lists are sorted
* `Decision.Precedes.epoch_le` — along a list the seconds never increase
-/

namespace LikedYou

namespace Time.Timestamp

theorem before_iff {a b : Timestamp} :
    a.before b = true ↔ a.seconds < b.seconds ∨ a.seconds = b.seconds ∧ a.nanos < b.nanos := by
  simp [before, Int64.lt_iff_toInt_lt, Int64.toInt_inj]

theorem before_trans {a b c : Timestamp} (hab : a.before b = true) (hbc : b.before c = true) :
    a.before c = true := by
  rw [before_iff] at *
  rcases hab with hab | ⟨hab, hab'⟩
  · rcases hbc with hbc | ⟨hbc, -⟩
    · exact Or.inl (Int64.lt_trans hab hbc)
    · exact Or.inl (hbc ▸ hab)
  · rcases hbc with hbc | ⟨hbc, hbc'⟩
    · exact Or.inl (hab ▸ hbc)
    · exact Or.inr ⟨hab.trans hbc, Nat.lt_trans hab' hbc'⟩

theorem not_before_self (a : Timestamp) : ¬ a.before a = true := by
  rw [before_iff]
  rintro (h | ⟨-, h⟩)
  · exact Int64.lt_irrefl h
  · exact Nat.lt_irrefl _ h

theorem before_trichotomy (a b : Timestamp) : a.before b = true ∨ a = b ∨ b.before a = true := by
  rw [before_iff, before_iff, Int64.lt_iff_toInt_lt, Int64.lt_iff_toInt_lt, ← Int64.toInt_inj,
    ← Int64.toInt_inj]
  rcases Int.lt_trichotomy a.seconds.toInt b.seconds.toInt with h | h | h
  · exact Or.inl (Or.inl h)
  · rcases Nat.lt_trichotomy a.nanos b.nanos with hn | hn | hn
    · exact Or.inl (Or.inr ⟨h, hn⟩)
    · refine Or.inr (Or.inl ?_)
      cases a
      cases b
      cases Int64.toInt_inj.mp h
      cases hn
      rfl
    · exact Or.inr (Or.inr (Or.inr ⟨h.symm, hn⟩))
  · exact Or.inr (Or.inr (Or.inl h))

end Time.Timestamp

namespace Decision

/-- Whether `a` stands before `b` in a list: it is newer, or as new and its actor comes first. -/
def Precedes (a b : Decision) : Prop :=
  b.createdAt.before a.createdAt = true ∨ a.createdAt = b.createdAt ∧ a.actor < b.actor

theorem Precedes.trans {a b c : Decision} (hab : a.Precedes b) (hbc : b.Precedes c) :
    a.Precedes c := by
  rcases hab with hab | ⟨hab, hab'⟩
  · rcases hbc with hbc | ⟨hbc, -⟩
    · exact Or.inl (Time.Timestamp.before_trans hbc hab)
    · exact Or.inl (hbc ▸ hab)
  · rcases hbc with hbc | ⟨hbc, hbc'⟩
    · exact Or.inl (hab ▸ hbc)
    · exact Or.inr ⟨hab.trans hbc, String.lt_trans hab' hbc'⟩

theorem not_precedes_self (a : Decision) : ¬ a.Precedes a := by
  rintro (h | ⟨-, h⟩)
  · exact a.createdAt.not_before_self h
  · exact String.lt_irrefl a.actor h

/-- **Along a list the seconds never increase.** -/
theorem Precedes.epoch_le {a b : Decision} (h : a.Precedes b) : b.epoch ≤ a.epoch := by
  unfold epoch
  rcases h with h | ⟨h, -⟩
  · rcases Time.Timestamp.before_iff.mp h with h | ⟨h, -⟩
    · exact Int64.le_of_lt h
    · exact h ▸ Int64.le_refl _
  · exact h ▸ Int64.le_refl _

end Decision

namespace Relation

theorem newestFirst_iff {a b : Decision} :
    newestFirst a b = true ↔ a.Precedes b ∨ a.createdAt = b.createdAt ∧ a.actor = b.actor := by
  have hle : a.actor ≤ b.actor ↔ a.actor < b.actor ∨ a.actor = b.actor := Std.le_iff_lt_or_eq
  simp only [newestFirst, Decision.Precedes, Bool.or_eq_true, Bool.and_eq_true,
    decide_eq_true_eq, hle, and_or_left, or_assoc]

theorem newestFirst_trans (a b c : Decision) (hab : newestFirst a b = true)
    (hbc : newestFirst b c = true) : newestFirst a c = true := by
  rw [newestFirst_iff] at *
  rcases hab with hab | ⟨hab, hab'⟩
  · rcases hbc with hbc | ⟨hbc, hbc'⟩
    · exact Or.inl (hab.trans hbc)
    · refine Or.inl ?_
      rw [Decision.Precedes, hbc, hbc'] at hab
      exact hab
  · rcases hbc with hbc | ⟨hbc, hbc'⟩
    · refine Or.inl ?_
      rw [Decision.Precedes, ← hab, ← hab'] at hbc
      exact hbc
    · exact Or.inr ⟨hab.trans hbc, hab'.trans hbc'⟩

theorem newestFirst_total (a b : Decision) : (newestFirst a b || newestFirst b a) = true := by
  rw [Bool.or_eq_true, newestFirst_iff, newestFirst_iff]
  rcases a.createdAt.before_trichotomy b.createdAt with h | h | h
  · exact Or.inr (Or.inl (Or.inl h))
  · by_cases hlt : a.actor < b.actor
    · exact Or.inl (Or.inl (Or.inr ⟨h, hlt⟩))
    · rcases Std.le_iff_lt_or_eq.mp (String.not_lt.mp hlt) with ha | ha
      · exact Or.inr (Or.inl (Or.inr ⟨h.symm, ha⟩))
      · exact Or.inr (Or.inr ⟨h.symm, ha⟩)
  · exact Or.inl (Or.inl (Or.inl h))

end Relation

end LikedYou
