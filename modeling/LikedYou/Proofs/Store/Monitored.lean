import LikedYou.Proofs.Service.Questions
import LikedYou.Store.Monitored

/-!
# Monitored stores

* `StoreCalls.plus` — the call that a query makes is counted as what it is
* `MonitoredStore.call_eq` — a query makes one call, which is made to fail or is passed on
-/

namespace LikedYou

namespace StoreCalls

/-- The calls so far, and the one that answers a query. -/
def plus (c : StoreCalls) : Query → StoreCalls
  | .list .everyone .. => { c with likers := c.likers + 1 }
  | .list .undecided .. => { c with newLikers := c.newLikers + 1 }
  | .count _ => { c with count := c.count + 1 }

theorem reads_plus (c : StoreCalls) (q : Query) : (c.plus q).reads = c.reads + 1 := by
  unfold plus reads
  split
  · simp only
    omega
  · simp only
    omega
  · simp only
    omega

theorem plus_ne (c : StoreCalls) (q : Query) : c.plus q ≠ c := by
  intro h
  have hreads := c.reads_plus q
  rw [h] at hreads
  omega

end StoreCalls

namespace MonitoredStore

variable {σ : Type} [DecisionStore σ] {q : Query}

/-- What is reported by the call for a query that is to fail. -/
def readFault : Query → StorageFault
  | .list .everyone .. => .unavailable "injected get_likers failure"
  | .list .undecided .. => .unavailable "injected get_new_likers failure"
  | .count _ => .unavailable "injected count_likes failure"

/-- **A query makes one call**, which is made to fail or is passed on to the store behind. -/
theorem call_eq {call : MonitoredStore σ → Except StorageFault q.Answer × MonitoredStore σ}
    (hcall : q.call (MonitoredStore σ) = .ok call) :
    ∃ inner, q.call σ = .ok inner ∧ ∀ store, call store =
      if store.failing.reads then (.error (readFault q), { store with calls := store.calls.plus q })
      else ((inner store.inner).1,
        { store with inner := (inner store.inner).2, calls := store.calls.plus q }) := by
  cases q with
  | count recipient =>
    cases hcall
    refine ⟨_, rfl, fun store => ?_⟩
    show pass _ _ _ _ _ _ = _
    unfold pass
    rfl
  | list listing recipient token =>
    obtain ⟨bounds, hbounds⟩ := (Query.proper_iff_call _ _).mpr ⟨call, hcall⟩
    rw [Query.call_list _ hbounds] at hcall
    cases hcall
    refine ⟨_, Query.call_list σ hbounds, fun store => ?_⟩
    cases listing with
    | everyone =>
      show ((pass _ _ _ _ _ _).1.map _, (pass _ _ _ _ _ _).2) = _
      unfold pass
      split
      · rfl
      · rfl
    | undecided =>
      show ((pass _ _ _ _ _ _).1.map _, (pass _ _ _ _ _ _).2) = _
      unfold pass
      split
      · rfl
      · rfl

end MonitoredStore

end LikedYou
