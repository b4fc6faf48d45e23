import LikedYou.Proofs.Cache.Monitored
import LikedYou.Proofs.Service.Questions

/-!
# Where answers come from

* `Query.IsAnswer` — what is written under a key answers the query of that key
* `Query.exists_of_told?` — a cache tells for a query what was written for this query
* `Service.Sourced` — where the texts come from that are kept, and those that are to be kept
* `Sourced.ask`, `Sourced.runWrite`, `Sourced.settle` — what queries and writes preserve
* `Service.cache_of_decide` — decisions do not matter here

Different queries have different keys and an answer comes back as it was, so whatever is known of an
answer when it is written is known of it when it is read. Nothing is said about the order of writes.
-/

namespace LikedYou

open Twins (Written)

/-! ## What is kept -/

namespace Query

variable {q : Query} {a : q.Answer} {p p' : (q : Query) → q.Answer → Written → Prop}

/-- Whether what is written under a key is an answer to the query of that key, of which `p` holds. -/
def IsAnswer (p : (q : Query) → q.Answer → Written → Prop) (key : String) (w : Written) : Prop :=
  ∃ (q : Query) (a : q.Answer),
    q.Proper ∧ q.key = key ∧ Json.encodeString a = w.value ∧ p q a w

theorem IsAnswer.mono {key : String} {w : Written} (h : IsAnswer p key w)
    (hpp : ∀ q a w, p q a w → p' q a w) : IsAnswer p' key w := by
  obtain ⟨q, a, hproper, hkey, hvalue, hp⟩ := h
  exact ⟨q, a, hproper, hkey, hvalue, hpp q a w hp⟩

/-- **What a cache tells for a query was written for this query**, less than its length of time ago. -/
theorem exists_of_told? {c : MonitoredCache Backend} {clock : Time.Clock}
    (h : c.inner.Within (IsAnswer p)) (hproper : q.Proper)
    (htold : q.told? (Cache.get q.key clock c).1 = some a) :
    ∃ w, p q a w ∧ ∀ d, clock = w.since.advance d → d < w.ttl := by
  obtain ⟨text, hget, hdecode⟩ := told?_eq_some_iff.mp htold
  obtain ⟨w, ⟨q', a', hproper', hkey, hvalue, hp⟩, hw, hlasts⟩ :=
    h.eq_of_get (MonitoredCache.get_of_ok hget)
  -- what is kept under the key of `q` is an answer to `q`, and the text tells this answer
  obtain rfl := key_injective hproper' hproper hkey
  rw [← hw, ← hvalue, decodeString_encodeString] at hdecode
  cases hdecode
  exact ⟨w, hp, hlasts⟩

end Query

/-! ## Running writes -/

namespace ReadThrough

variable {κ : Type} [Cache κ]

/-- Writes change nothing but the cache behind. -/
theorem foldl_runWrite (clock : Time.Clock) (ws : List PendingWrite) (c : ReadThrough κ) :
    ws.foldl (runWrite clock) c =
      { c with backend := (ws.foldl (runWrite clock) c).backend } := by
  induction ws generalizing c with
  | nil => rfl
  | cons w ws ih =>
    rw [List.foldl_cons, ih]
    rfl

theorem pending_settle (clock : Time.Clock) (c : ReadThrough κ) : (c.settle clock).pending = [] := by
  rw [settle, foldl_runWrite]

theorem ttls_settle (clock : Time.Clock) (c : ReadThrough κ) : (c.settle clock).ttls = c.ttls := by
  rw [settle, foldl_runWrite]

theorem within_foldl_runWrite {kept : String → Written → Prop} {clock : Time.Clock}
    {ws : List PendingWrite} {c : ReadThrough (MonitoredCache Backend)}
    (h : c.backend.inner.Within kept) (hws : ∀ w ∈ ws, kept w.key ⟨w.value, clock, w.ttl⟩) :
    (ws.foldl (runWrite clock) c).backend.inner.Within kept := by
  induction ws generalizing c with
  | nil => exact h
  | cons w ws ih =>
    obtain ⟨hw, hrest⟩ := List.forall_mem_cons.mp hws
    exact ih (h.set_monitored hw) hrest

end ReadThrough

/-! ## A service with such a cache -/

namespace Api.Service

variable {σ : Type} {q : Query} {clock : Time.Clock} {s s' : Service σ (MonitoredCache Backend)}
  {kept kept' : String → Written → Prop} {due due' : PendingWrite → Prop}

/-- Whether all that a service keeps satisfies `kept`, and all that it is about to keep `due`. -/
structure Sourced (kept : String → Written → Prop) (due : PendingWrite → Prop)
    (s : Service σ (MonitoredCache Backend)) : Prop where
  kept : s.cache.backend.inner.Within kept
  due : ∀ w ∈ s.cache.pending, due w

namespace Sourced

theorem mono (h : s.Sourced kept due) (hkept : ∀ key w, kept key w → kept' key w)
    (hdue : ∀ w, due w → due' w) : s.Sourced kept' due' :=
  ⟨h.kept.mono hkept, fun w hw => hdue w (h.due w hw)⟩

/-- A query leaves at most its answer to be kept, and that only if the store gave it. -/
theorem ask [DecisionStore σ] {answer : Except Fault q.Answer} (h : s.Sourced kept due)
    (hasked : Asked q clock s answer s')
    (hfetched : ∀ (call : σ → Except StorageFault q.Answer × σ) (a : q.Answer),
      q.call σ = .ok call → call s.store = (.ok a, s'.store) → answer = .ok a →
      due ⟨q.key, Json.encodeString a, s.cache.ttls.of q⟩) : s'.Sourced kept due := by
  have hget := h.kept.get_monitored q.key clock
  cases hasked with
  | refused => exact h
  | found => exact ⟨hget, h.due⟩
  | failed => exact ⟨hget, h.due⟩
  | fetched htold hcall hstore =>
    refine ⟨hget, fun w hw => ?_⟩
    rcases List.mem_append.mp hw with hold | hnew
    · exact h.due w hold
    · rw [List.mem_singleton] at hnew
      rw [hnew]
      exact hfetched _ _ hcall hstore rfl

/-- A write that is run is kept, or changes nothing. -/
theorem runWrite {w : PendingWrite} (h : s.Sourced kept due)
    (hw : kept w.key ⟨w.value, clock, w.ttl⟩) :
    Sourced kept due { s with cache := s.cache.runWrite clock w } :=
  ⟨h.kept.set_monitored hw, h.due⟩

/-- Once all writes were run, nothing is to be kept. -/
theorem settle (h : s.Sourced kept due)
    (hdue : ∀ w, due w → kept w.key ⟨w.value, clock, w.ttl⟩) :
    (s.settle clock).Sourced kept fun _ => False := by
  have hkept : (s.settle clock).cache.backend.inner.Within kept :=
    ReadThrough.within_foldl_runWrite (c := { s.cache with pending := [] }) h.kept
      fun w hw => hdue w (h.due w hw)
  refine ⟨hkept, fun w hw => ?_⟩
  have hnone := ReadThrough.pending_settle clock s.cache
  rw [show (s.settle clock).cache.pending = [] from hnone] at hw
  cases hw

end Sourced

/-- A decision does not touch the cache. -/
theorem cache_of_decide {κ : Type} [DecisionStore σ] {actor recipient : String} {liked : Bool}
    {s s' : Service σ κ} {answer : Except Fault Bool}
    (h : s.decide actor recipient liked clock = .ok (answer, s')) : s'.cache = s.cache := by
  unfold decide at h
  split at h
  · cases h
  · cases h
    rfl
  · split at h
    · cases h
      rfl
    · split at h
      · cases h
        rfl
      · cases h
        rfl

end Api.Service

end LikedYou
