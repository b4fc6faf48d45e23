import LikedYou.Api.Messages
import LikedYou.Cache.ReadThrough
import LikedYou.Store.Basic

/-!
# The service

Questions are answered from the cache where it has the answer, and otherwise by one call of the
store, whose answer is left to be cached. A token that was never handed out is refused before cache
or store are asked. Decisions go to the store alone: what is cached runs out by itself.

A breakdown of the store or of a read of the cache is a breakdown of the service.
-/

namespace LikedYou.Api

/-- A store with a cache in front of it. -/
structure Service (σ κ : Type) where
  store : σ
  cache : ReadThrough κ

namespace Service

variable {σ κ : Type} [DecisionStore σ] [Cache κ]

/-- A page of a list of likers. -/
def list (listing : Listing) (recipient token : String) (clock : Time.Clock) (s : Service σ κ) :
    Except Breakdown (Except Fault ListReply × Service σ κ) :=
  match PageBounds.ofToken token with
  | .error f => .ok (.error f, s)
  | .ok bounds =>
    let query : Query := .list listing recipient token
    match s.cache.lookup ListReply query clock with
    | .error b => .error b
    | .ok (some reply, cache) => .ok (.ok reply, { s with cache })
    | .ok (none, cache) =>
      match DecisionStore.likers listing recipient bounds s.store with
      | (.error f, store) => .ok (.error (.storage f), ⟨store, cache⟩)
      | (.ok page, store) =>
        let reply := ListReply.ofPage page
        .ok (.ok reply, ⟨store, cache.repopulateJson query reply⟩)

/-- The number of likes. -/
def count (recipient : String) (clock : Time.Clock) (s : Service σ κ) :
    Except Breakdown (Except Fault UInt64 × Service σ κ) :=
  let query : Query := .count recipient
  match s.cache.lookup UInt64 query clock with
  | .error b => .error b
  | .ok (some count, cache) => .ok (.ok count, { s with cache })
  | .ok (none, cache) =>
    match DecisionStore.count recipient s.store with
    | (.error f, store) => .ok (.error (.storage f), ⟨store, cache⟩)
    | (.ok count, store) => .ok (.ok count, ⟨store, cache.repopulateJson query count⟩)

omit [Cache κ] in
/-- Record a decision, and tell whether it completes a mutual like. A pass never does. -/
def decide (actor recipient : String) (liked : Bool) (clock : Time.Clock) (s : Service σ κ) :
    Except Breakdown (Except Fault Bool × Service σ κ) :=
  match DecisionStore.record actor recipient liked clock s.store with
  | (.error (.breakdown b), _) => .error b
  | (.error (.storage f), store) => .ok (.error (.storage f), { s with store })
  | (.ok (), store) =>
    if !liked then .ok (.ok false, { s with store })
    else
      match DecisionStore.areMutual actor recipient store with
      | (.error f, store) => .ok (.error (.mutualCheck f), { s with store })
      | (.ok areMutual, store) => .ok (.ok areMutual, { s with store })

omit [DecisionStore σ] in
/-- Run all pending writes of the cache. -/
def settle (clock : Time.Clock) (s : Service σ κ) : Service σ κ :=
  { s with cache := s.cache.settle clock }

end Service

end LikedYou.Api
