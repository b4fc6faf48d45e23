import LikedYou.Proofs.Service.Requests
import LikedYou.Proofs.Service.Sources

/-!
# What is kept and sent

* `Service.Leaves` — a reply, and the text of it that is left to be kept
* `Service.Leaves.eq_answer` — only an answer that was fetched is left to be kept
* `Service.Leaves.handle_of_get` — a service that finds the text replies as it was replied before
* `messages_come_back` — all types of messages come back from their texts, and so do cached replies

A count is kept as a bare number and sent in a record, a list is kept as it is sent. Both are read back
from the cache before they are sent again, so what is sent then is the text of an equal reply.
-/

namespace LikedYou.Api

namespace Service

variable {σ κ : Type} [DecisionStore σ] [Cache κ] {σ' κ' : Type} [DecisionStore σ'] [Cache κ']
  {s : Service σ κ} {s' : Service σ' κ'} {r r' : Request} {q : Query} {clock clock' : Time.Clock}
  {reply : Reply} {w : PendingWrite}

/-- Whether a service gives a reply to a request, and leaves a text to be kept. -/
def Leaves (s : Service σ κ) (r : Request) (clock : Time.Clock) (reply : Reply) (w : PendingWrite) :
    Prop :=
  ∃ left, s.handle r clock = .ok (.ok reply, left) ∧ left.cache.pending = s.cache.pending ++ [w]

/-- **Only the text of an answer is left to be kept**, under the key of the query that it answers. -/
theorem Leaves.eq_answer (h : s.Leaves r clock reply w) :
    ∃ (q : Query) (a : q.Answer), r.query? = some q ∧ r.check = .ok () ∧ reply = a.reply ∧
      w.key = q.key ∧ w.value = Json.encodeString a := by
  obtain ⟨left, hhandle, hpending⟩ := h
  have hmore : s.cache.pending ≠ s.cache.pending ++ [w] := by simp
  rcases handle_cases hhandle with ⟨f, -, hreply, -⟩ | ⟨q, answer, hcheck, hq, hask, hreply⟩ |
    ⟨p, answer, -, -, hdecide, -⟩
  · cases hreply
  · cases asked_of_ask hask with
    | refused => cases hreply
    | failed => cases hreply
    | found => exact absurd hpending hmore
    | fetched =>
      cases hreply
      obtain rfl : _ = w := List.singleton_inj.mp (List.append_cancel_left hpending)
      exact ⟨q, _, hq, hcheck, rfl, rfl, rfl⟩
  · rw [cache_of_decide hdecide] at hpending
    exact absurd hpending hmore

/-- **Who finds the text of a reply under the key of a request gives that reply**, whatever else its
cache and its store hold, and does not ask the store. -/
theorem Leaves.handle_of_get (h : s.Leaves r clock reply w) (hq : r'.query? = r.query?)
    (hget : (Cache.get w.key clock' s'.cache.backend).1 = .ok (some w.value)) :
    ∃ cache, s'.handle r' clock' = .ok (.ok reply, { s' with cache }) := by
  obtain ⟨q, a, hr, hcheck, rfl, hkey, hvalue⟩ := h.eq_answer
  have hr' : r'.query? = some q := hq.trans hr
  rw [hkey, hvalue] at hget
  have htold : q.told? (Cache.get q.key clock' s'.cache.backend).1 = some a :=
    Query.told?_eq_some_iff.mpr ⟨_, hget, Query.decodeString_encodeString a⟩
  exact ⟨_, handle_of_told? (Request.check_congr hr' hr ▸ hcheck) hr' htold⟩

end Service

/-- **Messages come back from their texts as they were**, whatever characters, numbers and lists they
hold: likers, pages, requests, replies, errors, and bare counts. So a reply from the text that a
service left to be kept is the one that it was the text of, byte for byte. -/
theorem messages_come_back :
    (Json.ComesBack Liker ∧ Json.ComesBack Page ∧ Json.ComesBack LikerReply ∧
      Json.ComesBack ListReply ∧ Json.ComesBack CountReply ∧ Json.ComesBack PutReply ∧
      Json.ComesBack ListRequest ∧ Json.ComesBack CountRequest ∧ Json.ComesBack PutRequest ∧
      Json.ComesBack Error ∧ Json.ComesBack UInt64) ∧
    ∀ {σ κ σ' κ' : Type} [DecisionStore σ] [Cache κ] [DecisionStore σ'] [Cache κ']
      (s : Service σ κ) (s' : Service σ' κ') (r r' : Request) (clock clock' : Time.Clock)
      (reply : Reply) (w : PendingWrite),
      s.Leaves r clock reply w → r'.query? = r.query? →
      (Cache.get w.key clock' s'.cache.backend).1 = .ok (some w.value) →
      ∃ reply' cache, s'.handle r' clock' = .ok (.ok reply', { s' with cache }) ∧
        Utf8.ofString reply'.text = Utf8.ofString reply.text := by
  refine ⟨⟨?_, ?_, ?_, ?_, ?_, ?_, ?_, ?_, ?_, ?_, ?_⟩, ?_⟩
  iterate 11 exact Json.comesBack_of_lossless _ rfl
  intro σ κ σ' κ' _ _ _ _ s s' r r' clock clock' reply w hleaves hq hget
  obtain ⟨cache, hhandle⟩ := hleaves.handle_of_get hq hget
  exact ⟨reply, cache, hhandle, rfl⟩

end LikedYou.Api
