import LikedYou.Api.Handler
import LikedYou.Proofs.Service.Questions
import LikedYou.Store.Relation

/-!
# What becomes of requests

* `Service.handle` — a request of any kind is handed to its handler
* `Request.check` — what is wrong with a request, said before the service sees it
* `Service.handle_of_check`, `Service.handle_query`, `Service.handle_put` — a request with a mistake is
  refused, any other is a query or a decision
* `Service.handle_cases` — these are all the cases
-/

namespace LikedYou

namespace Api

/-! ## Requests of all kinds -/

/-- A request of any kind. -/
inductive Request where
  | list (listing : Listing) (r : ListRequest)
  | count (r : CountRequest)
  | put (r : PutRequest)
  deriving DecidableEq

/-- A reply of any kind. -/
inductive Reply where
  | list (r : ListReply)
  | count (r : CountReply)
  | put (r : PutReply)
  deriving DecidableEq

/-- The JSON text of a reply. -/
def Reply.text : Reply → String
  | list r => Json.encodeString r
  | count r => Json.encodeString r
  | put r => Json.encodeString r

namespace Request

/-- The query that a request puts, if it only reads. -/
def query? : Request → Option Query
  | list listing r => some (.list listing r.recipient r.token)
  | count r => some (.count r.recipient)
  | put _ => none

/-- What is said when the storage failed. -/
def failure : Request → String
  | list listing _ => listFailure listing
  | count _ => countFailure
  | put _ => putFailure

/-- What is wrong with a request. -/
def check : Request → Except Fault Unit
  | list _ r =>
    match require "recipient_user_id" r.recipient with
    | .error f => .error f
    | .ok () => (PageBounds.ofToken r.token).map fun _ => ()
  | count r => require "recipient_user_id" r.recipient
  | put r => r.validate

/-- The reply that a store gives to a request that only reads, if the token can be read. -/
def replyFrom? (store : Relation) : Request → Option Reply
  | list listing r =>
    (PageBounds.ofToken r.token).toOption.map fun bounds =>
      .list (.ofPage (store.page listing r.recipient bounds))
  | count r => some (.count ⟨.ofNat (store.count r.recipient)⟩)
  | put _ => none

end Request

namespace Service

variable {σ κ : Type} [DecisionStore σ] [Cache κ]

/-- Answer a request of any kind. -/
def handle (r : Request) (clock : Time.Clock) (s : Service σ κ) :
    Except Breakdown (Except Error Reply × Service σ κ) :=
  match r with
  | .list listing r => (s.handleList listing r clock).map fun (reply, s) => (reply.map .list, s)
  | .count r => (s.handleCount r clock).map fun (reply, s) => (reply.map .count, s)
  | .put r => (s.handlePut r clock).map fun (reply, s) => (reply.map .put, s)

end Service

end Api

/-! ## Replies to queries -/

namespace Query

/-- The reply that tells an answer. -/
def Answer.reply : {q : Query} → q.Answer → Api.Reply
  | list .., r => .list r
  | count _, n => .count ⟨n⟩

/-- The answer that a relation gives, if the token can be read. -/
def answerFrom? (store : Relation) : (q : Query) → Option q.Answer
  | list listing recipient token =>
    (PageBounds.ofToken token).toOption.map fun bounds =>
      Api.ListReply.ofPage (store.page listing recipient bounds)
  | count recipient => some (UInt64.ofNat (store.count recipient))

/-- A relation answers at once, and stays as it is. -/
theorem call_relation {q : Query} {call : Relation → Except StorageFault q.Answer × Relation}
    (hcall : q.call Relation = .ok call) (store : Relation) :
    ∃ a, q.answerFrom? store = some a ∧ call store = (.ok a, store) := by
  cases q with
  | count recipient =>
    cases hcall
    exact ⟨_, rfl, rfl⟩
  | list listing recipient token =>
    obtain ⟨bounds, hbounds⟩ := (proper_iff_call _ _).mpr ⟨call, hcall⟩
    rw [call_list _ hbounds] at hcall
    cases hcall
    rw [answerFrom?, hbounds]
    exact ⟨_, rfl, rfl⟩

end Query

namespace Api

theorem Request.replyFrom?_eq {r : Request} {q : Query} (hq : r.query? = some q)
    (store : Relation) : r.replyFrom? store = (q.answerFrom? store).map Query.Answer.reply := by
  cases r with
  | list listing r =>
    cases hq
    rcases hbounds : PageBounds.ofToken r.token with f | bounds
    · simp only [replyFrom?, Query.answerFrom?, hbounds]
      rfl
    · simp only [replyFrom?, Query.answerFrom?, hbounds]
      rfl
  | count r =>
    cases hq
    rfl
  | put r => cases hq

/-- Two requests that put one query are right or wrong in the same way. -/
theorem Request.check_congr {r r' : Request} {q : Query} (hq : r.query? = some q)
    (hq' : r'.query? = some q) : r.check = r'.check := by
  cases r with
  | list listing r =>
    cases r' with
    | list listing' r' =>
      cases hq
      obtain ⟨-, hrecipient, htoken⟩ := Query.list.inj (Option.some.inj hq')
      rw [check, check, hrecipient, htoken]
    | count r' => cases hq.trans hq'.symm
    | put r' => cases hq'
  | count r =>
    cases r' with
    | list listing' r' => cases hq.trans hq'.symm
    | count r' =>
      cases hq
      rw [check, check, Query.count.inj (Option.some.inj hq')]
    | put r' => cases hq'
  | put r => cases hq

/-! ## Refusals -/

theorem require_of_eq (field : String) {value : String} (h : value = "") :
    require field value = .error (.missingField field) := by
  rw [h]
  rfl

theorem require_of_ne (field : String) {value : String} (h : value ≠ "") :
    require field value = .ok () :=
  if_neg fun hempty => h (String.isEmpty_iff.mp hempty)

theorem isCallers_of_require {field value : String} {f : Fault}
    (h : require field value = .error f) : f.isCallers = true := by
  unfold require at h
  split at h
  · cases h
    rfl
  · cases h

/-- A token is refused for one sort of reason. -/
theorem exists_reason_of_ofToken {token : String} {f : Fault} (h : Cursor.ofToken token = .error f) :
    ∃ reason, f = .invalidToken reason := by
  unfold Cursor.ofToken at h
  split at h
  · cases h
  · split at h
    · cases h
      exact ⟨_, rfl⟩
    · split at h
      · cases h
        exact ⟨_, rfl⟩
      · cases h

theorem isCallers_of_ofToken {token : String} {f : Fault}
    (h : PageBounds.ofToken token = .error f) : f.isCallers = true := by
  rcases hcursor : Cursor.ofToken token with f' | cursor
  · rw [PageBounds.ofToken, hcursor] at h
    cases h
    obtain ⟨reason, rfl⟩ := exists_reason_of_ofToken hcursor
    rfl
  · rw [PageBounds.ofToken, hcursor] at h
    cases h

theorem isCallers_of_validate {r : PutRequest} {f : Fault} (h : r.validate = .error f) :
    f.isCallers = true := by
  unfold PutRequest.validate at h
  split at h
  · next hactor =>
    cases h
    exact isCallers_of_require hactor
  · split at h
    · next hrecipient =>
      cases h
      exact isCallers_of_require hrecipient
    · split at h
      · cases h
        rfl
      · cases h

/-- A decision is without a mistake if it names two users. -/
theorem validate_eq_ok_iff {r : PutRequest} :
    r.validate = .ok () ↔ r.actor ≠ "" ∧ r.recipient ≠ "" ∧ r.actor ≠ r.recipient := by
  rw [PutRequest.validate]
  by_cases hactor : r.actor = ""
  · simp only [require_of_eq _ hactor]
    exact iff_of_false nofun fun h => h.1 hactor
  · simp only [require_of_ne _ hactor]
    by_cases hrecipient : r.recipient = ""
    · simp only [require_of_eq _ hrecipient]
      exact iff_of_false nofun fun h => h.2.1 hrecipient
    · simp only [require_of_ne _ hrecipient]
      by_cases hsame : r.actor = r.recipient
      · rw [if_pos hsame]
        exact iff_of_false nofun fun h => h.2.2 hsame
      · rw [if_neg hsame]
        exact iff_of_true rfl ⟨hactor, hrecipient, hsame⟩

namespace Request

variable {listing : Listing} {r : ListRequest}

theorem check_list_eq_error_iff {f : Fault} : (list listing r).check = .error f ↔
    require "recipient_user_id" r.recipient = .error f ∨
      require "recipient_user_id" r.recipient = .ok () ∧ PageBounds.ofToken r.token = .error f := by
  rcases hrequire : require "recipient_user_id" r.recipient with f' | _
  · simp [check, hrequire]
  · rcases hbounds : PageBounds.ofToken r.token with f' | bounds
    · simp [check, hrequire, hbounds, Except.map]
    · simp [check, hrequire, hbounds, Except.map]

theorem check_list_eq_ok_iff : (list listing r).check = .ok () ↔
    require "recipient_user_id" r.recipient = .ok () ∧
      ∃ bounds, PageBounds.ofToken r.token = .ok bounds := by
  rcases hrequire : require "recipient_user_id" r.recipient with f' | _
  · simp [check, hrequire]
  · rcases hbounds : PageBounds.ofToken r.token with f' | bounds
    · simp [check, hrequire, hbounds, Except.map]
    · simp [check, hrequire, hbounds, Except.map]

end Request

/-- What is wrong with a request is the mistake of the caller. -/
theorem isCallers_of_check {r : Request} {f : Fault} (h : r.check = .error f) :
    f.isCallers = true := by
  cases r with
  | list listing r =>
    rcases Request.check_list_eq_error_iff.mp h with hrequire | ⟨-, hbounds⟩
    · exact isCallers_of_require hrequire
    · exact isCallers_of_ofToken hbounds
  | count r => exact isCallers_of_require h
  | put r => exact isCallers_of_validate h

theorem Request.proper_of_check {r : Request} {q : Query} (h : r.check = .ok ())
    (hq : r.query? = some q) : q.Proper := by
  cases r with
  | list listing r =>
    cases hq
    exact (check_list_eq_ok_iff.mp h).2
  | count r =>
    cases hq
    trivial
  | put r => cases hq

namespace Service

variable {σ κ : Type} [DecisionStore σ] [Cache κ] {r : Request} {q : Query} {f : Fault}

/-- **A request with a mistake is refused, and nobody is asked.** -/
theorem handle_of_check (h : r.check = .error f) (clock : Time.Clock) (s : Service σ κ) :
    s.handle r clock = .ok (.error (.ofFault r.failure f), s) := by
  cases r with
  | list listing r =>
    rcases Request.check_list_eq_error_iff.mp h with hrequire | ⟨hrequire, hbounds⟩
    · simp only [handle, handleList, hrequire]
      rfl
    · simp only [handle, handleList, hrequire, list, hbounds]
      rfl
  | count r =>
    have hrequire : require "recipient_user_id" r.recipient = .error f := h
    simp only [handle, handleCount, hrequire]
    rfl
  | put r =>
    have hvalid : r.validate = .error f := h
    simp only [handle, handlePut, hvalid]
    rfl

/-- A request without a mistake that only reads is answered as its query is. -/
theorem handle_query (h : r.check = .ok ()) (hq : r.query? = some q) (clock : Time.Clock)
    (s : Service σ κ) :
    s.handle r clock = (s.ask q clock).map fun (answer, s) =>
      ((answer.map Query.Answer.reply).mapError (.ofFault r.failure), s) := by
  cases r with
  | list listing r =>
    cases hq
    obtain ⟨hrequire, -⟩ := Request.check_list_eq_ok_iff.mp h
    simp only [handle, handleList, hrequire]
    show Except.map _ ((s.list listing r.recipient r.token clock) >>= _) =
      Except.map _ (s.list listing r.recipient r.token clock)
    rcases s.list listing r.recipient r.token clock with b | ⟨f | a, s'⟩
    · rfl
    · rfl
    · rfl
  | count r =>
    cases hq
    have hrequire : require "recipient_user_id" r.recipient = .ok () := h
    simp only [handle, handleCount, hrequire]
    show Except.map _ ((s.count r.recipient clock) >>= _) =
      Except.map _ (s.count r.recipient clock)
    rcases s.count r.recipient clock with b | ⟨f | a, s'⟩
    · rfl
    · rfl
    · rfl
  | put r => cases hq

theorem handle_of_told? {a : q.Answer} {clock : Time.Clock} {s : Service σ κ}
    (h : r.check = .ok ()) (hq : r.query? = some q)
    (htold : q.told? (Cache.get q.key clock s.cache.backend).1 = some a) :
    s.handle r clock = .ok (.ok a.reply, { s with cache := s.cache.probed q clock }) := by
  rw [handle_query h hq, ask_of_told? (Request.proper_of_check h hq) htold]
  rfl

/-- A decision without a mistake is recorded. -/
theorem handle_put {r : PutRequest} (h : r.validate = .ok ()) (clock : Time.Clock)
    (s : Service σ κ) :
    s.handle (.put r) clock = (s.decide r.actor r.recipient r.liked clock).map fun (answer, s) =>
      ((answer.map fun areMutual => Reply.put ⟨areMutual⟩).mapError (.ofFault putFailure), s) := by
  simp only [handle, handlePut, h]
  rcases s.decide r.actor r.recipient r.liked clock with b | ⟨f | areMutual, s'⟩
  · rfl
  · rfl
  · rfl

omit [DecisionStore σ] [Cache κ] in
theorem exists_of_map_eq_ok {ε α β : Type} {x : Except ε α} {g : α → β} {b : β}
    (h : x.map g = .ok b) : ∃ a, x = .ok a ∧ g a = b := by
  cases x with
  | error e => cases h
  | ok a =>
    cases h
    exact ⟨a, rfl, rfl⟩

/-- **What a request comes to**: it is refused, its query is answered, or its decision is recorded. -/
theorem handle_cases {clock : Time.Clock} {s s' : Service σ κ} {reply : Except Error Reply}
    (h : s.handle r clock = .ok (reply, s')) :
    (∃ f, r.check = .error f ∧ reply = .error (.ofFault r.failure f) ∧ s' = s) ∨
    (∃ q answer, r.check = .ok () ∧ r.query? = some q ∧ s.ask q clock = .ok (answer, s') ∧
      reply = (answer.map Query.Answer.reply).mapError (.ofFault r.failure)) ∨
    (∃ p answer, r = .put p ∧ p.validate = .ok () ∧
      s.decide p.actor p.recipient p.liked clock = .ok (answer, s') ∧
      reply =
        (answer.map fun areMutual => Reply.put ⟨areMutual⟩).mapError (.ofFault putFailure)) := by
  rcases hcheck : r.check with f | _
  · rw [handle_of_check hcheck] at h
    cases h
    exact Or.inl ⟨f, rfl, rfl, rfl⟩
  · right
    cases hq : r.query? with
    | some q =>
      rw [handle_query hcheck hq] at h
      obtain ⟨⟨answer, service⟩, hask, hreply⟩ := exists_of_map_eq_ok h
      cases hreply
      exact Or.inl ⟨q, answer, rfl, rfl, hask, rfl⟩
    | none =>
      right
      cases r with
      | list listing r => cases hq
      | count r => cases hq
      | put p =>
        rw [handle_put hcheck] at h
        obtain ⟨⟨answer, service⟩, hdecide, hreply⟩ := exists_of_map_eq_ok h
        cases hreply
        exact ⟨p, answer, rfl, hcheck, hdecide, rfl⟩

end Service

end Api

end LikedYou
