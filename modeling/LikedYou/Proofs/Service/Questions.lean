import LikedYou.Api.Service
import LikedYou.Proofs.Json.Lossless
import LikedYou.Proofs.Service.Keys

/-!
# How questions are answered

* `Query.decodeString_encodeString` — an answer comes back from a cache as it was
* `Service.ask` — a list or a number, as the query says
* `Service.Asked` — what asking can come to: refused, found in the cache, failed in the store, fetched
* `Service.asked_of_ask`, `Service.Asked.ask_eq` — these are all the cases

Both kinds of queries go the same way through the service, so this is said once, with the type of the
answer depending on the query.
-/

namespace LikedYou

/-! ## Answers -/

namespace Query

/-- What answers a query. -/
def Answer : Query → Type
  | list .. => Api.ListReply
  | count _ => UInt64

instance instDocumentAnswer : (q : Query) → Json.Document q.Answer
  | list .. => inferInstanceAs (Json.Document Api.ListReply)
  | count _ => inferInstanceAs (Json.Document UInt64)

theorem lossless_answer (q : Query) : (Json.Document.shape q.Answer).lossless = true := by
  cases q with
  | list => rfl
  | count => rfl

/-- **An answer comes back as it was.** -/
theorem decodeString_encodeString {q : Query} (a : q.Answer) :
    Json.decodeString (Json.encodeString a) = .ok a :=
  Json.decodeString_encodeString q.lossless_answer a

/-- The call of a store that answers a query, if the token of the query can be read. -/
def call (σ : Type) [DecisionStore σ] :
    (q : Query) → Except Fault (σ → Except StorageFault q.Answer × σ)
  | list listing recipient token =>
    (PageBounds.ofToken token).map fun bounds store =>
      let (page, store) := DecisionStore.likers listing recipient bounds store
      (page.map Api.ListReply.ofPage, store)
  | count recipient => .ok (DecisionStore.count recipient)

theorem call_list (σ : Type) [DecisionStore σ] {listing : Listing} {recipient token : String}
    {bounds : PageBounds} (h : PageBounds.ofToken token = .ok bounds) :
    (list listing recipient token).call σ = .ok fun store =>
      ((DecisionStore.likers listing recipient bounds store).1.map Api.ListReply.ofPage,
        (DecisionStore.likers listing recipient bounds store).2) := by
  simp only [call, h]
  rfl

theorem proper_iff_call (σ : Type) [DecisionStore σ] (q : Query) :
    q.Proper ↔ ∃ call, q.call σ = .ok call := by
  cases q with
  | count => exact ⟨fun _ => ⟨_, rfl⟩, fun _ => trivial⟩
  | list listing recipient token =>
    constructor
    · rintro ⟨bounds, hbounds⟩
      exact ⟨_, call_list σ hbounds⟩
    · rintro ⟨call, hcall⟩
      rcases hbounds : PageBounds.ofToken token with f | bounds
      · rw [Query.call, hbounds] at hcall
        cases hcall
      · exact ⟨bounds, hbounds⟩

/-- The answer that a read of a cache tells, if it tells one. -/
def told? (q : Query) : Except OperationFault (Option String) → Option q.Answer
  | .ok (some text) => (Json.decodeString text).toOption
  | _ => none

theorem told?_eq_some_iff {q : Query} {found : Except OperationFault (Option String)} {a : q.Answer} :
    q.told? found = some a ↔ ∃ text, found = .ok (some text) ∧ Json.decodeString text = .ok a := by
  unfold told?
  split
  · next text =>
    cases hdecode : Json.decodeString (α := q.Answer) text with
    | error e => simp [Except.toOption, hdecode]
    | ok a' => simp [Except.toOption, hdecode]
  · next hnot =>
    refine ⟨fun h => ?_, fun h => ?_⟩
    · cases h
    · obtain ⟨text, rfl, -⟩ := h
      exact absurd rfl (hnot text)

end Query

/-! ## Looking up -/

namespace ReadThrough

variable {κ : Type} [Cache κ]

/-- A cache after it was asked for a query. -/
def probed (c : ReadThrough κ) (q : Query) (clock : Time.Clock) : ReadThrough κ :=
  { c with backend := (Cache.get q.key clock c.backend).2 }

/-- A look-up tells what the cache has, unless reading it breaks down. -/
theorem lookup_eq (c : ReadThrough κ) (q : Query) (clock : Time.Clock) :
    c.lookup q.Answer q clock =
      match (Cache.get q.key clock c.backend).1 with
      | .error (.breakdown b) => .error b
      | found => .ok (q.told? found, c.probed q clock) := by
  unfold lookup probed Cache.getJson
  obtain ⟨found, backend⟩ := Cache.get q.key clock c.backend
  cases found with
  | error f =>
    cases f with
    | storage f => rfl
    | breakdown b => rfl
  | ok found =>
    cases found with
    | none => rfl
    | some text =>
      simp only [Query.told?]
      cases Json.decodeString (α := q.Answer) text with
      | error e => rfl
      | ok a => rfl

theorem of_lookup_eq_ok {c c' : ReadThrough κ} {q : Query} {clock : Time.Clock}
    {found : Option q.Answer} (h : c.lookup q.Answer q clock = .ok (found, c')) :
    q.told? (Cache.get q.key clock c.backend).1 = found ∧ c' = c.probed q clock := by
  rw [lookup_eq] at h
  split at h
  · cases h
  · cases h
    exact ⟨rfl, rfl⟩

theorem lookup_eq_ok {c : ReadThrough κ} {q : Query} {clock : Time.Clock}
    (h : ∀ b, (Cache.get q.key clock c.backend).1 ≠ .error (.breakdown b)) :
    c.lookup q.Answer q clock =
      .ok (q.told? (Cache.get q.key clock c.backend).1, c.probed q clock) := by
  rw [lookup_eq]
  split
  · next b hget => exact absurd hget (h b)
  · rfl

end ReadThrough

/-! ## Asking -/

namespace Api.Service

variable {σ κ : Type} [DecisionStore σ] [Cache κ] {q : Query} {clock : Time.Clock}
  {s s' : Service σ κ} {answer : Except Fault q.Answer}

/-- Ask the service a query. -/
def ask : (q : Query) → Time.Clock → Service σ κ →
    Except Breakdown (Except Fault q.Answer × Service σ κ)
  | .list listing recipient token => list listing recipient token
  | .count recipient => count recipient

/-- What asking comes to. -/
inductive Asked (q : Query) (clock : Time.Clock) (s : Service σ κ) :
    Except Fault q.Answer → Service σ κ → Prop where
  /-- The token cannot be read. -/
  | refused {f : Fault} (hcall : q.call σ = .error f) : Asked q clock s (.error f) s
  /-- The cache has the answer. -/
  | found {a : q.Answer} (hproper : q.Proper)
      (htold : q.told? (Cache.get q.key clock s.cache.backend).1 = some a) :
      Asked q clock s (.ok a) { s with cache := s.cache.probed q clock }
  /-- The cache does not have the answer, and the store fails. -/
  | failed {call : σ → Except StorageFault q.Answer × σ} {f : StorageFault} {store : σ}
      (htold : q.told? (Cache.get q.key clock s.cache.backend).1 = none)
      (hcall : q.call σ = .ok call) (hstore : call s.store = (.error f, store)) :
      Asked q clock s (.error (.storage f)) ⟨store, s.cache.probed q clock⟩
  /-- The cache does not have the answer, and the store does. -/
  | fetched {call : σ → Except StorageFault q.Answer × σ} {a : q.Answer} {store : σ}
      (htold : q.told? (Cache.get q.key clock s.cache.backend).1 = none)
      (hcall : q.call σ = .ok call) (hstore : call s.store = (.ok a, store)) :
      Asked q clock s (.ok a) ⟨store, (s.cache.probed q clock).repopulateJson q a⟩

/-- Both kinds of queries go the same way. -/
theorem ask_eq (q : Query) (clock : Time.Clock) (s : Service σ κ) :
    s.ask q clock =
      match q.call σ with
      | .error f => .ok (.error f, s)
      | .ok call =>
        match s.cache.lookup q.Answer q clock with
        | .error b => .error b
        | .ok (some a, cache) => .ok (.ok a, { s with cache })
        | .ok (none, cache) =>
          match call s.store with
          | (.error f, store) => .ok (.error (.storage f), ⟨store, cache⟩)
          | (.ok a, store) => .ok (.ok a, ⟨store, cache.repopulateJson q a⟩) := by
  generalize hlookup : s.cache.lookup q.Answer q clock = looked
  cases q with
  | count recipient =>
    have hcount : s.cache.lookup UInt64 (.count recipient) clock = looked := hlookup
    show s.count recipient clock = _
    simp only [count, hcount, Query.call]
    rcases looked with b | ⟨_ | count, cache⟩
    · rfl
    · rcases DecisionStore.count recipient s.store with ⟨f | count, store⟩
      · rfl
      · rfl
    · rfl
  | list listing recipient token =>
    have hlist : s.cache.lookup ListReply (.list listing recipient token) clock = looked := hlookup
    show s.list listing recipient token clock = _
    simp only [list, hlist, Query.call]
    rcases PageBounds.ofToken token with f | bounds
    · rfl
    · rcases looked with b | ⟨_ | reply, cache⟩
      · rfl
      · simp only [Except.map]
        rcases DecisionStore.likers listing recipient bounds s.store with ⟨f | page, store⟩
        · rfl
        · rfl
      · rfl

/-- What the cache tells is answered, and the store is not called. -/
theorem ask_of_told? {a : q.Answer} (hproper : q.Proper)
    (htold : q.told? (Cache.get q.key clock s.cache.backend).1 = some a) :
    s.ask q clock = .ok (.ok a, { s with cache := s.cache.probed q clock }) := by
  obtain ⟨call, hcall⟩ := (q.proper_iff_call σ).mp hproper
  obtain ⟨text, hget, -⟩ := Query.told?_eq_some_iff.mp htold
  have hread : ∀ b, (Cache.get q.key clock s.cache.backend).1 ≠ .error (.breakdown b) := by
    intro b hb
    rw [hget] at hb
    cases hb
  rw [ask_eq, hcall, ReadThrough.lookup_eq_ok hread, htold]

/-- **There are no other cases.** -/
theorem asked_of_ask (h : s.ask q clock = .ok (answer, s')) : Asked q clock s answer s' := by
  rw [ask_eq] at h
  cases hcall : q.call σ with
  | error f =>
    rw [hcall] at h
    cases h
    exact .refused hcall
  | ok call =>
    simp only [hcall] at h
    rcases hlookup : s.cache.lookup q.Answer q clock with b | ⟨found, cache⟩
    · rw [hlookup] at h
      cases h
    · obtain ⟨htold, rfl⟩ := ReadThrough.of_lookup_eq_ok hlookup
      rw [hlookup] at h
      cases found with
      | some a =>
        cases h
        exact .found ((q.proper_iff_call σ).mpr ⟨call, hcall⟩) htold
      | none =>
        rcases hstore : call s.store with ⟨f | a, store⟩
        · simp only [hstore] at h
          cases h
          exact .failed htold hcall hstore
        · simp only [hstore] at h
          cases h
          exact .fetched htold hcall hstore

/-- There is an answer unless reading the cache breaks down. -/
theorem exists_ask_eq (q : Query) (s : Service σ κ)
    (h : ∀ b, (Cache.get q.key clock s.cache.backend).1 ≠ .error (.breakdown b)) :
    ∃ answer s', s.ask q clock = .ok (answer, s') := by
  rw [ask_eq, ReadThrough.lookup_eq_ok h]
  cases q.call σ with
  | error f => exact ⟨_, _, rfl⟩
  | ok call =>
    simp only
    split
    · next hlookup => cases hlookup
    · exact ⟨_, _, rfl⟩
    · split
      · exact ⟨_, _, rfl⟩
      · exact ⟨_, _, rfl⟩

end Api.Service

end LikedYou
