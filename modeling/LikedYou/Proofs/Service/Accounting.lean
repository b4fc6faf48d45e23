import LikedYou.Proofs.Service.Requests
import LikedYou.Proofs.Service.Sources
import LikedYou.Proofs.Store.Monitored

/-!
# What a request costs

* `QueryAccount` — the calls that a query makes of cache and store, and its reply
* `DecisionAccount` — the same for a decision
* `Service.handle_accounts` — every request is refused at no cost, or has one of these accounts,
  whatever is stored and kept, and whatever fails

What the cache tells decides about all the rest. It tells nothing where it has no text, where the text
is no answer, and where it fails.
-/

namespace LikedYou.Api

/-- A service whose store and cache are monitored. -/
abbrev Monitored := Service (MonitoredStore Relation) (MonitoredCache Backend)

/-! ## Accounts -/

/-- What a query costs and is answered. -/
structure QueryAccount (q : Query) (failure : String) (clock : Time.Clock) (s s' : Monitored)
    (reply : Except Error Reply) : Prop where
  /-- The cache is read once, under the key of the query, and not written. -/
  cache : s'.cache.backend = (Cache.get q.key clock s.cache.backend).2
  getCalls : s'.cache.backend.getCalls = s.cache.backend.getCalls + 1
  setAttempts : s'.cache.backend.setAttempts = s.cache.backend.setAttempts
  /-- What the cache tells is the reply. -/
  hit : ∀ a, q.told? (Cache.get q.key clock s.cache.backend).1 = some a →
    reply = .ok a.reply ∧ s'.store = s.store ∧ s'.cache.pending = s.cache.pending
  /-- If it tells nothing, the store is called once. -/
  miss : q.told? (Cache.get q.key clock s.cache.backend).1 = none →
    s'.store = { s.store with calls := s.store.calls.plus q }
  /-- If the store fails, nothing is to be kept. -/
  failed : q.told? (Cache.get q.key clock s.cache.backend).1 = none →
    s.store.failing.reads = true →
      reply = .error ⟨.internalError, failure⟩ ∧ s'.cache.pending = s.cache.pending
  /-- Otherwise its answer is the reply, and is to be kept. -/
  fetched : q.told? (Cache.get q.key clock s.cache.backend).1 = none →
    s.store.failing.reads = false →
      ∃ a, q.answerFrom? s.store.inner = some a ∧ reply = .ok a.reply ∧
        s'.cache.pending =
          s.cache.pending ++ [⟨q.key, Json.encodeString a, s.cache.ttls.of q⟩]

/-- What a decision costs and is answered. -/
structure DecisionAccount (r : PutRequest) (clock : Time.Clock) (s s' : Monitored)
    (reply : Except Error Reply) : Prop where
  /-- The cache is neither read nor written. -/
  cache : s'.cache = s.cache
  /-- The decision is recorded by one call. Only for a like that was recorded there is another one. -/
  calls : s'.store.calls =
    { s.store.calls with
      record := s.store.calls.record + 1
      mutuals := s.store.calls.mutuals + if r.liked && !s.store.failing.record then 1 else 0 }
  unrecorded : s.store.failing.record = true → s'.store.inner = s.store.inner
  recorded : s.store.failing.record = false → ∃ time, clock.now = .ok time ∧
    s'.store.inner = s.store.inner.record r.actor r.recipient r.liked time
  reply : reply =
    if s.store.failing.record then .error ⟨.internalError, putFailure⟩
    else if !r.liked then .ok (.put ⟨false⟩)
    else if s.store.failing.mutuals then .error ⟨.internalError, "failed to check mutual like"⟩
    else .ok (.put ⟨s'.store.inner.areMutual r.actor r.recipient⟩)

/-! ## Queries -/

variable {s s' : Monitored} {clock : Time.Clock} {q : Query}

/-- A monitored relation is called once. It answers unless it is made to fail, and stays as it is. -/
theorem call_monitoredRelation
    {call : MonitoredStore Relation → Except StorageFault q.Answer × MonitoredStore Relation}
    (hcall : q.call (MonitoredStore Relation) = .ok call) (store : MonitoredStore Relation) :
    ∃ a, q.answerFrom? store.inner = some a ∧
      call store = (if store.failing.reads then .error (MonitoredStore.readFault q) else .ok a,
        { store with calls := store.calls.plus q }) := by
  obtain ⟨inner, hinner, heq⟩ := MonitoredStore.call_eq hcall
  obtain ⟨a, hgives, hinner'⟩ := Query.call_relation hinner store.inner
  refine ⟨a, hgives, ?_⟩
  rw [heq, hinner']
  split
  · rfl
  · rfl

theorem Service.Asked.account {answer : Except Fault q.Answer} (h : Asked q clock s answer s')
    (hproper : q.Proper) (failure : String) :
    QueryAccount q failure clock s s'
      ((answer.map Query.Answer.reply).mapError (.ofFault failure)) := by
  have hget := MonitoredCache.get_eq q.key clock s.cache.backend
  have hgetCalls := congrArg MonitoredCache.getCalls hget
  have hsetAttempts := congrArg MonitoredCache.setAttempts hget
  have hnot : ∀ {a : q.Answer} {found}, q.told? found = none → q.told? found ≠ some a := by
    intro a found hnone hsome
    rw [hnone] at hsome
    cases hsome
  cases h with
  | refused hcall =>
    obtain ⟨call, hcall'⟩ := (q.proper_iff_call (MonitoredStore Relation)).mp hproper
    rw [hcall] at hcall'
    cases hcall'
  | found _ htold =>
    refine ⟨rfl, hgetCalls, hsetAttempts, fun a ha => ?_, fun hno => absurd htold (hnot hno),
      fun hno => absurd htold (hnot hno), fun hno => absurd htold (hnot hno)⟩
    rw [htold] at ha
    cases ha
    exact ⟨rfl, rfl, rfl⟩
  | failed htold hcall hstore =>
    obtain ⟨a, -, heq⟩ := call_monitoredRelation hcall s.store
    rw [heq] at hstore
    obtain ⟨hfault, rfl⟩ := Prod.mk.inj hstore
    refine ⟨rfl, hgetCalls, hsetAttempts, fun a ha => absurd ha (hnot htold), fun _ => rfl,
      fun _ _ => ⟨rfl, rfl⟩, fun _ hworks => ?_⟩
    rw [hworks] at hfault
    cases hfault
  | fetched htold hcall hstore =>
    obtain ⟨a, hgives, heq⟩ := call_monitoredRelation hcall s.store
    rw [heq] at hstore
    obtain ⟨hanswer, rfl⟩ := Prod.mk.inj hstore
    refine ⟨rfl, hgetCalls, hsetAttempts, fun a ha => absurd ha (hnot htold), fun _ => rfl,
      fun _ hfails => ?_, fun _ hworks => ?_⟩
    · rw [hfails] at hanswer
      cases hanswer
    · rw [hworks] at hanswer
      cases hanswer
      exact ⟨_, hgives, rfl, rfl⟩

/-! ## Decisions -/

/-- A decision is recorded by one call, unless it is made to fail or the clock cannot be read. -/
theorem record_monitoredRelation (actor recipient : String) (liked : Bool) (clock : Time.Clock)
    (store : MonitoredStore Relation) :
    DecisionStore.record actor recipient liked clock store =
      (if store.failing.record then
        (.error (.storage (.unavailable "injected upsert_decision failure")),
          { store with calls.record := store.calls.record + 1 })
      else
        match clock.now with
        | .error b =>
          (.error (.breakdown b), { store with calls.record := store.calls.record + 1 })
        | .ok time =>
          (.ok (),
            { store with
              inner := store.inner.record actor recipient liked time
              calls.record := store.calls.record + 1 })) := by
  show MonitoredStore.pass _ _ _ _ _ _ = _
  unfold MonitoredStore.pass
  split
  · rfl
  · simp only [DecisionStore.record, Relation.recordNow]
    cases clock.now with
    | error b => rfl
    | ok time => rfl

theorem areMutual_monitoredRelation (actor recipient : String) (store : MonitoredStore Relation) :
    DecisionStore.areMutual actor recipient store =
      (if store.failing.mutuals then
        .error (.unavailable "injected has_mutual_like failure")
      else .ok (store.inner.areMutual actor recipient),
        { store with calls.mutuals := store.calls.mutuals + 1 }) := by
  show MonitoredStore.pass _ _ _ _ _ _ = _
  unfold MonitoredStore.pass
  split
  · rfl
  · rfl

theorem Service.exists_decide (hclock : clock.Readable) (s : Monitored) (r : PutRequest) :
    ∃ answer s', s.decide r.actor r.recipient r.liked clock = .ok (answer, s') := by
  obtain ⟨time, htime⟩ := Time.Clock.exists_now hclock
  unfold decide
  split
  · next hrecord =>
    rw [record_monitoredRelation, htime] at hrecord
    split at hrecord
    · cases hrecord
    · cases hrecord
  · exact ⟨_, _, rfl⟩
  · split
    · exact ⟨_, _, rfl⟩
    · split
      · exact ⟨_, _, rfl⟩
      · exact ⟨_, _, rfl⟩

theorem Service.decide_account {r : PutRequest} {answer : Except Fault Bool}
    (h : s.decide r.actor r.recipient r.liked clock = .ok (answer, s')) :
    DecisionAccount r clock s s'
      ((answer.map fun areMutual => Reply.put ⟨areMutual⟩).mapError (.ofFault putFailure)) := by
  unfold decide at h
  rw [record_monitoredRelation] at h
  cases hrecord : s.store.failing.record with
  | true =>
    rw [hrecord] at h
    cases h
    refine ⟨rfl, by simp [hrecord], fun _ => rfl, fun hworks => ?_, by rw [hrecord]; rfl⟩
    rw [hrecord] at hworks
    cases hworks
  | false =>
    have hfails : ¬ s.store.failing.record = true := by simp [hrecord]
    rw [hrecord] at h
    cases htime : clock.now with
    | error b =>
      rw [htime] at h
      cases h
    | ok time =>
      rw [htime] at h
      cases hliked : r.liked with
      | false =>
        rw [hliked] at h
        cases h
        exact ⟨rfl, by simp [hliked], fun hno => absurd hno hfails,
          fun _ => ⟨time, htime, by rw [hliked]⟩, by rw [hrecord, hliked]; rfl⟩
      | true =>
        -- only a like that was recorded is checked
        simp only [hliked, Bool.false_eq_true, Bool.not_true, if_false,
          areMutual_monitoredRelation] at h
        cases hmutuals : s.store.failing.mutuals with
        | true =>
          rw [hmutuals] at h
          cases h
          exact ⟨rfl, by simp [hliked, hrecord], fun hno => absurd hno hfails,
            fun _ => ⟨time, htime, by rw [hliked]⟩, by rw [hrecord, hliked, hmutuals]; rfl⟩
        | false =>
          rw [hmutuals] at h
          cases h
          exact ⟨rfl, by simp [hliked, hrecord], fun hno => absurd hno hfails,
            fun _ => ⟨time, htime, by rw [hliked]⟩, by rw [hrecord, hliked, hmutuals]; rfl⟩

/-! ## Pending writes -/

/-- A write that is run is tried once, whether it fails or not. -/
theorem setAttempts_runWrite (hclock : clock.Readable) {w : PendingWrite}
    (hend : clock.running + w.ttl < Volatile.clockEnd) (c : ReadThrough (MonitoredCache Backend)) :
    (c.runWrite clock w).backend.setAttempts = c.backend.setAttempts + 1 :=
  MonitoredCache.setAttempts_set (Backend.not_breaksDown_set hclock hend w.key w.value _)

theorem setAttempts_foldl_runWrite (hclock : clock.Readable) {ws : List PendingWrite}
    (hend : ∀ w ∈ ws, clock.running + w.ttl < Volatile.clockEnd)
    (c : ReadThrough (MonitoredCache Backend)) :
    (ws.foldl (ReadThrough.runWrite clock) c).backend.setAttempts =
      c.backend.setAttempts + ws.length := by
  induction ws generalizing c with
  | nil => rfl
  | cons w ws ih =>
    obtain ⟨hw, hrest⟩ := List.forall_mem_cons.mp hend
    rw [List.foldl_cons, ih hrest, setAttempts_runWrite hclock hw, List.length_cons]
    omega

/-! ## Requests -/

/-- There is a reply while the clock can be read. -/
theorem Service.exists_handle (hclock : clock.Readable) (s : Monitored) (r : Request) :
    ∃ reply s', s.handle r clock = .ok (reply, s') := by
  rcases hcheck : r.check with f | _
  · exact ⟨_, _, handle_of_check hcheck clock s⟩
  · cases hq : r.query? with
    | some q =>
      have hread : ∀ b, (Cache.get q.key clock s.cache.backend).1 ≠ .error (.breakdown b) :=
        fun b hb => Backend.not_breaksDown_get hclock q.key _ b (MonitoredCache.get_of_breakdown hb)
      obtain ⟨answer, s', hask⟩ := exists_ask_eq q s hread
      rw [handle_query hcheck hq, hask]
      exact ⟨_, _, rfl⟩
    | none =>
      cases r with
      | list listing r => cases hq
      | count r => cases hq
      | put r =>
        obtain ⟨answer, s', hdecide⟩ := exists_decide hclock s r
        rw [handle_put hcheck, hdecide]
        exact ⟨_, _, rfl⟩

/-- A request without a mistake that only reads has the account of its query. -/
theorem Service.queryAccount {r : Request} {reply : Except Error Reply} (hcheck : r.check = .ok ())
    (hq : r.query? = some q) (h : s.handle r clock = .ok (reply, s')) :
    QueryAccount q r.failure clock s s' reply := by
  rw [handle_query hcheck hq] at h
  obtain ⟨⟨answer, service⟩, hask, hreply⟩ := exists_of_map_eq_ok h
  cases hreply
  exact (asked_of_ask hask).account (Request.proper_of_check hcheck hq) r.failure

/-- A decision without a mistake has its account. -/
theorem Service.decisionAccount {p : PutRequest} {reply : Except Error Reply}
    (hvalid : p.validate = .ok ()) (h : s.handle (.put p) clock = .ok (reply, s')) :
    DecisionAccount p clock s s' reply := by
  rw [handle_put hvalid] at h
  obtain ⟨⟨answer, service⟩, hdecide, hreply⟩ := exists_of_map_eq_ok h
  cases hreply
  exact decide_account hdecide

/-- **Every request is refused at no cost, or has the account of a query or of a decision.** There is
a reply while the clock can be read. The writes that are left are tried once each, while the running
clock can tell their expiries, and this changes nothing but the cache. -/
theorem Service.handle_accounts (s : Monitored) (r : Request) (clock : Time.Clock) :
    (clock.Readable → ∃ reply s', s.handle r clock = .ok (reply, s')) ∧
    (∀ f, r.check = .error f → f.isCallers = true ∧
      s.handle r clock = .ok (.error (.ofFault r.failure f), s)) ∧
    (r.check = .ok () → ∀ reply s', s.handle r clock = .ok (reply, s') →
      (∀ q, r.query? = some q → QueryAccount q r.failure clock s s' reply) ∧
      (∀ p, r = .put p → DecisionAccount p clock s s' reply) ∧
      ∀ later, later.Readable →
        (∀ w ∈ s'.cache.pending, later.running + w.ttl < Volatile.clockEnd) →
          (s'.settle later).store = s'.store ∧
          (s'.settle later).cache.backend.setAttempts =
            s'.cache.backend.setAttempts + s'.cache.pending.length) := by
  refine ⟨fun hclock => exists_handle hclock s r, fun f hcheck => ?_,
    fun hcheck reply s' hhandle => ⟨fun q hq => queryAccount hcheck hq hhandle, ?_,
      fun later hlater hend => ?_⟩⟩
  · exact ⟨isCallers_of_check hcheck, handle_of_check hcheck clock s⟩
  · rintro p rfl
    exact decisionAccount hcheck hhandle
  · exact ⟨rfl, setAttempts_foldl_runWrite hlater hend _⟩

/-- A service whose cache has a text for a number that is none, and cannot be written. -/
def spoiled : Monitored where
  store := .new .empty
  cache :=
    { backend :=
        { MonitoredCache.new (Cache.set "likerscount:a" "x" (.ofSeconds 1) (.start 0 0)
            (Backend.volatile .empty)).2 with failing := ⟨false, true, false⟩ }
      ttls := .default
      pending := [] }

theorem Service.handle_accounts_spoiled :
    ∃ s', spoiled.handle (.count ⟨"a"⟩) (.start 0 0) = .ok (.ok (.count ⟨0⟩), s') ∧
      s'.store.calls = { StoreCalls.none with count := 1 } ∧
      (s'.settle (.start 0 0)).cache.backend.setAttempts = 1 := by
  have hclock : (Time.Clock.start 0 0).Readable := ⟨by decide, by decide⟩
  obtain ⟨hexists, -, haccounts⟩ := handle_accounts spoiled (.count ⟨"a"⟩) (.start 0 0)
  obtain ⟨reply, s', hhandle⟩ := hexists hclock
  obtain ⟨hquery, -, hwrites⟩ := haccounts rfl reply s' hhandle
  have haccount := hquery (.count "a") rfl
  have htold : (Query.count "a").told?
      (Cache.get (Query.count "a").key (.start 0 0) spoiled.cache.backend).1 = none := by
    have hget : (Cache.get (Query.count "a").key (.start 0 0) spoiled.cache.backend).1 =
        .ok (some "x") := by decide +kernel
    rw [hget]
    rfl
  obtain ⟨a, ha, rfl, hpending⟩ := haccount.fetched htold rfl
  have hzero : UInt64.ofNat (Relation.empty.count "a") = 0 := by decide +kernel
  obtain rfl : (0 : UInt64) = a := Option.some.inj ((congrArg some hzero).symm.trans ha)
  have hend : ∀ w ∈ s'.cache.pending,
      (Time.Clock.start 0 0).running + w.ttl < Volatile.clockEnd := by
    intro w hw
    obtain rfl := List.mem_singleton.mp (hpending ▸ hw)
    decide
  refine ⟨s', hhandle, ?_, ?_⟩
  · rw [haccount.miss htold]
    rfl
  · rw [(hwrites _ hclock hend).2, haccount.setAttempts, hpending]
    rfl

end LikedYou.Api
