import LikedYou.Proofs.Service.Sources
import LikedYou.Proofs.Store.Monitored
import LikedYou.Store.Relation

/-!
# Writes that nobody waits for

* `Detached.run` — queries and decisions, between which pending writes are run, each at any time, in
  any order, or never
* `Detached.Traced.step` — what one event preserves: every text that is kept or pending is an answer
  that the store gave
* `Detached.hit_answers_same_query` — what the cache answers, the store answered to the same query

Texts are never looked up by when they were written, so their order does not matter. What matters is
that the key of a text tells its query, whatever the name of the recipient is.
-/

namespace LikedYou.Api

open Twins (Written)

/-- A service whose pending writes are run one by one, and its clock. -/
structure Detached (σ : Type) where
  clock : Time.Clock
  service : Service (MonitoredStore σ) (MonitoredCache Backend)

namespace Detached

variable {σ : Type} [DecisionStore σ]

/-! ## Runs -/

/-- Something that happens to a service. -/
inductive Event where
  /-- Time goes on. -/
  | advance (d : Time.Duration)
  /-- From now on some operations are to fail. -/
  | fail (cache : CacheSwitches) (store : StoreSwitches)
  | ask (q : Query)
  | decide (actor recipient : String) (liked : Bool)
  /-- A pending write is run: the one at this place among them, if there is one. -/
  | write (place : Nat)

/-- A service that nobody asked anything yet. Its cache is empty, the store is any. -/
def start (store : MonitoredStore σ) (ttls : Ttls) (choice : CacheChoice) (room : Durable.Room)
    (clock : Time.Clock) : Detached σ :=
  ⟨clock, store, MonitoredCache.new (Backend.empty choice room), ttls, []⟩

/-- What an event does. A breakdown leaves everything as it was. -/
def step (s : Detached σ) : Event → Detached σ
  | .advance d => { s with clock := s.clock.advance d }
  | .fail cache store =>
    { s with service.cache.backend.failing := cache, service.store.failing := store }
  | .ask q =>
    match s.service.ask q s.clock with
    | .ok (_, service) => { s with service }
    | .error _ => s
  | .decide actor recipient liked =>
    match s.service.decide actor recipient liked s.clock with
    | .ok (_, service) => { s with service }
    | .error _ => s
  | .write place =>
    match s.service.cache.pending[place]? with
    | some w =>
      let cache := { s.service.cache with pending := s.service.cache.pending.eraseIdx place }
      { s with service.cache := cache.runWrite s.clock w }
    | none => s

/-- What becomes of a service. -/
def run (s : Detached σ) (events : List Event) : Detached σ := events.foldl step s

theorem run_append_singleton (s : Detached σ) (events : List Event) (e : Event) :
    s.run (events ++ [e]) = (s.run events).step e := by
  rw [run, List.foldl_append]
  rfl

/-- Whether a query is answered without a call of the store. -/
def FromCache (s : Detached σ) (q : Query) (a : q.Answer) : Prop :=
  ∃ service, s.service.ask q s.clock = .ok (.ok a, service) ∧
    service.store.calls = s.service.store.calls

/-- Whether a query is answered by a call of the store. -/
def FromStore (s : Detached σ) (q : Query) (a : q.Answer) : Prop :=
  ∃ service, s.service.ask q s.clock = .ok (.ok a, service) ∧
    service.store.calls ≠ s.service.store.calls

/-! ## What is kept -/

variable {s : Detached σ} {events : List Event} {q : Query} {a : q.Answer}

/-- Whether the store gave an answer to a query in the course of some events. -/
def Given (s : Detached σ) (events : List Event) (q : Query) (a : q.Answer) : Prop :=
  ∃ earlier later, events = earlier ++ .ask q :: later ∧ (s.run earlier).FromStore q a

theorem Given.append (h : s.Given events q a) (e : Event) : s.Given (events ++ [e]) q a := by
  obtain ⟨earlier, later, rfl, hstore⟩ := h
  exact ⟨earlier, later ++ [e], by simp, hstore⟩

/-- Whether what is written under a key is an answer that the store gave. -/
def Traces (s : Detached σ) (events : List Event) : String → Written → Prop :=
  Query.IsAnswer fun q a _ => s.Given events q a

theorem Traces.append {key : String} {w : Written} (h : s.Traces events key w) (e : Event) :
    s.Traces (events ++ [e]) key w :=
  h.mono fun _ _ _ hgiven => hgiven.append e

/-- Whether all that is kept or to be kept after some events is an answer that the store gave. -/
def Traced (s : Detached σ) (events : List Event) : Prop :=
  (s.run events).service.Sourced (s.Traces events)
    fun w => ∀ clock, s.Traces events w.key ⟨w.value, clock, w.ttl⟩

theorem Traced.append (h : s.Traced events) (e : Event) :
    (s.run events).service.Sourced (s.Traces (events ++ [e]))
      fun w => ∀ clock, s.Traces (events ++ [e]) w.key ⟨w.value, clock, w.ttl⟩ :=
  h.mono (fun _ _ htraces => htraces.append e) fun _ htraces clock => (htraces clock).append e

/-- What is fetched is fetched by a call of the store. -/
theorem fromStore_of_fetched
    {call : MonitoredStore σ → Except StorageFault q.Answer × MonitoredStore σ}
    {service : Service (MonitoredStore σ) (MonitoredCache Backend)}
    (hcall : q.call (MonitoredStore σ) = .ok call)
    (hstore : call s.service.store = (.ok a, service.store))
    (hask : s.service.ask q s.clock = .ok (.ok a, service)) : s.FromStore q a := by
  refine ⟨service, hask, ?_⟩
  obtain ⟨inner, -, heq⟩ := MonitoredStore.call_eq hcall
  have hcalls := congrArg (fun answer => answer.2.calls) ((heq _).symm.trans hstore)
  rw [← hcalls]
  split
  · exact s.service.store.calls.plus_ne q
  · exact s.service.store.calls.plus_ne q

/-- **What one event preserves.** -/
theorem Traced.step (h : s.Traced events) (e : Event) : s.Traced (events ++ [e]) := by
  have hold := h.append e
  unfold Traced
  rw [run_append_singleton]
  cases e with
  | advance d => exact hold
  | fail cache store => exact ⟨hold.kept, hold.due⟩
  | ask q =>
    simp only [Detached.step]
    split
    · next answer service hask =>
      refine hold.ask (Service.asked_of_ask hask) fun call a hcall hstore hanswer clock => ?_
      rw [hanswer] at hask
      have hproper := (q.proper_iff_call _).mpr ⟨call, hcall⟩
      exact ⟨q, a, hproper, rfl, rfl, events, [], rfl, fromStore_of_fetched hcall hstore hask⟩
    · exact hold
  | decide actor recipient liked =>
    simp only [Detached.step]
    split
    · next answer service hdecide =>
      have hcache := Service.cache_of_decide hdecide
      exact ⟨hcache ▸ hold.kept, hcache ▸ hold.due⟩
    · exact hold
  | write place =>
    simp only [Detached.step]
    split
    · next w hw =>
      -- the others stay pending, and this one leaves what was to be kept, if it leaves anything
      have hrest : Service.Sourced _ _ { (s.run events).service with
          cache.pending := (s.run events).service.cache.pending.eraseIdx place } :=
        ⟨hold.kept, fun w' hw' => hold.due w' (List.mem_of_mem_eraseIdx hw')⟩
      exact hrest.runWrite (hold.due w (List.mem_of_getElem? hw) _)
    · exact hold

/-- **What any run preserves.** -/
theorem traced (store : MonitoredStore σ) (ttls : Ttls) (choice : CacheChoice) (room : Durable.Room)
    (clock : Time.Clock) (events : List Event) :
    (start store ttls choice room clock).Traced events := by
  induction events using List.reverseRecOn with
  | nil => exact ⟨Backend.within_empty _ choice room, by rintro w ⟨⟩⟩
  | append_singleton events e ih => exact ih.step e

/-! ## Hits -/

/-- The store is not called for what the cache tells, and for nothing else. -/
theorem fromCache_iff : s.FromCache q a ↔
    q.Proper ∧ q.told? (Cache.get q.key s.clock s.service.cache.backend).1 = some a := by
  constructor
  · rintro ⟨service, hask, hcalls⟩
    cases Service.asked_of_ask hask with
    | found hproper htold => exact ⟨hproper, htold⟩
    | fetched htold hcall hstore =>
      obtain ⟨service', hask', hne⟩ := fromStore_of_fetched hcall hstore hask
      rw [hask] at hask'
      cases hask'
      exact absurd hcalls hne
  · rintro ⟨hproper, htold⟩
    exact ⟨_, Service.ask_of_told? hproper htold, rfl⟩

/-- **What the cache answers, the store answered to the same query before.** -/
theorem hit_answers_same_query {store : MonitoredStore σ} {ttls : Ttls} {choice : CacheChoice}
    {room : Durable.Room} {clock : Time.Clock} {events : List Event} {q : Query} {a : q.Answer}
    (h : ((start store ttls choice room clock).run events).FromCache q a) :
    ∃ earlier later, events = earlier ++ .ask q :: later ∧
      ((start store ttls choice room clock).run earlier).FromStore q a := by
  obtain ⟨hproper, htold⟩ := fromCache_iff.mp h
  have htraced := traced store ttls choice room clock events
  obtain ⟨w, hgiven, -⟩ := Query.exists_of_told? htraced.kept hproper htold
  exact hgiven

/-- Likes are counted, and the number is only kept when there is one more. -/
def countedOnce : List Event := [.ask (.count "a"), .decide "b" "a" true, .write 0]

theorem hit_answers_same_query_countedOnce :
    let s : Detached Relation := start (.new Relation.empty) .default .memory (Durable.roomIn 1) (.start 0 0)
    let a : (Query.count "a").Answer := (0 : UInt64)
    (s.run countedOnce).FromCache (.count "a") a ∧
      ∃ earlier later, countedOnce = earlier ++ .ask (.count "a") :: later ∧
        (s.run earlier).FromStore (.count "a") a := by
  intro s a
  have hhit : (s.run countedOnce).FromCache (.count "a") a := by
    refine fromCache_iff.mpr ⟨trivial, Query.told?_eq_some_iff.mpr ⟨"0", ?_, rfl⟩⟩
    decide +kernel
  exact ⟨hhit, hit_answers_same_query hhit⟩

end Detached

end LikedYou.Api
