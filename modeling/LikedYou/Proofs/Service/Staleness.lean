import LikedYou.Proofs.Service.Requests
import LikedYou.Proofs.Service.Sources

/-!
# How old a reply can be

* `Traffic.run` — requests while time goes on, reads and writes of the cache failing at any time
* `Traffic.Current.step` — what one event preserves: what is kept was the answer of the store when it
  was written, and what is to be kept is its answer now
* `Traffic.staleness_lt_ttl` — a reply is that of the store as it is now, or as it was less than the
  length of time ago for which such answers are kept

A write may run long after the query it answers. Then the answer is as old as the query, but no
decision was made meanwhile, so it is still that of the store when it is written.
-/

namespace LikedYou.Api

open Twins (Written)

/-- A service whose pending writes are run before the next request, and its clock. -/
structure Traffic where
  clock : Time.Clock
  service : Service Relation (MonitoredCache Backend)

namespace Traffic

/-! ## Runs -/

/-- Something that happens to a service. -/
inductive Event where
  /-- Time goes on. -/
  | advance (d : Time.Duration)
  /-- From now on some operations of the cache are to fail. -/
  | fail (cache : CacheSwitches)
  /-- The pending writes are run. -/
  | settle
  | request (r : Request)

/-- A service that nobody asked anything yet. Its cache is empty, the store is any. -/
def start (store : Relation) (ttls : Ttls) (choice : CacheChoice) (room : Durable.Room)
    (clock : Time.Clock) : Traffic :=
  ⟨clock, store, MonitoredCache.new (Backend.empty choice room), ttls, []⟩

def settled (s : Traffic) : Traffic := { s with service := s.service.settle s.clock }

/-- What comes of a request. Before it the pending writes are run, unless they were. -/
def answer (s : Traffic) (r : Request) :
    Except Breakdown (Except Error Reply × Service Relation (MonitoredCache Backend)) :=
  s.settled.service.handle r s.clock

/-- What an event does. A breakdown leaves everything as it was. -/
def step (s : Traffic) : Event → Traffic
  | .advance d => { s with clock := s.clock.advance d }
  | .fail cache => { s with service.cache.backend.failing := cache }
  | .settle => s.settled
  | .request r =>
    match s.answer r with
    | .ok (_, service) => { s with service }
    | .error _ => s.settled

/-- What becomes of a service. -/
def run (s : Traffic) (events : List Event) : Traffic := events.foldl step s

/-- Whether a request is answered by a reply. -/
def Replies (s : Traffic) (r : Request) (reply : Reply) : Prop :=
  ∃ service, s.answer r = .ok (.ok reply, service)

theorem run_append_singleton (s : Traffic) (events : List Event) (e : Event) :
    s.run (events ++ [e]) = (s.run events).step e := by
  rw [run, List.foldl_append]
  rfl

theorem clock_step (s : Traffic) (e : Event) : ∃ d, (s.step e).clock = s.clock.advance d := by
  cases e with
  | advance d => exact ⟨d, rfl⟩
  | fail cache => exact ⟨0, (Time.Clock.advance_zero _).symm⟩
  | settle => exact ⟨0, (Time.Clock.advance_zero _).symm⟩
  | request r =>
    refine ⟨0, ?_⟩
    rw [Time.Clock.advance_zero, step]
    split
    · rfl
    · rfl

/-- The clock never goes back. -/
theorem clock_run (s : Traffic) (events : List Event) :
    ∃ d, (s.run events).clock = s.clock.advance d := by
  induction events using List.reverseRecOn with
  | nil => exact ⟨0, (Time.Clock.advance_zero _).symm⟩
  | append_singleton events e ih =>
    obtain ⟨d, hd⟩ := ih
    obtain ⟨d', hd'⟩ := (s.run events).clock_step e
    refine ⟨d + d', ?_⟩
    rw [run_append_singleton, hd', hd, Time.Clock.advance_advance]

/-! ## What is kept -/

variable {s : Traffic} {events : List Event}

/-- Whether the store gave an answer, at the time when it was written, in the course of some events. -/
def Given (s : Traffic) (events : List Event) (q : Query) (a : q.Answer) (w : Written) : Prop :=
  ∃ earlier later, events = earlier ++ later ∧
    q.answerFrom? (s.run earlier).service.store = some a ∧
    w.since = (s.run earlier).clock ∧ w.ttl = s.service.cache.ttls.of q

/-- Whether a pending write is an answer that a store gives. -/
def IsDue (store : Relation) (ttls : Ttls) (w : PendingWrite) : Prop :=
  ∃ (q : Query) (a : q.Answer), q.Proper ∧ q.key = w.key ∧ Json.encodeString a = w.value ∧
    q.answerFrom? store = some a ∧ w.ttl = ttls.of q

/-- Whether after some events all that is kept was the answer of the store when it was written, and
all that is to be kept is its answer now. -/
structure Current (s : Traffic) (events : List Event) : Prop where
  ttls : (s.run events).service.cache.ttls = s.service.cache.ttls
  sourced : (s.run events).service.Sourced (Query.IsAnswer (s.Given events))
    (IsDue (s.run events).service.store s.service.cache.ttls)

namespace Current

theorem kept_append {key : String} {w : Written} (h : Query.IsAnswer (s.Given events) key w)
    (e : Event) : Query.IsAnswer (s.Given (events ++ [e])) key w := by
  refine h.mono fun q a w => ?_
  rintro ⟨earlier, later, rfl, hgiven⟩
  exact ⟨earlier, later ++ [e], by simp, hgiven⟩

/-- The writes that are run keep what is the answer of the store at that time. -/
theorem settled (h : s.Current events) :
    (s.run events).settled.service.Sourced (Query.IsAnswer (s.Given events)) fun _ => False := by
  refine h.sourced.settle fun w hw => ?_
  obtain ⟨q, a, hproper, hkey, hvalue, hstore, httl⟩ := hw
  exact ⟨q, a, hproper, hkey, hvalue, events, [], by simp, hstore, rfl, httl⟩

theorem ttls_settled (h : s.Current events) :
    (s.run events).settled.service.cache.ttls = s.service.cache.ttls :=
  (ReadThrough.ttls_settle _ _).trans h.ttls

/-- What is to be kept after a request is the answer of the store that it leaves. -/
theorem answer {r : Request} {reply : Except Error Reply}
    {service : Service Relation (MonitoredCache Backend)} (h : s.Current events)
    (hanswer : (s.run events).answer r = .ok (reply, service)) :
    service.cache.ttls = s.service.cache.ttls ∧
      service.Sourced (Query.IsAnswer (s.Given events))
        (IsDue service.store s.service.cache.ttls) := by
  have httls := h.ttls_settled
  -- nothing is to be kept before the request, so nothing is left that an older store answered
  have hnone : (s.run events).settled.service.Sourced (Query.IsAnswer (s.Given events))
      (IsDue service.store s.service.cache.ttls) :=
    h.settled.mono (fun _ _ hkept => hkept) fun _ hno => hno.elim
  rcases Service.handle_cases hanswer with ⟨f, -, -, rfl⟩ | ⟨q, a, -, -, hask, -⟩ |
    ⟨p, a, -, -, hdecide, -⟩
  · exact ⟨httls, hnone⟩
  · have hasked := Service.asked_of_ask hask
    constructor
    · cases hasked with
      | refused => exact httls
      | found => exact httls
      | failed => exact httls
      | fetched => exact httls
    · refine hnone.ask hasked fun call a hcall hstore _ => ?_
      obtain ⟨a', hgives, heq⟩ := Query.call_relation hcall (s.run events).settled.service.store
      obtain ⟨ha, hsame⟩ := Prod.mk.inj (hstore.symm.trans heq)
      cases ha
      rw [hsame, httls]
      exact ⟨q, a, (q.proper_iff_call _).mpr ⟨call, hcall⟩, rfl, rfl, hgives, rfl⟩
  · have hcache := Service.cache_of_decide hdecide
    exact ⟨hcache ▸ httls, hcache ▸ hnone.kept, hcache ▸ hnone.due⟩

/-- **What one event preserves.** -/
theorem step (h : s.Current events) (e : Event) : s.Current (events ++ [e]) := by
  have hlonger : ∀ key w, Query.IsAnswer (s.Given events) key w →
      Query.IsAnswer (s.Given (events ++ [e])) key w := fun _ _ hkept => kept_append hkept e
  have hsettled : ∀ due, (s.run events).settled.service.Sourced
      (Query.IsAnswer (s.Given (events ++ [e]))) due :=
    fun _ => h.settled.mono hlonger fun _ hno => hno.elim
  constructor
  · rw [run_append_singleton]
    cases e with
    | advance d => exact h.ttls
    | fail cache => exact h.ttls
    | settle => exact h.ttls_settled
    | request r =>
      simp only [Traffic.step]
      split
      · next reply service hanswer => exact (h.answer hanswer).1
      · exact h.ttls_settled
  · rw [run_append_singleton]
    cases e with
    | advance d => exact h.sourced.mono hlonger fun _ hdue => hdue
    | fail cache => exact ⟨h.sourced.kept.mono hlonger, h.sourced.due⟩
    | settle => exact hsettled _
    | request r =>
      simp only [Traffic.step]
      split
      · next reply service hanswer =>
        exact (h.answer hanswer).2.mono hlonger fun _ hdue => hdue
      · exact hsettled _

end Current

/-- **What any run preserves.** -/
theorem current (store : Relation) (ttls : Ttls) (choice : CacheChoice) (room : Durable.Room)
    (clock : Time.Clock) (events : List Event) :
    (start store ttls choice room clock).Current events := by
  induction events using List.reverseRecOn with
  | nil => exact ⟨rfl, Backend.within_empty _ choice room, by rintro w ⟨⟩⟩
  | append_singleton events e ih => exact ih.step e

/-! ## Replies -/

/-- **A reply is not older than the time for which such answers are kept.** -/
theorem staleness_lt_ttl {store : Relation} {ttls : Ttls} {choice : CacheChoice} {room : Durable.Room}
    {clock : Time.Clock} {events : List Event} {r : Request} {q : Query} {reply : Reply}
    (hq : r.query? = some q)
    (h : ((start store ttls choice room clock).run events).Replies r reply) :
    let s := start store ttls choice room clock
    ∃ earlier later d, events = earlier ++ later ∧
      r.replyFrom? (s.run earlier).service.store = some reply ∧
      (s.run events).clock = (s.run earlier).clock.advance d ∧
      (later = [] ∨ d < ttls.of q) := by
  intro s
  obtain ⟨service, hanswer⟩ := h
  have hcurrent := current store ttls choice room clock events
  rcases Service.handle_cases hanswer with ⟨f, -, hreply, -⟩ | ⟨q', answer, -, hq', hask, hreply⟩ |
    ⟨p, answer, hr, -, -, -⟩
  · cases hreply
  · obtain rfl := Option.some.inj (hq.symm.trans hq')
    cases Service.asked_of_ask hask with
    | refused => cases hreply
    | failed => cases hreply
    | fetched htold hcall hstore =>
      cases hreply
      obtain ⟨a, hgives, heq⟩ := Query.call_relation hcall (s.run events).settled.service.store
      obtain ⟨ha, -⟩ := Prod.mk.inj (hstore.symm.trans heq)
      cases ha
      refine ⟨events, [], 0, by simp, ?_, by simp, Or.inl rfl⟩
      rw [Request.replyFrom?_eq hq]
      exact congrArg (Option.map Query.Answer.reply) hgives
    | found hproper htold =>
      cases hreply
      -- the moment is the one at which the text was written, not the one at which it was fetched
      obtain ⟨w, ⟨earlier, later, hevents, hgives, hsince, httl⟩, hlasts⟩ :=
        Query.exists_of_told? hcurrent.settled.kept hproper htold
      obtain ⟨d, hd⟩ := (s.run earlier).clock_run later
      have hclock : (s.run events).clock = (s.run earlier).clock.advance d := by
        rw [hevents, ← hd, run, run, run, List.foldl_append]
      refine ⟨earlier, later, d, hevents, ?_, hclock, Or.inr ?_⟩
      · rw [Request.replyFrom?_eq hq, hgives]
        rfl
      · rw [show ttls.of q = w.ttl from httl.symm]
        exact hlasts d (hsince ▸ hclock)
  · rw [hr] at hq
    cases hq

/-- Likes are counted, and a second later there is one more. -/
def countedBefore : List Event :=
  [.request (.count ⟨"a"⟩), .advance (.ofSeconds 1), .request (.put ⟨"b", "a", true⟩),
    .advance (.ofSeconds 1)]

theorem staleness_lt_ttl_countedBefore :
    let s := start .empty .default .memory (Durable.roomIn 1) (.start 0 0)
    (s.run countedBefore).Replies (.count ⟨"a"⟩) (.count ⟨0⟩) ∧
      ∃ earlier later d, countedBefore = earlier ++ later ∧
        Request.replyFrom? (s.run earlier).service.store (.count ⟨"a"⟩) = some (.count ⟨0⟩) ∧
        (s.run countedBefore).clock = (s.run earlier).clock.advance d ∧
        (later = [] ∨ d < Ttls.default.of (.count "a")) := by
  intro s
  have hreplies : (s.run countedBefore).Replies (.count ⟨"a"⟩) (.count ⟨0⟩) := by
    refine ⟨_, Service.handle_of_told? (q := .count "a") (a := (0 : UInt64)) rfl rfl ?_⟩
    exact Query.told?_eq_some_iff.mpr ⟨"0", by decide +kernel, rfl⟩
  exact ⟨hreplies, staleness_lt_ttl rfl hreplies⟩

end Traffic

end LikedYou.Api
