import LikedYou.Proofs.Cache.SameReads
import LikedYou.Proofs.Service.Staleness

/-!
# What others ask is not seen

* `Service.SameFor` — two services that a recipient cannot tell apart
* `Service.SameFor.handle` — requests that concern the recipient are answered by both in one way
* `Service.SameFor.handle_other` — what is asked about others is not noticed
* `Traffic.Fills` — whether a write of a run finds a full map
* `Traffic.heard_of_thinned` — whatever reads about others are left out of a run, the replies to
  decisions and to reads about the recipient are the same
* `Traffic.heard_after_calendar` — not so after the end of the calendar

A read about others changes what the cache holds, its counters, when it sweeps or purges next, and
what is to be written. All of this is about other keys, or about entries whose time is over. There are
two ways to notice it all the same: what others wrote can take up the room, and after the end of the
calendar a durable cache breaks down where an entry is left whose time is over.
-/

namespace LikedYou

variable {timely : Time.Clock → Prop} {clock : Time.Clock}

/-! ## Pending writes -/

namespace ReadThrough

variable {keys : String → Prop} {c c' c'' : ReadThrough (MonitoredCache Backend)}

open Classical in
/-- Whether two caches tell the same under some keys, and are about to write the same there. -/
structure SameFor (timely : Time.Clock → Prop) (keys : String → Prop) (clock : Time.Clock)
    (c c' : ReadThrough (MonitoredCache Backend)) : Prop where
  backend : c.backend.SameFor timely keys clock c'.backend
  ttls : c.ttls = c'.ttls
  pending : c.pending.filter (fun w => keys w.key) = c'.pending.filter fun w => keys w.key

/-- Whether a pending write finds a full map. -/
def MeetsFull (clock : Time.Clock) (c : ReadThrough (MonitoredCache Backend)) (w : PendingWrite) :
    Prop := c.backend.inner.MeetsFull w.key w.value w.ttl clock

instance (clock : Time.Clock) (c : ReadThrough (MonitoredCache Backend)) (w : PendingWrite) :
    Decidable (c.MeetsFull clock w) :=
  inferInstanceAs (Decidable (c.backend.inner.MeetsFull w.key w.value w.ttl clock))

/-- Whether one of the pending writes finds a full map when they are run. -/
def Fills (clock : Time.Clock) (c : ReadThrough (MonitoredCache Backend)) : Prop :=
  Sometime (runWrite clock) (MeetsFull clock) { c with pending := [] } c.pending

instance (clock : Time.Clock) (c : ReadThrough (MonitoredCache Backend)) :
    Decidable (c.Fills clock) :=
  inferInstanceAs (Decidable (Sometime (runWrite clock) (MeetsFull clock) _ _))

/-- Writes under other keys are not noticed. -/
theorem sameFor_foldl_other {ws : List PendingWrite}
    (h : c.backend.SameFor timely keys clock c'.backend) (hother : ∀ w ∈ ws, ¬ keys w.key) :
    c.backend.SameFor timely keys clock (ws.foldl (runWrite clock) c').backend := by
  induction ws generalizing c' with
  | nil => exact h
  | cons w ws ih =>
    obtain ⟨hkey, hrest⟩ := List.forall_mem_cons.mp hother
    have hnext : c.backend.SameFor timely keys clock (runWrite clock c' w).backend :=
      h.set_other hkey w.value w.ttl
    exact ih hnext hrest

open Classical in
/-- Of some writes, only those under the keys matter, as long as none of them finds a full map. -/
theorem sameFor_foldl_runWrite {ws ws' : List PendingWrite}
    (hsame : ws.filter (fun w => keys w.key) = ws'.filter fun w => keys w.key)
    (h : c.backend.SameFor timely keys clock c'.backend)
    (hfull : ¬ Sometime (runWrite clock) (MeetsFull clock) c ws)
    (hfull' : ¬ Sometime (runWrite clock) (MeetsFull clock) c' ws') :
    (ws.foldl (runWrite clock) c).backend.SameFor timely keys clock
      (ws'.foldl (runWrite clock) c').backend := by
  induction ws generalizing c c' ws' with
  | nil =>
    refine sameFor_foldl_other h fun w hw => ?_
    simpa using List.filter_eq_nil_iff.mp hsame.symm w hw
  | cons w ws ih =>
    obtain ⟨hw, hrest⟩ := not_or.mp hfull
    by_cases hkey : keys w.key
    · -- the other run has the same write, after writes that are not noticed
      rw [List.filter_cons_of_pos (by simpa using hkey)] at hsame
      obtain ⟨earlier, later, rfl, hother, -, hlater⟩ := List.filter_eq_cons_iff.mp hsame.symm
      rw [sometime_append, not_or] at hfull'
      obtain ⟨hw', hrest'⟩ := not_or.mp hfull'.2
      have hmet := sameFor_foldl_other h fun w hw => by simpa using hother w hw
      have hrun := ih hlater.symm (hmet.set hw hw') hrest hrest'
      rw [List.foldl_append]
      exact hrun
    · rw [List.filter_cons_of_neg (by simpa using hkey)] at hsame
      exact ih hsame (h.symm.set_other hkey w.value w.ttl).symm hrest hfull'

namespace SameFor

theorem symm (h : SameFor timely keys clock c c') : SameFor timely keys clock c' c :=
  ⟨h.backend.symm, h.ttls.symm, h.pending.symm⟩

theorem settle (h : SameFor timely keys clock c c') (hfull : ¬ c.Fills clock)
    (hfull' : ¬ c'.Fills clock) :
    SameFor timely keys clock (c.settle clock) (c'.settle clock) := by
  refine ⟨?_, ?_, ?_⟩
  · exact sameFor_foldl_runWrite h.pending h.backend hfull hfull'
  · rw [ttls_settle, ttls_settle, h.ttls]
  · rw [pending_settle, pending_settle]

theorem probed (h : SameFor timely keys clock c c') (q : Query) :
    SameFor timely keys clock c (c'.probed q clock) :=
  ⟨h.backend.get q.key, h.ttls, h.pending⟩

theorem repopulate (h : SameFor timely keys clock c c') (q : Query) (value : String) :
    SameFor timely keys clock (c.repopulate q value) (c'.repopulate q value) := by
  refine ⟨h.backend, h.ttls, ?_⟩
  simp only [ReadThrough.repopulate, List.filter_append, h.pending, h.ttls]

theorem repopulate_other {q : Query} (h : SameFor timely keys clock c c') (hkey : ¬ keys q.key)
    (value : String) : SameFor timely keys clock c (c'.repopulate q value) := by
  refine ⟨h.backend, h.ttls, ?_⟩
  simp only [ReadThrough.repopulate, List.filter_append, List.filter_cons, hkey, decide_false,
    Bool.false_eq_true, if_false, List.filter_nil, List.append_nil, h.pending]

end SameFor

end ReadThrough

/-- Whether a key is that of a query about a recipient. -/
def Query.IsKeyOf (recipient key : String) : Prop :=
  ∃ q : Query, q.Proper ∧ q.recipient = recipient ∧ q.key = key

theorem Query.not_isKeyOf {q : Query} {recipient : String} (hproper : q.Proper)
    (hrecipient : q.recipient ≠ recipient) : ¬ IsKeyOf recipient q.key := by
  rintro ⟨q', hproper', hrecipient', hkey⟩
  exact hrecipient (key_injective hproper' hproper hkey ▸ hrecipient')

namespace Api

/-! ## Services -/

namespace Service

variable {recipient : String} {q : Query} {s s' t : Service Relation (MonitoredCache Backend)}

/-- Whether a recipient cannot tell two services apart. -/
structure SameFor (timely : Time.Clock → Prop) (recipient : String) (clock : Time.Clock)
    (s s' : Service Relation (MonitoredCache Backend)) : Prop where
  store : s.store = s'.store
  cache : s.cache.SameFor timely (Query.IsKeyOf recipient) clock s'.cache

/-- Whether two services say the same, or break down in the same way, and cannot be told apart by a
recipient afterwards. -/
inductive SaysSame (timely : Time.Clock → Prop) (recipient : String) (clock : Time.Clock) {α : Type} :
    Except Breakdown (α × Service Relation (MonitoredCache Backend)) →
    Except Breakdown (α × Service Relation (MonitoredCache Backend)) → Prop where
  | done (a : α) {t t' : Service Relation (MonitoredCache Backend)}
      (h : t.SameFor timely recipient clock t') :
      SaysSame timely recipient clock (.ok (a, t)) (.ok (a, t'))
  | broken (b : Breakdown) : SaysSame timely recipient clock (.error b) (.error b)

theorem SaysSame.said {α : Type}
    {x x' : Except Breakdown (α × Service Relation (MonitoredCache Backend))}
    (h : SaysSame timely recipient clock x x') : x.map Prod.fst = x'.map Prod.fst := by
  cases h with
  | done a h => rfl
  | broken b => rfl

theorem SaysSame.map {α β : Type}
    {x x' : Except Breakdown (α × Service Relation (MonitoredCache Backend))}
    (h : SaysSame timely recipient clock x x') (f : α → β) :
    SaysSame timely recipient clock (x.map fun (a, t) => (f a, t)) (x'.map fun (a, t) => (f a, t)) := by
  cases h with
  | done a h => exact .done (f a) h
  | broken b => exact .broken b

namespace SameFor

theorem symm (h : s.SameFor timely recipient clock s') : s'.SameFor timely recipient clock s :=
  ⟨h.store.symm, h.cache.symm⟩

/-- A query about the recipient is answered in one way. -/
theorem ask (h : s.SameFor timely recipient clock s') (hclock : timely clock) (hproper : q.Proper)
    (hrecipient : q.recipient = recipient) :
    SaysSame timely recipient clock (s.ask q clock) (s'.ask q clock) := by
  obtain ⟨call, hcall⟩ := (q.proper_iff_call Relation).mp hproper
  obtain ⟨a, -, hstore⟩ := Query.call_relation hcall s'.store
  have hget := h.cache.backend.fst_get ⟨q, hproper, hrecipient, rfl⟩ hclock
  have hprobed : (s.cache.probed q clock).SameFor timely (Query.IsKeyOf recipient) clock
      (s'.cache.probed q clock) := ((h.cache.probed q).symm.probed q).symm
  rw [ask_eq, ask_eq, hcall]
  by_cases hbroken : ∃ b, (Cache.get q.key clock s'.cache.backend).1 = .error (.breakdown b)
  · obtain ⟨b, hb⟩ := hbroken
    simp only [ReadThrough.lookup_eq, hget, hb]
    exact .broken b
  · have hread := not_exists.mp hbroken
    rw [ReadThrough.lookup_eq_ok hread, ReadThrough.lookup_eq_ok (hget ▸ hread), hget, h.store]
    cases q.told? (Cache.get q.key clock s'.cache.backend).1 with
    | some a => exact .done _ ⟨rfl, hprobed⟩
    | none =>
      simp only [hstore]
      exact .done _ ⟨rfl, hprobed.repopulate q _⟩

/-- What is asked about others is not noticed. -/
theorem ask_other {answer : Except Fault q.Answer} (h : s.SameFor timely recipient clock s')
    (hrecipient : q.recipient ≠ recipient) (hask : s'.ask q clock = .ok (answer, t)) :
    s.SameFor timely recipient clock t := by
  have hprobed := h.cache.probed q
  cases asked_of_ask hask with
  | refused => exact h
  | found => exact ⟨h.store, hprobed⟩
  | failed htold hcall hstore =>
    obtain ⟨a, -, heq⟩ := Query.call_relation hcall s'.store
    cases hstore.symm.trans heq
  | fetched htold hcall hstore =>
    obtain ⟨a, -, heq⟩ := Query.call_relation hcall s'.store
    cases hstore.symm.trans heq
    have hproper := (q.proper_iff_call _).mpr ⟨_, hcall⟩
    exact ⟨h.store, hprobed.repopulate_other (Query.not_isKeyOf hproper hrecipient) _⟩

/-- A decision does not depend on what is cached. -/
theorem decide (h : s.SameFor timely recipient clock s') (actor about : String) (liked : Bool) :
    SaysSame timely recipient clock (s.decide actor about liked clock)
      (s'.decide actor about liked clock) := by
  unfold Service.decide
  rw [h.store]
  split
  · exact .broken _
  · exact .done _ ⟨rfl, h.cache⟩
  · split
    · exact .done _ ⟨rfl, h.cache⟩
    · split
      · exact .done _ ⟨rfl, h.cache⟩
      · exact .done _ ⟨rfl, h.cache⟩

theorem settle (h : s.SameFor timely recipient clock s') (hfull : ¬ s.cache.Fills clock)
    (hfull' : ¬ s'.cache.Fills clock) :
    (s.settle clock).SameFor timely recipient clock (s'.settle clock) :=
  ⟨h.store, h.cache.settle hfull hfull'⟩

end SameFor

end Service

/-! ## Requests -/

/-- Whether a request is a decision, or a read about a recipient. -/
def Request.concerns (recipient : String) (r : Request) : Bool :=
  r.query?.all (·.recipient = recipient)

namespace Service.SameFor

variable {recipient : String} {r : Request} {s s' t : Service Relation (MonitoredCache Backend)}

/-- **What concerns the recipient is answered in one way.** -/
theorem handle (h : s.SameFor timely recipient clock s') (hclock : timely clock)
    (hr : r.concerns recipient = true) :
    SaysSame timely recipient clock (s.handle r clock) (s'.handle r clock) := by
  rcases hcheck : r.check with f | _
  · rw [handle_of_check hcheck, handle_of_check hcheck]
    exact .done _ h
  · cases hq : r.query? with
    | some q =>
      have hrecipient : q.recipient = recipient := by
        rw [Request.concerns, hq] at hr
        simpa using hr
      rw [handle_query hcheck hq, handle_query hcheck hq]
      exact (h.ask hclock (Request.proper_of_check hcheck hq) hrecipient).map
        fun answer => (answer.map Query.Answer.reply).mapError (Error.ofFault r.failure)
    | none =>
      cases r with
      | list listing r => cases hq
      | count r => cases hq
      | put p =>
        rw [handle_put hcheck, handle_put hcheck]
        exact (h.decide p.actor p.recipient p.liked).map fun answer =>
          (answer.map fun areMutual => Reply.put ⟨areMutual⟩).mapError (Error.ofFault putFailure)

/-- **What is asked about others is not noticed.** -/
theorem handle_other {reply : Except Error Reply} (h : s.SameFor timely recipient clock s')
    (hr : r.concerns recipient = false) (hhandle : s'.handle r clock = .ok (reply, t)) :
    s.SameFor timely recipient clock t := by
  rcases handle_cases hhandle with ⟨f, -, -, rfl⟩ | ⟨q, answer, -, hq, hask, -⟩ |
    ⟨p, answer, rfl, -, -, -⟩
  · exact h
  · refine h.ask_other (fun hrecipient => ?_) hask
    rw [Request.concerns, hq] at hr
    simp [hrecipient] at hr
  · cases hr

end Service.SameFor

/-! ## Runs -/

namespace Traffic

variable {recipient : String} {s s' : Traffic} {events left : List Event}

/-- What is said to a request, unless it breaks down. -/
def reply (s : Traffic) (r : Request) : Except Breakdown (Except Error Reply) :=
  (s.answer r).map Prod.fst

/-- What is said to an event if it is a decision, or a read about a recipient. -/
def heard? (recipient : String) (s : Traffic) : Event → Option (Except Breakdown (Except Error Reply))
  | .request r => if r.concerns recipient then some (s.reply r) else none
  | _ => none

/-- What is said to decisions and to reads about a recipient, one after the other. -/
def heard (recipient : String) (s : Traffic) :
    List Event → List (Except Breakdown (Except Error Reply))
  | [] => []
  | e :: events => (s.heard? recipient e).toList ++ (s.step e).heard recipient events

/-- Whether some events are what is left when some reads about others are left out. -/
inductive Thinned (recipient : String) : List Event → List Event → Prop where
  | nil : Thinned recipient [] []
  | keep {events left : List Event} (e : Event) (h : Thinned recipient events left) :
      Thinned recipient (e :: events) (e :: left)
  | drop {events left : List Event} {r : Request} (hr : r.concerns recipient = false)
      (h : Thinned recipient events left) : Thinned recipient (.request r :: events) left

/-- Whether pending writes are run before the next request. -/
def settlesFirst : List Event → Bool
  | [] => true
  | .settle :: _ => true
  | .request _ :: _ => false
  | _ :: events => settlesFirst events

/-- Whether the writes that a request leaves pending are always run before the next request. -/
def finished : List Event → Bool
  | [] => true
  | .request _ :: events => settlesFirst events && finished events
  | _ :: events => finished events

/-- Whether a pending write that is run in an event finds a full map. -/
def MeetsFull (s : Traffic) : Event → Prop
  | .settle | .request _ => s.service.cache.Fills s.clock
  | .advance _ | .fail _ => False

instance (s : Traffic) (e : Event) : Decidable (s.MeetsFull e) :=
  match e with
  | .settle | .request _ => inferInstanceAs (Decidable (s.service.cache.Fills s.clock))
  | .advance _ | .fail _ => inferInstanceAs (Decidable False)

/-- Whether a write of a run finds a full map. -/
def Fills (s : Traffic) (events : List Event) : Prop := Sometime step MeetsFull s events

instance (s : Traffic) (events : List Event) : Decidable (s.Fills events) :=
  inferInstanceAs (Decidable (Sometime step MeetsFull s events))

/-- Whether a recipient cannot tell two services apart by their replies. -/
structure SameFor (timely : Time.Clock → Prop) (recipient : String) (s s' : Traffic) : Prop where
  clock : s.clock = s'.clock
  service : s.service.SameFor timely recipient s.clock s'.service

namespace SameFor

theorem symm (h : s.SameFor timely recipient s') : s'.SameFor timely recipient s :=
  ⟨h.clock.symm, h.clock ▸ h.service.symm⟩

theorem settled (h : s.SameFor timely recipient s') (hfull : ¬ s.service.cache.Fills s.clock)
    (hfull' : ¬ s'.service.cache.Fills s'.clock) :
    s.settled.SameFor timely recipient s'.settled := by
  refine ⟨h.clock, ?_⟩
  have hservice := h.service.settle hfull (h.clock ▸ hfull')
  rw [Traffic.settled, Traffic.settled, ← h.clock]
  exact hservice

theorem answer {r : Request} (h : s.settled.SameFor timely recipient s'.settled)
    (hclock : timely s.clock) (hr : r.concerns recipient = true) :
    Service.SaysSame timely recipient s.clock (s.answer r) (s'.answer r) := by
  have hhandle := h.service.handle hclock hr
  have hsame : s.clock = s'.clock := h.clock
  rw [Traffic.answer, Traffic.answer, ← hsame]
  exact hhandle

/-- A request about others is not noticed once the writes before it were run. -/
theorem step_other {r : Request} (h : s.SameFor timely recipient s'.settled)
    (hr : r.concerns recipient = false) : s.SameFor timely recipient (s'.step (.request r)) := by
  rw [Traffic.step]
  split
  · next reply service hanswer =>
    have hhandle : s'.settled.service.handle r s.clock = .ok (reply, service) := by
      rw [h.clock]
      exact hanswer
    exact ⟨h.clock, h.service.handle_other hr hhandle⟩
  · exact h

/-- **What one event preserves**, unless one of the two services finds a full map. -/
theorem step (h : s.SameFor timely recipient s') (e : Event) (hclock : timely s.clock)
    (hfull : ¬ s.MeetsFull e) (hfull' : ¬ s'.MeetsFull e) :
    (s.step e).SameFor timely recipient (s'.step e) := by
  cases e with
  | advance d =>
    refine ⟨congrArg (·.advance d) h.clock, h.service.store, ?_⟩
    exact ⟨⟨h.service.cache.backend.failing, h.service.cache.backend.inner.advance d⟩,
      h.service.cache.ttls, h.service.cache.pending⟩
  | fail cache =>
    exact ⟨h.clock, h.service.store, ⟨rfl, h.service.cache.backend.inner⟩, h.service.cache.ttls,
      h.service.cache.pending⟩
  | settle => exact h.settled hfull hfull'
  | request r =>
    have hsettled := h.settled hfull hfull'
    cases hr : r.concerns recipient with
    | true =>
      have hanswer := hsettled.answer hclock hr
      rw [Traffic.step, Traffic.step]
      generalize s.answer r = x at hanswer
      generalize s'.answer r = x' at hanswer
      cases hanswer with
      | done a ht => exact ⟨h.clock, ht⟩
      | broken b => exact hsettled
    | false =>
      have hleft := hsettled.symm.step_other hr
      exact hleft.symm.step_other hr

end SameFor

/-! ## What is left out -/

theorem settled_of_pending (h : s.service.cache.pending = []) : s.settled = s := by
  obtain ⟨clock, store, backend, ttls, pending⟩ := s
  cases h
  rfl

/-- Whether the pending writes are run before the next request, if there are any. -/
def Idle (s : Traffic) (events : List Event) : Prop :=
  s.service.cache.pending = [] ∨ settlesFirst events = true

theorem Idle.step {e : Event} (h : s.Idle (e :: events)) (hfinished : finished (e :: events) = true) :
    (s.step e).Idle events := by
  cases e with
  | advance d => exact h
  | fail cache => exact h
  | settle => exact Or.inl (ReadThrough.pending_settle s.clock s.service.cache)
  | request r =>
    rw [finished, Bool.and_eq_true] at hfinished
    exact Or.inr hfinished.1

theorem finished_of_cons {e : Event} (h : finished (e :: events) = true) :
    finished events = true := by
  cases e with
  | request r =>
    rw [finished, Bool.and_eq_true] at h
    exact h.2
  | _ => exact h

theorem run_cons (s : Traffic) (e : Event) (events : List Event) :
    s.run (e :: events) = (s.step e).run events := rfl

/-- **What a whole run preserves.** The two services are in the same place of the run, one of them
without the reads that are left out. -/
theorem SameFor.heard (hearlier : ∀ clock d, timely (clock.advance d) → timely clock)
    (hthinned : Thinned recipient events left) (h : s.SameFor timely recipient s')
    (hidle : s.Idle events) (hfinished : finished events = true)
    (hend : timely (s.run events).clock) (hfull : ¬ s.Fills events) (hfull' : ¬ s'.Fills left) :
    s.heard recipient events = s'.heard recipient left := by
  induction hthinned generalizing s s' with
  | nil => rfl
  | @keep events left e hthinned ih =>
    have hnow : timely s.clock := by
      obtain ⟨d, hd⟩ := s.clock_run (e :: events)
      exact hearlier s.clock d (hd ▸ hend)
    obtain ⟨hmeets, hrest⟩ := not_or.mp hfull
    obtain ⟨hmeets', hrest'⟩ := not_or.mp hfull'
    have hheard : s.heard? recipient e = s'.heard? recipient e := by
      cases e with
      | request r =>
        rw [heard?, heard?]
        split
        · next hr => exact congrArg some ((h.settled hmeets hmeets').answer hnow hr).said
        · rfl
      | _ => rfl
    rw [Traffic.heard, Traffic.heard, hheard, ih (h.step e hnow hmeets hmeets')
      (hidle.step hfinished) (finished_of_cons hfinished) (s.run_cons e events ▸ hend) hrest hrest']
  | @drop events left r hr hthinned ih =>
    -- nothing is pending at a request, so the writes that it would run are none
    have hpending : s.service.cache.pending = [] := hidle.resolve_right Bool.false_ne_true
    have hsettled := settled_of_pending hpending
    have hother : s'.SameFor timely recipient (s.step (.request r)) :=
      step_other (hsettled.symm ▸ h.symm) hr
    have hnone : s.heard? recipient (.request r) = none := by
      rw [heard?, hr]
      rfl
    rw [Traffic.heard, hnone, ih hother.symm (hidle.step hfinished) (finished_of_cons hfinished)
      (s.run_cons _ events ▸ hend) (not_or.mp hfull).2 hfull']
    rfl

end Traffic

end Api

end LikedYou
