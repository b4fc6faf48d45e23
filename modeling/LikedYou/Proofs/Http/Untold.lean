import LikedYou.Cache.Volatile
import LikedYou.Http.Server
import LikedYou.Proofs.Cache.Unreliable
import LikedYou.Proofs.Store.Postgres

/-!
# What is never told

* `Server.handle_same` — two servers that look the same give the same response to a request, unless it
  asks how the service is
* `Running.run_same` — and they look the same after any run

A server looks as its store and its cache look, with the writes that are pending and the time.
-/

namespace LikedYou.Http

/-! ## One request -/

/-- The route that a request takes, if there is one. -/
def Request.route? (r : Request) : Option Route := (Target.path? r.target).bind Route.ofPath?

namespace Server

variable {σ σ' τ κ κ' γ : Type} {view : σ → τ} {view' : σ' → τ} {contents : κ → γ}
  {contents' : κ' → γ} {s : Server σ κ} {s' : Server σ' κ'}

/-- What a server looks like. -/
def map (view : σ → τ) (contents : κ → γ) (s : Server σ κ) : Server τ γ :=
  ⟨s.service.map view contents, s.started⟩

theorem map_eq_iff : s.map view contents = s'.map view' contents' ↔
    s.service.map view contents = s'.service.map view' contents' ∧ s.started = s'.started := by
  simp [map]

theorem operation_same {α β : Type} [Json.Document α] [Json.Document β]
    {handle : α → Api.Service σ κ → Except Breakdown (Except Api.Error β × Api.Service σ κ)}
    {handle' : α → Api.Service σ' κ' → Except Breakdown (Except Api.Error β × Api.Service σ' κ')}
    (h : s.map view contents = s'.map view' contents')
    (hhandle : ∀ a, SameReply (Api.Service.map view contents) (Api.Service.map view' contents')
      (handle a s.service) (handle' a s'.service)) (r : Request) :
    SameReply (map view contents) (map view' contents') (s.operation r handle)
      (s'.operation r handle') := by
  unfold operation
  cases readBody α r with
  | error message => exact .replied _ h
  | ok a =>
    have hreply := hhandle a
    simp only
    generalize handle a s.service = x at hreply ⊢
    generalize handle' a s'.service = x' at hreply ⊢
    cases hreply with
    | broken b => exact .broken b
    | replied answer hafter =>
      exact .replied _ (map_eq_iff.mpr ⟨hafter, (map_eq_iff.mp h).2⟩)

variable [DecisionStore σ] [DecisionStore σ'] [Cache κ] [Cache κ']

theorem answer_same (hstores : StoresAlike view view') (hcaches : CachesAlike contents contents')
    (h : s.map view contents = s'.map view' contents') {route : Route} (hroute : route ≠ .ready)
    (r : Request) (clock : Time.Clock) :
    SameReply (map view contents) (map view' contents') (s.answer route r clock)
      (s'.answer route r clock) := by
  obtain ⟨hservice, -⟩ := map_eq_iff.mp h
  cases route with
  | list listing =>
    exact operation_same h
      (fun a => Api.Service.handleList_same hstores hcaches hservice listing a clock) r
  | count =>
    exact operation_same h (fun a => Api.Service.handleCount_same hstores hcaches hservice a clock) r
  | put => exact operation_same h (fun a => Api.Service.handlePut_same hstores hservice a clock) r
  | alive => exact .replied _ h
  | ready => exact absurd rfl hroute

/-- **Two servers that look the same give the same response**, and look the same afterwards. -/
theorem handle_same (hstores : StoresAlike view view') (hcaches : CachesAlike contents contents')
    (h : s.map view contents = s'.map view' contents') {r : Request}
    (hroute : r.route? ≠ some .ready) (clock : Time.Clock) :
    SameReply (map view contents) (map view' contents') (s.handle r clock)
      (s'.handle r clock) := by
  rw [Request.route?] at hroute
  unfold handle
  split
  · exact .replied _ h
  · next route heq =>
    split
    · exact .replied _ h
    · have hne : route ≠ .ready := fun hready => hroute (by rw [heq, hready])
      have hanswer := answer_same hstores hcaches h hne r clock
      generalize s.answer route r clock = x at hanswer ⊢
      generalize s'.answer route r clock = x' at hanswer ⊢
      cases hanswer with
      | broken b => exact .broken b
      | replied response hafter => exact .replied _ hafter

end Server

/-! ## Runs -/

/-- A server and its clock. -/
structure Running (σ κ : Type) where
  server : Server σ κ
  clock : Time.Clock

namespace Running

/-- Something that happens to a server. -/
inductive Event where
  /-- Time goes on. -/
  | advance (d : Time.Duration)
  | request (r : Request)
  /-- A pending write is run: the one at this place among them, if there is one. -/
  | write (place : Nat)

/-- Whether an event does not ask how the service is. -/
def Event.Explores : Event → Prop
  | request r => r.route? ≠ some .ready
  | _ => True

section

variable {σ κ : Type} [DecisionStore σ] [Cache κ]

/-- What an event does, and the response if it is a request. A breakdown leaves everything as it
was. -/
def step (s : Running σ κ) : Event → Option (Except Breakdown Response) × Running σ κ
  | .advance d => (none, { s with clock := s.clock.advance d })
  | .request r =>
    match s.server.handle r s.clock with
    | .error b => (some (.error b), s)
    | .ok (response, server) => (some (.ok response), { s with server })
  | .write place =>
    match s.server.service.cache.pending[place]? with
    | none => (none, s)
    | some w =>
      let cache := s.server.service.cache
      let rest := { cache with pending := cache.pending.eraseIdx place }
      (none, { s with server.service.cache := rest.runWrite s.clock w })

/-- The responses to some events, and what becomes of a server. -/
def run (s : Running σ κ) : List Event → List (Except Breakdown Response) × Running σ κ
  | [] => ([], s)
  | e :: events =>
    let (response, s) := s.step e
    let (responses, s) := run s events
    (response.toList ++ responses, s)

end

variable {σ σ' τ κ κ' γ : Type} {view : σ → τ} {view' : σ' → τ} {contents : κ → γ}
  {contents' : κ' → γ} {s : Running σ κ} {s' : Running σ' κ'}

/-- What a server and its clock look like. -/
def map (view : σ → τ) (contents : κ → γ) (s : Running σ κ) : Running τ γ :=
  ⟨s.server.map view contents, s.clock⟩

theorem map_eq_iff : s.map view contents = s'.map view' contents' ↔
    s.server.map view contents = s'.server.map view' contents' ∧ s.clock = s'.clock := by
  simp [map]

variable [DecisionStore σ] [DecisionStore σ'] [Cache κ] [Cache κ']

/-- **What one event shows.** -/
theorem step_same (hstores : StoresAlike view view') (hcaches : CachesAlike contents contents')
    (h : s.map view contents = s'.map view' contents') {e : Event} (he : e.Explores) :
    (s.step e).1 = (s'.step e).1 ∧
      (s.step e).2.map view contents = (s'.step e).2.map view' contents' := by
  obtain ⟨server, clock⟩ := s
  obtain ⟨server', clock'⟩ := s'
  obtain ⟨hserver, hclock⟩ := map_eq_iff.mp h
  cases hclock
  cases e with
  | advance d => exact ⟨rfl, map_eq_iff.mpr ⟨hserver, rfl⟩⟩
  | request r =>
    have hreply := Server.handle_same hstores hcaches hserver he clock
    simp only [step]
    generalize server.handle r clock = x at hreply ⊢
    generalize server'.handle r clock = x' at hreply ⊢
    cases hreply with
    | broken b => exact ⟨rfl, h⟩
    | replied response hafter => exact ⟨rfl, map_eq_iff.mpr ⟨hafter, rfl⟩⟩
  | write place =>
    obtain ⟨hservice, hstarted⟩ := Server.map_eq_iff.mp hserver
    obtain ⟨hstore, hcache⟩ := Api.Service.map_eq_iff.mp hservice
    obtain ⟨hbackend, httls, hpending⟩ := ReadThrough.map_eq_iff.mp hcache
    have hplace : server'.service.cache.pending[place]? = server.service.cache.pending[place]? := by
      rw [hpending]
    simp only [step]
    rw [hplace]
    cases server.service.cache.pending[place]? with
    | none => exact ⟨rfl, h⟩
    | some w =>
      refine ⟨rfl, map_eq_iff.mpr ⟨Server.map_eq_iff.mpr ⟨?_, hstarted⟩, rfl⟩⟩
      refine Api.Service.map_eq_iff.mpr ⟨hstore, ?_⟩
      have hpending' := congrArg (·.eraseIdx place) hpending
      refine ReadThrough.runWrite_alike hcaches ?_ clock w
      exact ReadThrough.map_eq_iff.mpr ⟨hbackend, httls, hpending'⟩

/-- **What a run shows.** -/
theorem run_same (hstores : StoresAlike view view') (hcaches : CachesAlike contents contents')
    (h : s.map view contents = s'.map view' contents') {events : List Event}
    (hevents : ∀ e ∈ events, e.Explores) :
    (s.run events).1 = (s'.run events).1 ∧
      (s.run events).2.map view contents = (s'.run events).2.map view' contents' := by
  induction events generalizing s s' with
  | nil => exact ⟨rfl, h⟩
  | cons e events ih =>
    obtain ⟨hresponse, hafter⟩ := step_same hstores hcaches h (hevents e List.mem_cons_self)
    obtain ⟨hresponses, hend⟩ := ih hafter fun e' he' => hevents e' (List.mem_cons_of_mem e he')
    refine ⟨?_, hend⟩
    show (s.step e).1.toList ++ ((s.step e).2.run events).1 =
      (s'.step e).1.toList ++ ((s'.step e).2.run events).1
    rw [hresponse, hresponses]

/-- **What is said about a fault of the storage is never told.** Take two servers whose stores and
caches succeed and fail at the same calls with the same results, while they say anything about their
faults. They give the same responses, and keep the same in their caches. Stores in databases are such
stores if their databases answer alike, and their own faults have two wordings. -/
theorem faults_untold (hstores : StoresAlike view view') (hcaches : CachesAlike contents contents')
    (h : s.map view contents = s'.map view' contents') {events : List Event}
    (hevents : ∀ e ∈ events, e.Explores) :
    ((s.run events).1 = (s'.run events).1 ∧
      contents (s.run events).2.server.service.cache.backend =
        contents' (s'.run events).2.server.service.cache.backend ∧
      (s.run events).2.server.service.cache.pending =
        (s'.run events).2.server.service.cache.pending) ∧
    (∀ {δ δ' ε : Type} [Sql.Database δ] [Sql.Database δ'] {look : δ → ε} {look' : δ' → ε},
      DatabasesAlike look look' → StoresAlike (Postgres.map look) (Postgres.map look')) ∧
    ∀ (δ : Type) [Sql.Database δ], FaultsIn Postgres.IsFixed (Postgres δ) := by
  obtain ⟨hresponses, hend⟩ := run_same hstores hcaches h hevents
  obtain ⟨hserver, -⟩ := map_eq_iff.mp hend
  obtain ⟨hservice, -⟩ := Server.map_eq_iff.mp hserver
  obtain ⟨-, hcache⟩ := Api.Service.map_eq_iff.mp hservice
  obtain ⟨hbackend, -, hpending⟩ := ReadThrough.map_eq_iff.mp hcache
  exact ⟨⟨hresponses, hbackend, hpending⟩, fun hdatabases => Postgres.storesAlike hdatabases,
    fun δ _ => Postgres.faultsIn_isFixed δ⟩

/-- A request that posts a message. -/
def posting {α : Type} [Json.Document α] (path : String) (a : α) : Request :=
  ⟨"POST", path, some "application/json", Utf8.ofString (Json.encodeString a)⟩

theorem explores_posting {α : Type} [Json.Document α] {path : String} (a : α)
    (h : (Target.path? path).bind Route.ofPath? ≠ some .ready) :
    (Event.request (posting path a)).Explores := h

/-- A number is asked for, a like is recorded, and a list is fetched and kept. -/
def asked : List Event :=
  [.request (posting "/explore/v1/count-liked-you" (Api.CountRequest.mk "b")),
    .request (posting "/explore/v1/put-decision" (Api.PutRequest.mk "a" "b" true)),
    .request (posting "/explore/v1/list-liked-you" (Api.ListRequest.mk "b" none)), .write 0]

/-- A server whose database refuses the first connection, records a decision, gives an answer that
cannot be read, and lists a like. Both reads of its cache fail. -/
def failing (refusal : Sql.Error) (unreadable : Sql.Table) (first second : StorageFault) :
    Running (Postgres Sql.Tape) (Unreliable Volatile) where
  server.service.store.database.connections := [.error refusal, .ok ()]
  server.service.store.database.outcomes :=
    [.answered .empty, .answered unreadable,
      .answered ⟨[.text, .int8], [[.text (Utf8.ofString "a"), .int 7]]⟩]
  server.service.store.pool := .idle
  server.service.cache.backend := ⟨.empty, [some first, some second]⟩
  server.service.cache.ttls := .default
  server.service.cache.pending := []
  server.started := 0
  clock := .start 0 0

/-- A server that says much. -/
def verbose : Running (Postgres Sql.Tape) (Unreliable Volatile) :=
  failing ⟨some "28P01", "password authentication failed for user liked_you"⟩
    ⟨[.int4], [[.int 1]]⟩ (.unavailable "no route to host") (.serialization "disk full at /var")

/-- A server that says little. -/
def terse : Running (Postgres Sql.Tape) (Unreliable Volatile) :=
  failing ⟨none, ""⟩ ⟨[], [[.null], [.null]]⟩ (.query "") (.unavailable "")

theorem faults_untold_verbose :
    StoresAlike (Postgres.map Sql.Tape.seen) (Postgres.map Sql.Tape.seen) ∧
    CachesAlike (Unreliable.contents : Unreliable Volatile → _) Unreliable.contents ∧
    verbose.map (Postgres.map Sql.Tape.seen) Unreliable.contents =
      terse.map (Postgres.map Sql.Tape.seen) Unreliable.contents ∧
    (∀ e ∈ asked, e.Explores) ∧ (verbose.run asked).1 = (terse.run asked).1 ∧
    (verbose.run asked).2.server.service.cache.backend.inner =
      (terse.run asked).2.server.service.cache.backend.inner := by
  have hstores : StoresAlike (Postgres.map Sql.Tape.seen) (Postgres.map Sql.Tape.seen) :=
    Postgres.storesAlike Sql.Tape.databasesAlike
  have hcaches := Unreliable.cachesAlike Volatile
  have hsame : verbose.map (Postgres.map Sql.Tape.seen) Unreliable.contents =
      terse.map (Postgres.map Sql.Tape.seen) Unreliable.contents := rfl
  have hasked : ∀ e ∈ asked, e.Explores := by
    simp only [asked, List.forall_mem_cons, List.not_mem_nil, false_implies, implies_true, and_true]
    exact ⟨explores_posting _ (by decide +kernel), explores_posting _ (by decide +kernel),
      explores_posting _ (by decide +kernel), trivial⟩
  obtain ⟨⟨hresponses, hcontents, -⟩, -, -⟩ := faults_untold hstores hcaches hsame hasked
  exact ⟨hstores, hcaches, hsame, hasked, hresponses, congrArg Prod.fst hcontents⟩

end Running

end LikedYou.Http
