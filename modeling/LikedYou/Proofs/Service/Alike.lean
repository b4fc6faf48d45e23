import LikedYou.Api.Handler
import LikedYou.Proofs.Service.Questions

/-!
# Faults that differ in words

* `StoresAlike`, `CachesAlike` — where two stores or two caches look the same, they succeed and fail at
  the same calls with the same results, and what is said about a fault is left open
* `Service.ask_alike`, `Service.decide_alike` — then two services answer alike, and look the same
  afterwards
* `Error.ofFault_alike` — and the caller is told the same
* `Service.handleList_same`, `Service.handleCount_same`, `Service.handlePut_same` — so requests get the
  same replies

What a store or a cache looks like is any function of its state. It may leave out what only decides
about the words, and has to tell everything that decides about the answers. So two runs that differ in
the words of faults are always runs of stores that are alike: take the answers of each run as given in
advance, as in `Sql.Tape`, and let a store look like the answers that are left, without the words.
-/

namespace LikedYou

/-! ## Outcomes -/

section

variable {ε α σ σ' τ : Type}

/-- Whether two calls came to the same: both to one result, or both to a fault, of which only `same`
is known. What they left has to look the same. -/
inductive Alike (same : ε → ε → Prop) (view : σ → τ) (view' : σ' → τ) :
    Except ε α × σ → Except ε α × σ' → Prop where
  | result (a : α) {s : σ} {s' : σ'} (h : view s = view' s') :
      Alike same view view' (.ok a, s) (.ok a, s')
  | fault {e e' : ε} {s : σ} {s' : σ'} (he : same e e') (h : view s = view' s') :
      Alike same view view' (.error e, s) (.error e', s')

/-- Whether two calls broke down in the same way, or came to the same. -/
inductive AlikeIfAny (same : ε → ε → Prop) (view : σ → τ) (view' : σ' → τ) :
    Except Breakdown (Except ε α × σ) → Except Breakdown (Except ε α × σ') → Prop where
  | broken (b : Breakdown) : AlikeIfAny same view view' (.error b) (.error b)
  | answered {x : Except ε α × σ} {x' : Except ε α × σ'} (h : Alike same view view' x x') :
      AlikeIfAny same view view' (.ok x) (.ok x')

end

/-- Whether two requests broke down in the same way, or got the same reply and left what looks the
same. -/
inductive SameReply {ρ σ σ' τ : Type} (view : σ → τ) (view' : σ' → τ) :
    Except Breakdown (ρ × σ) → Except Breakdown (ρ × σ') → Prop where
  | broken (b : Breakdown) : SameReply view view' (.error b) (.error b)
  | replied (r : ρ) {s : σ} {s' : σ'} (h : view s = view' s') :
      SameReply view view' (.ok (r, s)) (.ok (r, s'))

/-- Storage faults may differ in everything. -/
def StorageFault.Any (_ _ : StorageFault) : Prop := True

/-- Storage faults may differ in everything, breakdowns may not differ. -/
inductive OperationFault.Alike : OperationFault → OperationFault → Prop where
  | storage (f f' : StorageFault) : Alike (.storage f) (.storage f')
  | breakdown (b : Breakdown) : Alike (.breakdown b) (.breakdown b)

/-- Faults may differ in the storage fault that is behind them. -/
inductive Fault.Alike : Fault → Fault → Prop where
  | refl (f : Fault) : Alike f f
  | storage (f f' : StorageFault) : Alike (.storage f) (.storage f')
  | mutualCheck (f f' : StorageFault) : Alike (.mutualCheck f) (.mutualCheck f')

/-! ## Stores and caches -/

/-- Whether two stores that look the same succeed and fail at the same calls with the same results,
and look the same afterwards. -/
structure StoresAlike {σ σ' τ : Type} [DecisionStore σ] [DecisionStore σ'] (view : σ → τ)
    (view' : σ' → τ) : Prop where
  likers {s : σ} {s' : σ'} (h : view s = view' s') (listing : Listing) (recipient : String)
    (bounds : PageBounds) : Alike StorageFault.Any view view'
      (DecisionStore.likers listing recipient bounds s)
      (DecisionStore.likers listing recipient bounds s')
  count {s : σ} {s' : σ'} (h : view s = view' s') (recipient : String) :
    Alike StorageFault.Any view view' (DecisionStore.count recipient s)
      (DecisionStore.count recipient s')
  record {s : σ} {s' : σ'} (h : view s = view' s') (actor recipient : String) (liked : Bool)
    (clock : Time.Clock) : Alike OperationFault.Alike view view'
      (DecisionStore.record actor recipient liked clock s)
      (DecisionStore.record actor recipient liked clock s')
  areMutual {s : σ} {s' : σ'} (h : view s = view' s') (actor recipient : String) :
    Alike StorageFault.Any view view' (DecisionStore.areMutual actor recipient s)
      (DecisionStore.areMutual actor recipient s')

/-- Whether two caches that look the same succeed and fail at the same reads and writes with the same
results, and look the same afterwards. -/
structure CachesAlike {κ κ' γ : Type} [Cache κ] [Cache κ'] (view : κ → γ) (view' : κ' → γ) :
    Prop where
  get {c : κ} {c' : κ'} (h : view c = view' c') (key : String) (clock : Time.Clock) :
    Alike OperationFault.Alike view view' (Cache.get key clock c) (Cache.get key clock c')
  set {c : κ} {c' : κ'} (h : view c = view' c') (key value : String) (ttl : Time.Duration)
    (clock : Time.Clock) : Alike OperationFault.Alike view view' (Cache.set key value ttl clock c)
      (Cache.set key value ttl clock c')

/-! ## Look-ups -/

section

variable {κ κ' γ : Type} {view : κ → γ} {view' : κ' → γ}

namespace ReadThrough

/-- What a cache with its pending writes looks like. -/
def map (view : κ → γ) (c : ReadThrough κ) : ReadThrough γ := ⟨view c.backend, c.ttls, c.pending⟩

theorem map_eq_iff {c : ReadThrough κ} {c' : ReadThrough κ'} : c.map view = c'.map view' ↔
    view c.backend = view' c'.backend ∧ c.ttls = c'.ttls ∧ c.pending = c'.pending := by
  simp [map]

variable [Cache κ] [Cache κ'] {c : ReadThrough κ} {c' : ReadThrough κ'}

/-- **A fault of a cache is a miss**, whatever is said about it. -/
theorem lookup_alike (hcaches : CachesAlike view view') (h : c.map view = c'.map view') (q : Query)
    (clock : Time.Clock) :
    (∃ b, c.lookup q.Answer q clock = .error b ∧ c'.lookup q.Answer q clock = .error b) ∨
    ∃ found d d', c.lookup q.Answer q clock = .ok (found, d) ∧
      c'.lookup q.Answer q clock = .ok (found, d') ∧ d.map view = d'.map view' := by
  obtain ⟨hbackend, hrest⟩ := map_eq_iff.mp h
  have hget := hcaches.get hbackend q.key clock
  rw [lookup_eq, lookup_eq]
  unfold probed
  generalize Cache.get q.key clock c.backend = x at hget ⊢
  generalize Cache.get q.key clock c'.backend = x' at hget ⊢
  cases hget with
  | result found hafter => exact Or.inr ⟨_, _, _, rfl, rfl, map_eq_iff.mpr ⟨hafter, hrest⟩⟩
  | fault hfault hafter =>
    cases hfault with
    | storage f f' => exact Or.inr ⟨_, _, _, rfl, rfl, map_eq_iff.mpr ⟨hafter, hrest⟩⟩
    | breakdown b => exact Or.inl ⟨b, rfl, rfl⟩

/-- Nor does it matter for a write. -/
theorem runWrite_alike (hcaches : CachesAlike view view') (h : c.map view = c'.map view')
    (clock : Time.Clock) (w : PendingWrite) :
    (c.runWrite clock w).map view = (c'.runWrite clock w).map view' := by
  obtain ⟨hbackend, hrest⟩ := map_eq_iff.mp h
  refine map_eq_iff.mpr ⟨?_, hrest⟩
  have hset := hcaches.set hbackend w.key w.value w.ttl clock
  unfold runWrite
  generalize Cache.set w.key w.value w.ttl clock c.backend = x at hset ⊢
  generalize Cache.set w.key w.value w.ttl clock c'.backend = x' at hset ⊢
  cases hset with
  | result _ hafter => exact hafter
  | fault _ hafter => exact hafter

omit [Cache κ] [Cache κ'] in
theorem repopulateJson_alike (h : c.map view = c'.map view') (q : Query) (a : q.Answer) :
    (c.repopulateJson q a).map view = (c'.repopulateJson q a).map view' := by
  obtain ⟨hbackend, httls, hpending⟩ := map_eq_iff.mp h
  refine map_eq_iff.mpr ⟨hbackend, httls, ?_⟩
  simp only [repopulateJson, repopulate, httls, hpending]

end ReadThrough

end

/-! ## The service -/

section

variable {σ σ' τ : Type} [DecisionStore σ] [DecisionStore σ'] {view : σ → τ} {view' : σ' → τ}

/-- A query is refused by both stores or by none, and calls that answer it come to the same. -/
theorem Query.call_alike (hstores : StoresAlike view view') (q : Query) :
    (∃ f, q.call σ = .error f ∧ q.call σ' = .error f) ∨
    ∃ call call', q.call σ = .ok call ∧ q.call σ' = .ok call' ∧
      ∀ s s', view s = view' s' → Alike StorageFault.Any view view' (call s) (call' s') := by
  cases q with
  | count recipient =>
    exact Or.inr ⟨_, _, rfl, rfl, fun s s' h => hstores.count h recipient⟩
  | list listing recipient token =>
    rcases hbounds : PageBounds.ofToken token with f | bounds
    · exact Or.inl ⟨f, by rw [Query.call, hbounds]; rfl, by rw [Query.call, hbounds]; rfl⟩
    · refine Or.inr ⟨_, _, call_list σ hbounds, call_list σ' hbounds, fun s s' h => ?_⟩
      have hlikers := hstores.likers h listing recipient bounds
      generalize DecisionStore.likers listing recipient bounds s = x at hlikers ⊢
      generalize DecisionStore.likers listing recipient bounds s' = x' at hlikers ⊢
      cases hlikers with
      | result page hafter => exact .result _ hafter
      | fault hfault hafter => exact .fault hfault hafter

namespace Api

variable {κ κ' γ : Type} {contents : κ → γ} {contents' : κ' → γ} {s : Service σ κ}
  {s' : Service σ' κ'}

namespace Service

omit [DecisionStore σ] in
/-- What a service looks like. -/
def map (view : σ → τ) (contents : κ → γ) (s : Service σ κ) : Service τ γ :=
  ⟨view s.store, s.cache.map contents⟩

omit [DecisionStore σ] [DecisionStore σ'] in
theorem map_eq_iff : s.map view contents = s'.map view' contents' ↔
    view s.store = view' s'.store ∧ s.cache.map contents = s'.cache.map contents' := by
  simp [map]

/-- **Queries are answered alike.** -/
theorem ask_alike [Cache κ] [Cache κ'] (hstores : StoresAlike view view')
    (hcaches : CachesAlike contents contents')
    (h : s.map view contents = s'.map view' contents') (q : Query) (clock : Time.Clock) :
    AlikeIfAny Fault.Alike (map view contents) (map view' contents') (s.ask q clock)
      (s'.ask q clock) := by
  obtain ⟨hstore, hcache⟩ := map_eq_iff.mp h
  rw [ask_eq, ask_eq]
  rcases q.call_alike hstores with ⟨f, hcall, hcall'⟩ | ⟨call, call', hcall, hcall', hcalls⟩
  · rw [hcall, hcall']
    exact .answered (.fault (.refl f) h)
  · rw [hcall, hcall']
    rcases ReadThrough.lookup_alike hcaches hcache q clock with
      ⟨b, hlook, hlook'⟩ | ⟨found, d, d', hlook, hlook', hprobed⟩
    · simp only [hlook, hlook']
      exact .broken b
    · simp only [hlook, hlook']
      cases found with
      | some a => exact .answered (.result a (map_eq_iff.mpr ⟨hstore, hprobed⟩))
      | none =>
        have hcalled := hcalls s.store s'.store hstore
        simp only
        generalize call s.store = x at hcalled ⊢
        generalize call' s'.store = x' at hcalled ⊢
        cases hcalled with
        | result a hafter =>
          exact .answered (.result a (map_eq_iff.mpr
            ⟨hafter, ReadThrough.repopulateJson_alike hprobed q a⟩))
        | fault _ hafter =>
          exact .answered (.fault (.storage _ _) (map_eq_iff.mpr ⟨hafter, hprobed⟩))

/-- **Decisions are recorded alike.** -/
theorem decide_alike (hstores : StoresAlike view view')
    (h : s.map view contents = s'.map view' contents') (actor recipient : String) (liked : Bool)
    (clock : Time.Clock) :
    AlikeIfAny Fault.Alike (map view contents) (map view' contents')
      (s.decide actor recipient liked clock) (s'.decide actor recipient liked clock) := by
  obtain ⟨hstore, hcache⟩ := map_eq_iff.mp h
  have hrecord := hstores.record hstore actor recipient liked clock
  unfold decide
  generalize DecisionStore.record actor recipient liked clock s.store = x at hrecord ⊢
  generalize DecisionStore.record actor recipient liked clock s'.store = x' at hrecord ⊢
  cases hrecord with
  | fault hfault hafter =>
    cases hfault with
    | storage f f' => exact .answered (.fault (.storage f f') (map_eq_iff.mpr ⟨hafter, hcache⟩))
    | breakdown b => exact .broken b
  | @result _ store store' hafter =>
    cases liked with
    | false => exact .answered (.result false (map_eq_iff.mpr ⟨hafter, hcache⟩))
    | true =>
      have hmutual := hstores.areMutual hafter actor recipient
      simp only [Bool.not_true, Bool.false_eq_true, if_false]
      generalize DecisionStore.areMutual actor recipient store = y at hmutual ⊢
      generalize DecisionStore.areMutual actor recipient store' = y' at hmutual ⊢
      cases hmutual with
      | result areMutual hafter' =>
        exact .answered (.result areMutual (map_eq_iff.mpr ⟨hafter', hcache⟩))
      | fault _ hafter' =>
        exact .answered (.fault (.mutualCheck _ _) (map_eq_iff.mpr ⟨hafter', hcache⟩))

end Service

/-! ## The boundary -/

/-- **The caller is told the same** of faults that differ in the storage fault behind them. -/
theorem Error.ofFault_alike {f f' : Fault} (h : Fault.Alike f f') (failure : String) :
    Error.ofFault failure f = .ofFault failure f' := by
  cases h with
  | refl => rfl
  | storage f f' => rfl
  | mutualCheck f f' => rfl

omit [DecisionStore σ] [DecisionStore σ'] in
/-- What is told only of the kind of a fault is the same reply. -/
theorem sameReply_of_alikeIfAny {α β : Type} {x : Except Breakdown (Except Fault α × Service σ κ)}
    {x' : Except Breakdown (Except Fault α × Service σ' κ')}
    (h : AlikeIfAny Fault.Alike (Service.map view contents) (Service.map view' contents') x x')
    (tell : Except Fault α → Except Error β)
    (htell : ∀ f f', Fault.Alike f f' → tell (.error f) = tell (.error f')) :
    SameReply (Service.map view contents) (Service.map view' contents')
      (x >>= fun answered => pure (tell answered.1, answered.2))
      (x' >>= fun answered => pure (tell answered.1, answered.2)) := by
  cases h with
  | broken b => exact .broken b
  | answered h =>
    cases h with
    | result a hafter => exact .replied (tell (.ok a)) hafter
    | @fault f f' s s' hfault hafter =>
      show SameReply _ _ (Except.ok (tell (.error f), s)) (Except.ok (tell (.error f'), s'))
      rw [htell f f' hfault]
      exact .replied _ hafter

namespace Service

variable [Cache κ] [Cache κ']

theorem handleList_same (hstores : StoresAlike view view')
    (hcaches : CachesAlike contents contents')
    (h : s.map view contents = s'.map view' contents') (listing : Listing) (r : ListRequest)
    (clock : Time.Clock) : SameReply (map view contents) (map view' contents')
      (s.handleList listing r clock) (s'.handleList listing r clock) := by
  unfold handleList
  cases require "recipient_user_id" r.recipient with
  | error f => exact .replied _ h
  | ok _ =>
    have hask := ask_alike hstores hcaches h (.list listing r.recipient r.token) clock
    exact sameReply_of_alikeIfAny hask (Except.mapError (.ofFault (listFailure listing)))
      fun _ _ hfault => congrArg Except.error (Error.ofFault_alike hfault _)

theorem handleCount_same (hstores : StoresAlike view view')
    (hcaches : CachesAlike contents contents')
    (h : s.map view contents = s'.map view' contents') (r : CountRequest) (clock : Time.Clock) :
    SameReply (map view contents) (map view' contents') (s.handleCount r clock)
      (s'.handleCount r clock) := by
  unfold handleCount
  cases require "recipient_user_id" r.recipient with
  | error f => exact .replied _ h
  | ok _ =>
    have hask := ask_alike hstores hcaches h (.count r.recipient) clock
    exact sameReply_of_alikeIfAny hask
      (fun answer => (answer.map CountReply.mk).mapError (.ofFault countFailure))
      fun _ _ hfault => congrArg Except.error (Error.ofFault_alike hfault _)

omit [Cache κ] [Cache κ'] in
theorem handlePut_same (hstores : StoresAlike view view')
    (h : s.map view contents = s'.map view' contents') (r : PutRequest) (clock : Time.Clock) :
    SameReply (map view contents) (map view' contents') (s.handlePut r clock)
      (s'.handlePut r clock) := by
  unfold handlePut
  cases r.validate with
  | error f => exact .replied _ h
  | ok _ =>
    have hdecide := decide_alike hstores h r.actor r.recipient r.liked clock
    exact sameReply_of_alikeIfAny hdecide
      (fun answer => (answer.map PutReply.mk).mapError (.ofFault putFailure))
      fun _ _ hfault => congrArg Except.error (Error.ofFault_alike hfault _)

end Service

end Api

end

end LikedYou
