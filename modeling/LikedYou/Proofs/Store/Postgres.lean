import LikedYou.Proofs.Service.Alike
import LikedYou.Store.Postgres

/-!
# What a store in a database says about faults

* `Postgres.isFixed_of_likers` and the others — whatever the database says, a fault has one of two
  wordings
* `Postgres.storesAlike` — stores in databases that answer alike are alike, whatever is said about
  failures, and whatever is wrong with rows that cannot be read
-/

namespace LikedYou

/-! ## Databases that answer alike -/

/-- Whether two outcomes of a request come to the same for a reader of tables: both are failures of one
sort, or both are tables of which the same is read, or nothing. -/
inductive Sql.Outcome.Alike {α : Type} (read : Sql.Table → Except Sql.RowFault α) :
    Sql.Outcome → Sql.Outcome → Prop where
  | answered {t t' : Sql.Table} (h : (read t).toOption = (read t').toOption) :
      Alike read (.answered t) (.answered t')
  | failed (e e' : Sql.Error) : Alike read (.failed e) (.failed e')
  | lost (e e' : Sql.Error) : Alike read (.lost e) (.lost e')

theorem Sql.Outcome.Alike.map {α β : Type} {read : Sql.Table → Except Sql.RowFault α}
    {o o' : Sql.Outcome} (h : Sql.Outcome.Alike read o o') (k : α → β) :
    Sql.Outcome.Alike (fun t => (read t).map k) o o' := by
  cases h with
  | failed e e' => exact .failed e e'
  | lost e e' => exact .lost e e'
  | @answered t t' hread =>
    have hmap : ∀ x : Except Sql.RowFault α, (x.map k).toOption = x.toOption.map k := by
      rintro (f | a)
      · rfl
      · rfl
    exact .answered (by rw [hmap, hmap, hread])

/-- Whether two databases that look the same answer a request alike, and look the same afterwards. -/
structure RunsAlike {δ δ' ε α : Type} [Sql.Database δ] [Sql.Database δ'] (view : δ → ε)
    (view' : δ' → ε) (request : Sql.Request) (read : Sql.Table → Except Sql.RowFault α) :
    Prop where
  outcome {d : δ} {d' : δ'} (h : view d = view' d') :
    Sql.Outcome.Alike read (Sql.Database.run request d).1 (Sql.Database.run request d').1
  after {d : δ} {d' : δ'} (h : view d = view' d') :
    view (Sql.Database.run request d).2 = view' (Sql.Database.run request d').2

/-- Whether two databases that look the same accept and refuse the same connections, answer the
requests of a store alike, and look the same afterwards. -/
structure DatabasesAlike {δ δ' ε : Type} [Sql.Database δ] [Sql.Database δ'] (view : δ → ε)
    (view' : δ' → ε) : Prop where
  connect {d : δ} {d' : δ'} (h : view d = view' d') :
    Alike (fun _ _ => True) view view' (Sql.Database.connect d) (Sql.Database.connect d')
  likers (listing : Listing) (recipient : String) (bounds : PageBounds) :
    RunsAlike view view' (.prepared (Sql.keyset listing recipient bounds)) Postgres.likersOf
  count (recipient : String) :
    RunsAlike view view' (.prepared (Sql.count recipient)) Postgres.countOf
  record (actor recipient : String) (liked : Bool) :
    RunsAlike view view' (.prepared (Sql.record actor recipient liked)) fun _ => Except.ok ()
  areMutual (actor recipient : String) :
    RunsAlike view view' (.prepared (Sql.areMutual actor recipient)) Postgres.flagOf

/-- Whether every fault that a store reports is one of some. -/
structure FaultsIn (p : StorageFault → Prop) (σ : Type) [DecisionStore σ] : Prop where
  likers {listing : Listing} {recipient : String} {bounds : PageBounds} {s : σ} {f : StorageFault}
    (h : (DecisionStore.likers listing recipient bounds s).1 = .error f) : p f
  count {recipient : String} {s : σ} {f : StorageFault}
    (h : (DecisionStore.count recipient s).1 = .error f) : p f
  record {actor recipient : String} {liked : Bool} {clock : Time.Clock} {s : σ} {f : OperationFault}
    (h : (DecisionStore.record actor recipient liked clock s).1 = .error f) :
    ∃ f', f = .storage f' ∧ p f'
  areMutual {actor recipient : String} {s : σ} {f : StorageFault}
    (h : (DecisionStore.areMutual actor recipient s).1 = .error f) : p f
  check {s : σ} {f : StorageFault} (h : (DecisionStore.check s).1 = .error f) : p f

namespace Postgres

variable {δ δ' ε α : Type} [Sql.Database δ] [Sql.Database δ'] {request : Sql.Request}
  {read : Sql.Table → Except Sql.RowFault α}

/-! ## Two wordings -/

/-- The two faults that a store in a database has. -/
def IsFixed (f : StorageFault) : Prop :=
  f = .unavailable "failed to acquire database connection" ∨
    f = .query "database operation failed"

theorem isFixed_toStorage (f : AskFault) : IsFixed f.toStorage := by
  cases f with
  | poolClosed => exact Or.inl rfl
  | refused e => exact Or.inl rfl
  | failed e => exact Or.inr rfl
  | unreadable f => exact Or.inr rfl

/-- What is made of the answer to a request. -/
def told (read : Sql.Table → Except Sql.RowFault α) :
    Except AskFault Sql.Table × Postgres δ → Except StorageFault α × Postgres δ
  | (.error f, s) => (.error f.toStorage, s)
  | (.ok t, s) => ((read t).mapError fun f => (AskFault.unreadable f).toStorage, s)

theorem query_eq (request : Sql.Request) (read : Sql.Table → Except Sql.RowFault α)
    (s : Postgres δ) : s.query request read = told read (s.ask request) := by
  unfold query
  rcases s.ask request with ⟨f | t, s'⟩
  · rfl
  · rfl

theorem isFixed_of_query {s : Postgres δ} {f : StorageFault}
    (h : (s.query request read).1 = .error f) : IsFixed f := by
  rw [query_eq] at h
  rcases hask : s.ask request with ⟨f' | t, s'⟩
  · rw [hask] at h
    cases h
    exact isFixed_toStorage f'
  · simp only [hask, told] at h
    rcases hread : read t with f' | a
    · rw [hread] at h
      cases h
      exact isFixed_toStorage _
    · rw [hread] at h
      cases h

/-- **A fault has one of two wordings**, whatever the database says. -/
theorem faultsIn_isFixed (δ : Type) [Sql.Database δ] : FaultsIn IsFixed (Postgres δ) where
  likers := isFixed_of_query
  count := isFixed_of_query
  record {actor recipient liked clock s f} h := by
    have hdone : (s.query (.prepared (Sql.record actor recipient liked)) fun _ => .ok ()).1.mapError
        OperationFault.storage = .error f := h
    cases hquery : (s.query (.prepared (Sql.record actor recipient liked)) fun _ => .ok ()).1 with
    | error f' =>
      rw [hquery] at hdone
      cases hdone
      exact ⟨f', rfl, isFixed_of_query hquery⟩
    | ok a =>
      rw [hquery] at hdone
      cases hdone
  areMutual := isFixed_of_query
  check := isFixed_of_query

/-! ## Stores alike -/

/-- What a store in a database looks like. -/
def map (view : δ → ε) (s : Postgres δ) : Postgres ε := ⟨view s.database, s.pool⟩

variable {view : δ → ε} {view' : δ' → ε} {s : Postgres δ} {s' : Postgres δ'}

theorem run_alike (hrun : RunsAlike view view' request read)
    (h : view s.database = view' s'.database) :
    Alike StorageFault.Any (map view) (map view') (told read (s.run request))
      (told read (s'.run request)) := by
  have houtcome := hrun.outcome h
  have hafter := hrun.after h
  unfold run
  generalize Sql.Database.run request s.database = x at houtcome hafter ⊢
  generalize Sql.Database.run request s'.database = x' at houtcome hafter ⊢
  obtain ⟨outcome, d⟩ := x
  obtain ⟨outcome', d'⟩ := x'
  have hmap : ∀ pool, map view ⟨d, pool⟩ = map view' ⟨d', pool⟩ := fun pool =>
    congrArg (Postgres.mk · pool) hafter
  cases houtcome with
  | failed e e' => exact .fault trivial (hmap .connected)
  | lost e e' => exact .fault trivial (hmap .idle)
  | @answered t t' hread =>
    simp only [told]
    rcases ht : read t with f | a
    · rcases ht' : read t' with f' | a'
      · exact .fault trivial (hmap .connected)
      · rw [ht, ht'] at hread
        cases hread
    · rcases ht' : read t' with f' | a'
      · rw [ht, ht'] at hread
        cases hread
      · rw [ht, ht'] at hread
        cases hread
        exact .result a (hmap .connected)

theorem query_alike
    (hconnect : ∀ {d : δ} {d' : δ'}, view d = view' d' →
      Alike (fun _ _ => True) view view' (Sql.Database.connect d) (Sql.Database.connect d'))
    (hrun : RunsAlike view view' request read) (h : s.map view = s'.map view') :
    Alike StorageFault.Any (map view) (map view') (s.query request read)
      (s'.query request read) := by
  obtain ⟨hdatabase, hpool⟩ := Postgres.mk.inj h
  rw [query_eq, query_eq]
  unfold ask
  rw [← hpool]
  cases s.pool with
  | closed => exact .fault trivial h
  | connected => exact run_alike hrun hdatabase
  | idle =>
    have hconnected := hconnect hdatabase
    simp only
    generalize Sql.Database.connect s.database = x at hconnected ⊢
    generalize Sql.Database.connect s'.database = x' at hconnected ⊢
    cases hconnected with
    | fault _ hafter => exact .fault trivial (congrArg (Postgres.mk · .idle) hafter)
    | result _ hafter => exact run_alike hrun hafter

/-- **Stores in databases that answer alike are alike**, whatever is said about failures. -/
theorem storesAlike (h : DatabasesAlike view view') : StoresAlike (map view) (map view') where
  likers hview listing recipient bounds :=
    query_alike h.connect
      { outcome hd := ((h.likers listing recipient bounds).outcome hd).map _
        after hd := (h.likers listing recipient bounds).after hd } hview
  count hview recipient := query_alike h.connect (h.count recipient) hview
  record {s s'} hview actor recipient liked clock := by
    have hquery := query_alike h.connect (h.record actor recipient liked) hview
    simp only [DecisionStore.record]
    generalize s.query _ _ = x at hquery ⊢
    generalize s'.query _ _ = x' at hquery ⊢
    cases hquery with
    | result a hafter => exact .result a hafter
    | fault _ hafter => exact .fault (.storage _ _) hafter
  areMutual hview actor recipient := query_alike h.connect (h.areMutual actor recipient) hview

end Postgres

/-! ## Databases on tape -/

/-- What happened between a store and a database, to be played back. -/
structure Sql.Tape where
  connections : List (Except Sql.Error Unit)
  outcomes : List Sql.Outcome

namespace Sql.Tape

/-- What is said when a tape has ended. -/
def ended : Sql.Error := ⟨none, "the tape has ended"⟩

instance : Database Tape where
  connect d := (d.connections.headD (.error ended), { d with connections := d.connections.tail })
  run _ d := (d.outcomes.headD (.lost ended), { d with outcomes := d.outcomes.tail })

/-- What the stores read of an outcome. -/
inductive Seen where
  | answered (likers : Option (List Liker)) (count : Option UInt64) (flag : Option Bool)
  | failed
  | lost
  deriving DecidableEq

/-- What is seen of an outcome. -/
def seenOf : Outcome → Seen
  | .answered t =>
    .answered (Postgres.likersOf t).toOption (Postgres.countOf t).toOption
      (Postgres.flagOf t).toOption
  | .failed _ => .failed
  | .lost _ => .lost

/-- Whether a connection is accepted. -/
def isAccepted (connected : Except Error Unit) : Bool := connected.toOption.isSome

/-- What is seen of a tape. -/
def seen (d : Tape) : List Bool × List Seen :=
  (d.connections.map isAccepted, d.outcomes.map seenOf)

theorem alike_of_seenOf {o o' : Outcome} (h : seenOf o = seenOf o') {α : Type}
    {read : Table → Except RowFault α}
    (hread : ∀ t t', seenOf (.answered t) = seenOf (.answered t') →
      (read t).toOption = (read t').toOption) : o.Alike read o' := by
  cases o with
  | answered t =>
    cases o' with
    | answered t' => exact .answered (hread t t' h)
    | failed e => cases h
    | lost e => cases h
  | failed e =>
    cases o' with
    | answered t => cases h
    | failed e' => exact .failed e e'
    | lost e' => cases h
  | lost e =>
    cases o' with
    | answered t => cases h
    | failed e' => cases h
    | lost e' => exact .lost e e'

theorem headD_map {α β : Type} (f : α → β) (as : List α) (a : α) :
    (as.map f).headD (f a) = f (as.headD a) := by
  cases as with
  | nil => rfl
  | cons a' as => rfl

theorem runsAlike {α : Type} (request : Request) {read : Table → Except RowFault α}
    (hread : ∀ t t', seenOf (.answered t) = seenOf (.answered t') →
      (read t).toOption = (read t').toOption) : RunsAlike seen seen request read where
  outcome {d d'} h := by
    have houtcomes : d.outcomes.map seenOf = d'.outcomes.map seenOf := congrArg Prod.snd h
    have hhead := congrArg (·.headD (seenOf (.lost ended))) houtcomes
    simp only [headD_map] at hhead
    exact alike_of_seenOf hhead hread
  after {d d'} h := by
    obtain ⟨hconnections, houtcomes⟩ := Prod.mk.inj h
    refine Prod.ext hconnections ?_
    show d.outcomes.tail.map seenOf = d'.outcomes.tail.map seenOf
    rw [List.map_tail, List.map_tail, houtcomes]

/-- **Tapes of which the same is seen are alike**, whatever is said on them. -/
theorem databasesAlike : DatabasesAlike seen seen where
  connect {d d'} h := by
    obtain ⟨hconnections, houtcomes⟩ := Prod.mk.inj h
    have hafter : seen { d with connections := d.connections.tail } =
        seen { d' with connections := d'.connections.tail } := by
      refine Prod.ext ?_ houtcomes
      simp only [seen, List.map_tail, hconnections]
    have haccepted := congrArg (·.headD (isAccepted (.error ended))) hconnections
    simp only [headD_map] at haccepted
    simp only [Database.connect]
    generalize d.connections.headD (.error ended) = x at haccepted ⊢
    generalize d'.connections.headD (.error ended) = x' at haccepted ⊢
    cases x with
    | error e =>
      cases x' with
      | error e' => exact .fault trivial hafter
      | ok _ => cases haccepted
    | ok _ =>
      cases x' with
      | error e' => cases haccepted
      | ok _ => exact .result () hafter
  likers listing recipient bounds := runsAlike _ fun t t' h => (Seen.answered.inj h).1
  count recipient := runsAlike _ fun t t' h => (Seen.answered.inj h).2.1
  record actor recipient liked := runsAlike _ fun _ _ _ => rfl
  areMutual actor recipient := runsAlike _ fun t t' h => (Seen.answered.inj h).2.2

end Sql.Tape

end LikedYou
