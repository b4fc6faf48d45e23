import LikedYou.Store.Basic

/-!
# Monitored stores

A store that counts the calls it gets and fails when it is told to. A call that is made to fail is
counted and does not reach the store behind.
-/

namespace LikedYou

/-- How often each operation was called. -/
structure StoreCalls where
  likers : Nat
  newLikers : Nat
  count : Nat
  record : Nat
  mutuals : Nat
  deriving DecidableEq, Repr

/-- No calls. -/
def StoreCalls.none : StoreCalls := ⟨0, 0, 0, 0, 0⟩

/-- Calls that read lists or numbers of likes. -/
def StoreCalls.reads (c : StoreCalls) : Nat := c.likers + c.newLikers + c.count

/-- Which operations are to fail. -/
structure StoreSwitches where
  reads : Bool
  record : Bool
  mutuals : Bool
  deriving DecidableEq, Repr

/-- A store with counters and switches. -/
structure MonitoredStore (σ : Type) where
  inner : σ
  calls : StoreCalls
  failing : StoreSwitches

namespace MonitoredStore

variable {σ : Type}

/-- A store that was not called yet and is not to fail. -/
def new (inner : σ) : MonitoredStore σ := ⟨inner, .none, ⟨false, false, false⟩⟩

/-- Count a call, and pass it on unless it is to fail. -/
def pass {ε α : Type} (fault : StorageFault → ε) (failing : Bool) (operation : String)
    (counted : StoreCalls) (run : σ → Except ε α × σ) (s : MonitoredStore σ) :
    Except ε α × MonitoredStore σ :=
  if failing then
    (.error (fault (.unavailable s!"injected {operation} failure")), { s with calls := counted })
  else
    let (answer, inner) := run s.inner
    (answer, { s with inner, calls := counted })

instance [DecisionStore σ] : DecisionStore (MonitoredStore σ) where
  likers listing recipient bounds s :=
    let (operation, counted) :=
      match listing with
      | .everyone => ("get_likers", { s.calls with likers := s.calls.likers + 1 })
      | .undecided => ("get_new_likers", { s.calls with newLikers := s.calls.newLikers + 1 })
    s.pass id s.failing.reads operation counted (DecisionStore.likers listing recipient bounds)
  count recipient s :=
    s.pass id s.failing.reads "count_likes" { s.calls with count := s.calls.count + 1 }
      (DecisionStore.count recipient)
  record actor recipient liked clock s :=
    s.pass .storage s.failing.record "upsert_decision"
      { s.calls with record := s.calls.record + 1 }
      (DecisionStore.record actor recipient liked clock)
  areMutual actor recipient s :=
    s.pass id s.failing.mutuals "has_mutual_like" { s.calls with mutuals := s.calls.mutuals + 1 }
      (DecisionStore.areMutual actor recipient)
  check s := (.ok (), s)

end MonitoredStore

end LikedYou
