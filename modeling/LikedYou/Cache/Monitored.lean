import LikedYou.Cache.Basic

/-!
# Monitored caches

A cache that counts the calls it gets and fails when it is told to. A call that is made to fail does
not reach the cache behind. A write is counted when it has been tried, also in vain, but not if it
broke down.
-/

namespace LikedYou

/-- Which operations are to fail. -/
structure CacheSwitches where
  gets : Bool
  sets : Bool
  stats : Bool
  deriving DecidableEq, Repr

/-- A cache with counters and switches. -/
structure MonitoredCache (κ : Type) where
  inner : κ
  getCalls : Nat
  setAttempts : Nat
  failing : CacheSwitches

namespace MonitoredCache

variable {κ : Type}

/-- A cache that was not called yet and is not to fail. -/
def new (inner : κ) : MonitoredCache κ := ⟨inner, 0, 0, ⟨false, false, false⟩⟩

/-- What is reported by an operation that is to fail. -/
def injected (operation : String) : StorageFault :=
  .unavailable s!"injected cache {operation} failure"

instance [Cache κ] : Cache (MonitoredCache κ) where
  get key clock c :=
    let counted := { c with getCalls := c.getCalls + 1 }
    if c.failing.gets then (.error (.storage (injected "get")), counted)
    else
      let (found, inner) := Cache.get key clock c.inner
      (found, { counted with inner })
  set key value ttl clock c :=
    let counted := { c with setAttempts := c.setAttempts + 1 }
    if c.failing.sets then (.error (.storage (injected "set")), counted)
    else
      match Cache.set key value ttl clock c.inner with
      | (.error (.breakdown b), inner) => (.error (.breakdown b), { c with inner })
      | (done, inner) => (done, { counted with inner })
  delete keys c :=
    let (deleted, inner) := Cache.delete keys c.inner
    (deleted, { c with inner })
  stats c := if c.failing.stats then .error (injected "stats") else Cache.stats c.inner

end MonitoredCache

end LikedYou
