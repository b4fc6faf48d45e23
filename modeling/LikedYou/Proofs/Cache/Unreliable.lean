import LikedYou.Proofs.Service.Alike

/-!
# Caches that fail now and then

`Unreliable.cachesAlike` — two unreliable caches with the same entries that fail at the same calls are
alike, whatever they say about it.

Which calls fail is given in advance, with what is said about each. A call that fails does not reach
the cache behind.
-/

namespace LikedYou

/-- A cache with the calls that are to come: what they fail with, or that they get through. Later calls
all get through. -/
structure Unreliable (κ : Type) where
  inner : κ
  faults : List (Option StorageFault)

namespace Unreliable

/-- Pass a call on, unless it is to fail. -/
def pass {κ ε α : Type} (fault : StorageFault → ε) (run : κ → Except ε α × κ) (c : Unreliable κ) :
    Except ε α × Unreliable κ :=
  match c.faults with
  | some f :: faults => (.error (fault f), { c with faults })
  | _ => ((run c.inner).1, ⟨(run c.inner).2, c.faults.tail⟩)

variable {κ : Type} [Cache κ]

instance : Cache (Unreliable κ) where
  get key clock := pass .storage (Cache.get key clock)
  set key value ttl clock := pass .storage (Cache.set key value ttl clock)
  delete keys := pass id (Cache.delete keys)
  stats c := Cache.stats c.inner

omit [Cache κ] in
/-- The cache behind, and which calls are to fail. -/
def contents (c : Unreliable κ) : κ × List Bool := (c.inner, c.faults.map Option.isSome)

variable {α : Type} {run : κ → Except OperationFault α × κ}

omit [Cache κ] in
theorem through_alike (inner : κ) {left left' : List (Option StorageFault)}
    (h : left.map Option.isSome = left'.map Option.isSome) :
    Alike OperationFault.Alike contents contents ((run inner).1, ⟨(run inner).2, left⟩)
      ((run inner).1, ⟨(run inner).2, left'⟩) := by
  have hafter : ∀ after : κ, contents ⟨after, left⟩ = contents ⟨after, left'⟩ := fun after =>
    congrArg (Prod.mk after) h
  rcases run inner with ⟨f | a, after⟩
  · cases f with
    | storage f => exact .fault (.storage f f) (hafter after)
    | breakdown b => exact .fault (.breakdown b) (hafter after)
  · exact .result a (hafter after)

omit [Cache κ] in
theorem pass_alike {c c' : Unreliable κ} (h : c.contents = c'.contents) :
    Alike OperationFault.Alike contents contents (c.pass .storage run)
      (c'.pass .storage run) := by
  obtain ⟨inner, faults⟩ := c
  obtain ⟨inner', faults'⟩ := c'
  obtain ⟨hinner, hfaults⟩ := Prod.mk.inj h
  cases hinner
  cases faults with
  | nil =>
    cases faults' with
    | nil => exact through_alike inner rfl
    | cons f' faults' => cases hfaults
  | cons f faults =>
    cases faults' with
    | nil => cases hfaults
    | cons f' faults' =>
      obtain ⟨hfails, hleft⟩ := List.cons.inj hfaults
      cases f with
      | none =>
        cases f' with
        | none => exact through_alike inner hleft
        | some f' => cases hfails
      | some f =>
        cases f' with
        | none => cases hfails
        | some f' => exact .fault (.storage f f') (congrArg (Prod.mk inner) hleft)

/-- **Caches that fail at the same calls are alike**, whatever they say about it. -/
theorem cachesAlike (κ : Type) [Cache κ] :
    CachesAlike (contents : Unreliable κ → κ × List Bool) contents where
  get h _ _ := pass_alike h
  set h _ _ _ _ := pass_alike h

end Unreliable

end LikedYou
