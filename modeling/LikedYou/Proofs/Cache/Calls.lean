import LikedYou.Proofs.Cache.AnyTime
import LikedYou.Proofs.Cache.Counters

/-!
# What calls do to an entry

* `Sometime` — whether some step of a run does what is asked of it
* `Changes`, `ChangedIn` — whether a call changes what is under a key, being a write or a removal that
  does not fail, and whether one of some calls does
* `Volatile.held?_serve`, `Durable.row?_serve` — what is not over stays, unless a call changes it
* `Durable.writes_or_row?` — what is stored after a call was written by it, or was there before
* `Durable.writes_serve` — how many writes a durable cache has counted after a call

A call may remove other entries than those that it names, but only such that are over. So what is not
over needs no account of these removals.
-/

namespace LikedYou

/-! ## Runs -/

section

variable {σ ε : Type} {step : σ → ε → σ} {P : σ → ε → Prop} {s : σ} {es es' : List ε}

/-- Whether some step of a run does what is asked of it, in the state that it meets. -/
def Sometime (step : σ → ε → σ) (P : σ → ε → Prop) : σ → List ε → Prop
  | _, [] => False
  | s, e :: es => P s e ∨ Sometime step P (step s e) es

instance decidableSometime [∀ s e, Decidable (P s e)] :
    (s : σ) → (es : List ε) → Decidable (Sometime step P s es)
  | _, [] => .isFalse id
  | s, e :: es =>
    have := decidableSometime (step s e) es
    inferInstanceAs (Decidable (P s e ∨ Sometime step P (step s e) es))

theorem Sometime.exists_mem (h : Sometime step P s es) : ∃ e ∈ es, ∃ s', P s' e := by
  induction es generalizing s with
  | nil => cases h
  | cons e es ih =>
    rcases h with hnow | hlater
    · exact ⟨e, List.mem_cons_self, s, hnow⟩
    · obtain ⟨e', he', hs'⟩ := ih hlater
      exact ⟨e', List.mem_cons_of_mem e he', hs'⟩

theorem sometime_append :
    Sometime step P s (es ++ es') ↔ Sometime step P s es ∨ Sometime step P (es.foldl step s) es' := by
  induction es generalizing s with
  | nil => exact (or_iff_right id).symm
  | cons e es ih => exact (or_congr_right ih).trans or_assoc.symm

/-- What every step leaves that does not do what is asked, a run leaves in which none does. -/
theorem foldl_of_not_sometime {K : σ → Prop}
    (hstep : ∀ s, ∀ e ∈ es, K s → ¬ P s e → K (step s e)) (hnot : ¬ Sometime step P s es)
    (h : K s) : K (es.foldl step s) := by
  induction es generalizing s with
  | nil => exact h
  | cons e es ih =>
    refine ih (fun s' e' he' => hstep s' e' (List.mem_cons_of_mem e he')) ?_ ?_
    · exact fun hlater => hnot (Or.inr hlater)
    · exact hstep s e List.mem_cons_self h fun hnow => hnot (Or.inl hnow)

end

/-- Whether a call changes what is under a key: a write or a removal that does not fail. -/
def Changes {κ : Type} [Cache κ] (clock : Time.Clock) (c : κ) (key : String) : Durable.Call → Prop
  | .set k value ttl => k = key ∧ (Cache.set k value ttl clock c).1 = .ok ()
  | .delete keys => key ∈ keys ∧ ∃ deleted, (Cache.delete keys c).1 = .ok deleted
  | _ => False

/-- Whether one of some calls changes what is under a key. -/
def ChangedIn {κ : Type} [Cache κ] (serve : Time.Clock → κ → Durable.Call → κ) (c : κ)
    (calls : List (Time.Clock × Durable.Call)) (key : String) : Prop :=
  Sometime (fun c next => serve next.1 c next.2) (fun c next => Changes next.1 c key next.2) c calls

open Durable (Call)

/-! ## In memory -/

namespace Volatile

variable {c : Volatile} {clock : Time.Clock} {key : String} {call : Call}

/-- The cache after a call. It cannot be opened once more, so this leaves it as it is. -/
def serve (clock : Time.Clock) (c : Volatile) : Call → Volatile
  | .get key => (Cache.get key clock c).2
  | .set key value ttl => (Cache.set key value ttl clock c).2
  | .delete keys => (Cache.delete keys c).2
  | .purge => (c.purge clock).2
  | .reopen => c

/-- **What is not over stays, unless a call changes it.** -/
theorem held?_serve {entry : String × Time.Duration} (hentry : c.held? key = some entry)
    (hlive : ¬ IsOver clock entry) (hnot : ¬ Changes clock c key call) :
    (c.serve clock call).held? key = some entry := by
  cases call with
  | get k => exact (c.trims_get k clock).eq_some_of_not hentry hlive
  | set k value ttl =>
    show (c.set k value ttl clock).2.held? key = some entry
    by_cases hend : clock.running + ttl < clockEnd
    · obtain ⟨c', hset, hentries, -⟩ := c.set_eq_ok k value hend
      have hne : key ≠ k := by
        intro hk
        exact hnot ⟨hk.symm, congrArg Prod.fst hset⟩
      rw [hset, hentries, if_neg hne]
      exact (reclaimed_swept clock c).trims.eq_some_of_not hentry hlive
    · rw [c.set_eq_error k value (Nat.not_lt.mp hend)]
      exact hentry
  | delete keys =>
    have hmem : key ∉ keys := by
      intro hmem
      exact hnot ⟨hmem, _, rfl⟩
    show (c.delete keys).2.held? key = some entry
    rw [(c.held?_delete keys).1, if_neg hmem, hentry]
  | purge => exact (reclaimed_purge clock c).trims.eq_some_of_not hentry hlive
  | reopen => exact hentry

end Volatile

/-! ## In tables -/

namespace Durable

variable {c : Durable} {clock : Time.Clock} {key value : String} {ttl : Time.Duration} {call : Call}
  {bytes row : Bytes}

theorem fst_set_of_readable (hclock : clock.Readable) {c' : Durable}
    (h : c.set key value ttl clock.millisecond = (.ok (), c')) :
    (Cache.set key value ttl clock c).1 = .ok () := by
  show (c.setByClock key value ttl clock).1 = .ok ()
  rw [setByClock_of_millis (Time.Clock.millis_of_readable hclock), h]
  rfl

/-- What a removal leaves, whether it succeeds or fails. -/
theorem row?_delete (c : Durable) (keys : List String) :
    (c.delete keys).2 = c ∨ ∃ deleted, (c.delete keys).1 = .ok deleted ∧
      ∀ k, (c.delete keys).2.row? k = if k ∈ keys.map Utf8.ofString then none else c.row? k := by
  rcases c.delete_cases keys with ⟨-, hdelete⟩ | ⟨-, deleted, c', hdelete, hrows⟩
  · exact Or.inl (congrArg Prod.snd hdelete)
  · rw [hdelete]
    exact Or.inr ⟨deleted, rfl, hrows⟩

/-- **What is not over stays, unless a call changes it.** -/
theorem row?_serve (hclock : clock.Readable) (hrow : c.row? (Utf8.ofString key) = some row)
    (hlive : ¬ IsOver clock.millisecond row) (hnot : ¬ Changes clock c key call) :
    (c.serve clock call).row? (Utf8.ofString key) = some row := by
  rw [serve_of_millis (Time.Clock.millis_of_readable hclock)]
  cases call with
  | get k => exact (c.trims_get k _).eq_some_of_not hrow hlive
  | set k value ttl =>
    show (c.set k value ttl clock.millisecond).2.row? (Utf8.ofString key) = some row
    have hleft := (c.reclaimed_atWrite k value ttl clock.millisecond).trims
    rcases c.set_cases k value ttl clock.millisecond with
      ⟨-, c', hset, hrows, -⟩ | ⟨-, f, hset⟩
    · have hne : Utf8.ofString key ≠ Utf8.ofString k := by
        intro hbytes
        exact hnot ⟨(Utf8.ofString_injective hbytes).symm, fst_set_of_readable hclock hset⟩
      rw [hset, hrows, if_neg hne]
      exact hleft.eq_some_of_not hrow hlive
    · rw [hset]
      exact hleft.eq_some_of_not hrow hlive
  | delete keys =>
    show (c.delete keys).2.row? (Utf8.ofString key) = some row
    rcases c.row?_delete keys with hsame | ⟨deleted, hdeleted, hrows⟩
    · rw [hsame, hrow]
    · have hmem : key ∉ keys := by
        intro hmem
        exact hnot ⟨hmem, deleted, congrArg (Except.mapError Fault.toStorage) hdeleted⟩
      rw [hrows, if_neg (mt Utf8.ofString_mem_map_iff.mp hmem), hrow]
  | purge => exact (reclaimed_purge c _).trims.eq_some_of_not hrow hlive
  | reopen => exact hrow

/-- Whether a call writes a row: it is the write of it, and does not fail. -/
def Writes (clock : Time.Clock) (c : Durable) (bytes row : Bytes) : Call → Prop
  | .set key value ttl =>
    bytes = Utf8.ofString key ∧ row = encodeEntry value (expiryAfter ttl clock.millisecond) ∧
      (Cache.set key value ttl clock c).1 = .ok ()
  | _ => False

/-- What is stored after a write was written by it, or was left by the purge before it. -/
theorem writes_or_row?_countWrite (hclock : clock.Readable)
    (h : (c.serve clock (.set key value ttl)).row? bytes = some row) :
    c.Writes clock bytes row (.set key value ttl) ∨
      (c.countWrite clock.millisecond).row? bytes = some row := by
  rw [serve_of_millis (Time.Clock.millis_of_readable hclock), serveAt] at h
  have hleft := (c.reclaimed_atWrite_countWrite key value ttl clock.millisecond).trims
  rcases c.set_cases key value ttl clock.millisecond with
    ⟨-, c', hset, hrows, -⟩ | ⟨-, f, hset⟩
  · rw [hset, hrows] at h
    split at h
    · next hbytes =>
      exact Or.inl ⟨hbytes, (Option.some.inj h).symm, fst_set_of_readable hclock hset⟩
    · exact Or.inr (hleft.eq_some h)
  · rw [hset] at h
    exact Or.inr (hleft.eq_some h)

/-- **What is stored after a call was written by it, or was there before.** -/
theorem writes_or_row? (hclock : clock.Readable) (h : (c.serve clock call).row? bytes = some row) :
    c.Writes clock bytes row call ∨ c.row? bytes = some row := by
  cases call with
  | set key value ttl =>
    rcases writes_or_row?_countWrite hclock h with hwrites | hrow
    · exact Or.inl hwrites
    · exact Or.inr ((reclaimed_countWrite c _).trims.eq_some hrow)
  | get key =>
    rw [serve_of_millis (Time.Clock.millis_of_readable hclock)] at h
    exact Or.inr ((c.trims_get key _).eq_some h)
  | delete keys =>
    right
    have hleft : (c.delete keys).2.row? bytes = some row := h
    rcases c.row?_delete keys with hsame | ⟨deleted, -, hrows⟩
    · rwa [hsame] at hleft
    · rw [hrows] at hleft
      split at hleft
      · cases hleft
      · exact hleft
  | purge =>
    rw [serve_of_millis (Time.Clock.millis_of_readable hclock)] at h
    exact Or.inr ((reclaimed_purge c _).trims.eq_some h)
  | reopen => exact Or.inr h

/-! ## How many writes are counted -/

theorem writes_purge (c : Durable) (now : Int64) : (c.purge now).2.writes = c.writes := by
  unfold purge
  split
  · rfl
  · rfl

theorem writes_countWrite (c : Durable) (now : Int64) : (c.countWrite now).writes = c.writes + 1 := by
  unfold countWrite
  simp only
  split
  · exact writes_purge _ now
  · rfl

theorem writes_write {c' : Durable} {expiresAt : Int64} (h : c.write key value expiresAt = .ok c') :
    c'.writes = c.writes := by
  unfold write at h
  simp only at h
  split at h
  · cases h
  · cases h
    rfl

theorem writes_set (c : Durable) (key value : String) (ttl : Time.Duration) (now : Int64) :
    (c.set key value ttl now).2.writes = c.writes + 1 := by
  rw [← writes_countWrite c now]
  unfold set writeOrPurge
  split
  · next hwrite => exact writes_write hwrite
  · have hpurge := writes_purge (c.countWrite now) now
    split
    · next hpurged => rw [← hpurge, hpurged]
    · next hpurged =>
      rw [hpurged] at hpurge
      split
      · next hwrite => exact (writes_write hwrite).trans hpurge
      · exact hpurge
  · rfl

theorem writes_get (c : Durable) (key : String) (now : Int64) :
    (c.get key now).2.writes = c.writes := by
  unfold get
  simp only
  repeat' split
  all_goals rfl

theorem writes_delete (c : Durable) (keys : List String) :
    (c.delete keys).2.writes = c.writes := by
  unfold delete
  split
  · rfl
  · rfl

/-- **How many writes are counted after a call.** Failed ones are, and opening begins anew. -/
theorem writes_serve (hclock : clock.Readable) (c : Durable) (call : Call) :
    (c.serve clock call).writes =
      match call with
      | .set _ _ _ => c.writes + 1
      | .reopen => 0
      | _ => c.writes := by
  rw [serve_of_millis (Time.Clock.millis_of_readable hclock)]
  cases call with
  | get key => exact c.writes_get key _
  | set key value ttl => exact c.writes_set key value ttl _
  | delete keys => exact c.writes_delete keys
  | purge => exact c.writes_purge _
  | reopen => rfl

end Durable

end LikedYou
