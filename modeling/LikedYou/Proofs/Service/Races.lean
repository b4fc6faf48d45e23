import LikedYou.Proofs.Service.Attempts

/-!
# Calls that run at the same time

* `Race.step` — one step of a call: a decision is recorded, or a recorded like is checked
* `Race.decide_run` — a call whose steps follow each other is a decision of the service
* `Race.inner_run`, `Race.stage_run` — what any steps record, and what a check among them answers
* `Race.matches_of_interleaving` — two users who like each other are not both told that they do not

A call writes before it checks, and steps of other calls change neither how far it is nor what it
wrote. So of two calls, the one that checks last sees both likes.
-/

namespace LikedYou.Api

/-- How far a call to record a decision is. -/
inductive Stage where
  | idle
  /-- A like was recorded, and is to be checked. -/
  | recorded
  | answered (answer : Except Fault Bool)
  | broken (b : Breakdown)

/-- How far a call is when the store was to record its decision. Only a like is checked. -/
def Stage.ofRecord (liked : Bool) : Except OperationFault Unit → Stage
  | .error (.breakdown b) => .broken b
  | .error (.storage f) => .answered (.error (.storage f))
  | .ok () => if liked then .recorded else .answered (.ok false)

/-- How far a call is when the store was to check its like. -/
def Stage.ofCheck (checked : Except StorageFault Bool) : Stage :=
  .answered (checked.mapError .mutualCheck)

/-- A step of one of several calls. -/
inductive Step (ι : Type) where
  | record (call : ι)
  | check (call : ι)
  deriving DecidableEq

namespace Step

variable {ι : Type}

/-- The call that makes the step. -/
def call : Step ι → ι
  | record k | check k => k

end Step

/-- A store, and how far the calls are that use it. -/
structure Race (ι : Type) where
  store : MonitoredStore Relation
  stage : ι → Stage

namespace Race

variable {ι : Type} [DecidableEq ι]

/-! ## Steps -/

/-- A call has gone on to another stage. -/
def moved (s : Race ι) (k : ι) (stage : Stage) (store : MonitoredStore Relation) : Race ι where
  store
  stage i := if i = k then stage else s.stage i

/-- Make one step. A check is only made for a like that was recorded. -/
def step (calls : ι → Attempt) (s : Race ι) (e : Step ι) : Race ι :=
  let a := calls e.call
  let store := { s.store with failing := a.failing }
  match e, s.stage e.call with
  | .record k, _ =>
    let (done, store) :=
      DecisionStore.record a.request.actor a.request.recipient a.request.liked a.clock store
    s.moved k (.ofRecord a.request.liked done) store
  | .check k, .recorded =>
    let (checked, store) := DecisionStore.areMutual a.request.actor a.request.recipient store
    s.moved k (.ofCheck checked) store
  | .check _, _ => s

/-- Make several steps. -/
def run (calls : ι → Attempt) (s : Race ι) (steps : List (Step ι)) : Race ι :=
  steps.foldl (step calls) s

/-- No call has begun. -/
def start (store : MonitoredStore Relation) : Race ι := ⟨store, fun _ => .idle⟩

variable {calls : ι → Attempt} {s : Race ι} {k : ι} {d : Decision}

theorem stage_moved_self (s : Race ι) (k : ι) (stage : Stage) (store : MonitoredStore Relation) :
    (s.moved k stage store).stage k = stage := if_pos rfl

theorem stage_moved_of_ne {k' : ι} (h : k' ≠ k) (s : Race ι) (stage : Stage)
    (store : MonitoredStore Relation) : (s.moved k' stage store).stage k = s.stage k :=
  if_neg h.symm

theorem step_check_of_ne (h : s.stage k ≠ .recorded) : s.step calls (.check k) = s := by
  cases hstage : s.stage k with
  | recorded => exact absurd hstage h
  | _ => simp only [step, Step.call, hstage]

/-- **A step of one call leaves the others where they are.** -/
theorem stage_step_of_ne {e : Step ι} (h : e.call ≠ k) : (s.step calls e).stage k = s.stage k := by
  unfold step
  split
  · exact stage_moved_of_ne h _ _ _
  · exact stage_moved_of_ne h _ _ _
  · rfl

/-- What a step to record does. -/
theorem step_record (calls : ι → Attempt) (s : Race ι) (k : ι) :
    let done := DecisionStore.record (calls k).request.actor (calls k).request.recipient
      (calls k).request.liked (calls k).clock { s.store with failing := (calls k).failing }
    s.step calls (.record k) = s.moved k (.ofRecord (calls k).request.liked done.1) done.2 := rfl

/-- What a step to record does to the relation. -/
theorem inner_step_record (s : Race ι) (k : ι) :
    (s.step calls (.record k)).store.inner =
      s.store.inner.recordAll (calls k).decision?.toList := by
  simp only [step, Step.call, record_monitoredRelation]
  cases hrecord : (calls k).failing.record with
  | true =>
    simp only [Attempt.decision?, hrecord]
    rfl
  | false =>
    cases hnow : (calls k).clock.now with
    | error b =>
      simp only [Attempt.decision?, hrecord, hnow]
      rfl
    | ok time =>
      simp only [Attempt.decision?, hrecord, hnow]
      rfl

/-- What a check finds out. -/
theorem step_check (h : s.stage k = .recorded) :
    s.step calls (.check k) =
      s.moved k
        (.ofCheck
          (if (calls k).failing.mutuals then .error (.unavailable "injected has_mutual_like failure")
          else .ok (s.store.inner.areMutual (calls k).request.actor (calls k).request.recipient)))
        { s.store with
          failing := (calls k).failing
          calls.mutuals := s.store.calls.mutuals + 1 } := by
  simp only [step, Step.call, h, areMutual_monitoredRelation]

/-- A check changes no decision. -/
theorem inner_step_check (s : Race ι) (k : ι) :
    (s.step calls (.check k)).store.inner = s.store.inner := by
  by_cases h : s.stage k = .recorded
  · rw [step_check h]
    rfl
  · rw [step_check_of_ne h]

/-- After its decision was recorded, a call is to be checked or has its answer. -/
theorem stage_step_record (s : Race ι) (hd : (calls k).decision? = some d) :
    (s.step calls (.record k)).stage k =
      if (calls k).request.liked then .recorded else .answered (.ok false) := by
  obtain ⟨hrecord, time, hnow, -⟩ := Attempt.decision?_eq_some_iff.mp hd
  simp only [step, Step.call, record_monitoredRelation, hrecord, hnow]
  exact stage_moved_self _ _ _ _

/-- Recording a decision never tells of a mutual like. -/
theorem stage_step_record_ne (s : Race ι) (k : ι) :
    (s.step calls (.record k)).stage k ≠ .answered (.ok true) := by
  have hstage : ∀ liked done, Stage.ofRecord liked done ≠ .answered (.ok true) := by
    intro liked done
    unfold Stage.ofRecord
    split
    · nofun
    · nofun
    · split
      · nofun
      · nofun
  show (s.moved k _ _).stage k ≠ _
  rw [stage_moved_self]
  exact hstage _ _

/-! ## One call at a time -/

theorem failing_record (actor recipient : String) (liked : Bool) (clock : Time.Clock)
    (store : MonitoredStore Relation) :
    (DecisionStore.record actor recipient liked clock store).2.failing = store.failing := by
  rw [record_monitoredRelation]
  split
  · rfl
  · split
    · rfl
    · rfl

/-- **A call whose steps follow each other is a decision of the service.** -/
theorem decide_run (calls : ι → Attempt) (s : Race ι) (k : ι) {κ : Type} (cache : ReadThrough κ) :
    let service : Service (MonitoredStore Relation) κ :=
      ⟨{ s.store with failing := (calls k).failing }, cache⟩
    let s' := s.run calls [.record k, .check k]
    match service.decide (calls k).request.actor (calls k).request.recipient
      (calls k).request.liked (calls k).clock with
    | .ok (answer, service) => s'.stage k = .answered answer ∧ service = ⟨s'.store, cache⟩
    | .error b => s'.stage k = .broken b := by
  intro service s'
  have hfailing := failing_record (calls k).request.actor (calls k).request.recipient
    (calls k).request.liked (calls k).clock { s.store with failing := (calls k).failing }
  rcases hrecord : DecisionStore.record (calls k).request.actor (calls k).request.recipient
    (calls k).request.liked (calls k).clock
    ({ s.store with failing := (calls k).failing } : MonitoredStore Relation) with ⟨done, left⟩
  have hs : s' = (s.moved k (.ofRecord (calls k).request.liked done) left).step calls (.check k) := by
    have hstep := step_record calls s k
    rw [hrecord] at hstep
    exact congrArg (·.step calls (.check k)) hstep
  have hstage := stage_moved_self s k (.ofRecord (calls k).request.liked done) left
  -- a call that is not to be checked stays as it is
  have hdone : Stage.ofRecord (calls k).request.liked done ≠ .recorded →
      s' = s.moved k (.ofRecord (calls k).request.liked done) left := by
    intro hne
    rw [hs, step_check_of_ne (by rwa [hstage])]
  rw [hrecord] at hfailing
  unfold Service.decide
  simp only [service, hrecord]
  rcases done with (f | b) | _
  · rw [hdone nofun, stage_moved_self]
    exact ⟨rfl, rfl⟩
  · rw [hdone nofun, stage_moved_self]
    rfl
  · cases hliked : (calls k).request.liked with
    | false =>
      rw [hdone (by rw [hliked]; nofun), stage_moved_self, hliked]
      exact ⟨rfl, rfl⟩
    | true =>
      rw [hliked] at hs hstage
      obtain ⟨inner, storeCalls, failing⟩ := left
      obtain rfl : failing = (calls k).failing := hfailing
      rw [hs, step_check hstage, stage_moved_self]
      simp only [areMutual_monitoredRelation, Bool.not_true, Bool.false_eq_true, if_false]
      cases (calls k).failing.mutuals with
      | true => exact ⟨rfl, rfl⟩
      | false => exact ⟨rfl, rfl⟩

/-! ## Many steps -/

theorem run_append (calls : ι → Attempt) (s : Race ι) (steps steps' : List (Step ι)) :
    s.run calls (steps ++ steps') = (s.run calls steps).run calls steps' := List.foldl_append

/-- The decisions that steps record. -/
def recordedBy (calls : ι → Attempt) (steps : List (Step ι)) : History :=
  steps.filterMap fun
    | .record k => (calls k).decision?
    | .check _ => none

/-- **The relation after any steps is what they recorded**, on top of what was there before. -/
theorem inner_run (calls : ι → Attempt) (s : Race ι) (steps : List (Step ι)) :
    (s.run calls steps).store.inner = s.store.inner.recordAll (recordedBy calls steps) := by
  induction steps generalizing s with
  | nil => rfl
  | cons e steps ih =>
    rw [run, List.foldl_cons, ← run, ih]
    cases e with
    | check k =>
      rw [inner_step_check]
      rfl
    | record k =>
      rw [inner_step_record, ← Relation.recordAll_append]
      rw [recordedBy, recordedBy, List.filterMap_eq_flatMap_toList, List.filterMap_eq_flatMap_toList]
      rfl

/-- Steps of other calls leave a call where it is. -/
theorem stage_run_of_forall_ne (calls : ι → Attempt) (s : Race ι) {steps : List (Step ι)}
    (h : ∀ e ∈ steps, e.call ≠ k) : (s.run calls steps).stage k = s.stage k := by
  induction steps generalizing s with
  | nil => rfl
  | cons e steps ih =>
    obtain ⟨he, hsteps⟩ := List.forall_mem_cons.mp h
    rw [run, List.foldl_cons, ← run, ih _ hsteps, stage_step_of_ne he]

omit [DecidableEq ι] in
theorem mem_recordedBy {steps : List (Step ι)} :
    d ∈ recordedBy calls steps ↔ ∃ k, .record k ∈ steps ∧ (calls k).decision? = some d := by
  rw [recordedBy, List.mem_filterMap]
  constructor
  · rintro ⟨e, hmem, hd⟩
    cases e with
    | record k => exact ⟨k, hmem, hd⟩
    | check k => cases hd
  · rintro ⟨k, hmem, hd⟩
    exact ⟨_, hmem, hd⟩

/-- **Only a check tells of a mutual like**, and only if both like each other then. -/
theorem exists_check_of_answered {steps : List (Step ι)} (hstage : s.stage k ≠ .answered (.ok true))
    (h : (s.run calls steps).stage k = .answered (.ok true)) :
    ∃ before after, steps = before ++ .check k :: after ∧
      (s.run calls before).store.inner.areMutual (calls k).request.actor
        (calls k).request.recipient = true := by
  induction steps using List.reverseRecOn with
  | nil => exact absurd h hstage
  | append_singleton steps e ih =>
    by_cases hearlier : (s.run calls steps).stage k = .answered (.ok true)
    · obtain ⟨before, after, rfl, hmutual⟩ := ih hearlier
      exact ⟨before, after ++ [e], by simp, hmutual⟩
    · have hstep : (s.run calls (steps ++ [e])).stage k = ((s.run calls steps).step calls e).stage k :=
        congrArg (·.stage k) (run_append calls s steps [e])
      rw [hstep] at h
      by_cases hcall : e.call = k
      · subst hcall
        cases e with
        | record k => exact absurd h (stage_step_record_ne _ _)
        | check k =>
          by_cases hrecorded : (s.run calls steps).stage k = .recorded
          · refine ⟨steps, [], rfl, ?_⟩
            rw [Step.call, step_check hrecorded, stage_moved_self] at h
            cases hfails : (calls k).failing.mutuals with
            | true =>
              rw [hfails] at h
              cases h
            | false =>
              rw [hfails] at h
              exact Except.ok.inj (Stage.answered.inj h)
          · rw [step_check_of_ne hrecorded] at h
            exact absurd h hearlier
      · rw [stage_step_of_ne hcall] at h
        exact absurd h hearlier

/-! ## Interleavings -/

/-- Whether these are steps of calls that each record a decision before they check it, mixed in any
way. -/
def Interleaving (steps : List (Step ι)) : Prop :=
  ∀ k, (steps.filter fun e => e.call = k) <+: [.record k, .check k]

/-- Whether one step comes before another. -/
def Precedes (steps : List (Step ι)) (e e' : Step ι) : Prop :=
  ∃ before after, steps = before ++ e' :: after ∧ e ∈ before

section

variable {steps before after : List (Step ι)}

/-- Around a check there is nothing of its call but the step to record, which is before it. -/
theorem Interleaving.around_check (h : Interleaving steps)
    (hsteps : steps = before ++ .check k :: after) :
    (before.filter fun e => e.call = k) = [.record k] ∧ ∀ e ∈ after, e.call ≠ k := by
  have hk := h k
  rw [hsteps, List.filter_append, List.filter_cons_of_pos (by simp [Step.call])] at hk
  have hlength := hk.length_le
  cases hbefore : before.filter fun e => e.call = k with
  | nil =>
    rw [hbefore] at hk
    cases (List.cons_prefix_cons.mp hk).1
  | cons e more =>
    rw [hbefore] at hk hlength
    obtain ⟨rfl, -⟩ := List.cons_prefix_cons.mp hk
    simp only [List.length_append, List.length_cons, List.length_nil] at hlength
    have hmore : more = [] := List.eq_nil_of_length_eq_zero (by omega)
    have hafter : (after.filter fun e => e.call = k) = [] :=
      List.eq_nil_of_length_eq_zero (by omega)
    refine ⟨by rw [hmore], fun e he hcall => ?_⟩
    exact List.filter_eq_nil_iff.mp hafter e he (decide_eq_true hcall)

theorem Interleaving.record_mem (h : Interleaving steps)
    (hsteps : steps = before ++ .check k :: after) : .record k ∈ before := by
  have hmem : Step.record k ∈ before.filter fun e => e.call = k := by
    rw [(h.around_check hsteps).1]
    exact List.mem_singleton_self _
  exact (List.mem_filter.mp hmem).1

/-- **What a check answers**, if it does not fail: whether both like each other then. -/
theorem stage_run (h : Interleaving steps) (hsteps : steps = before ++ .check k :: after)
    (hd : (calls k).decision? = some d) (hliked : (calls k).request.liked = true)
    (hworks : (calls k).failing.mutuals = false) (s : Race ι) :
    (s.run calls steps).stage k = .answered (.ok
      ((s.run calls before).store.inner.areMutual (calls k).request.actor
        (calls k).request.recipient)) := by
  obtain ⟨hbefore, hafter⟩ := h.around_check hsteps
  have hrecorded : (s.run calls before).stage k = .recorded := by
    obtain ⟨early, late, rfl, -, -, hlate⟩ := List.filter_eq_cons_iff.mp hbefore
    have hothers : ∀ e ∈ late, e.call ≠ k := fun e he hcall =>
      List.filter_eq_nil_iff.mp hlate e he (decide_eq_true hcall)
    have hlast := stage_run_of_forall_ne calls ((s.run calls early).step calls (.record k)) hothers
    rw [run_append, run, List.foldl_cons, ← run, hlast, stage_step_record _ hd, if_pos hliked]
  have hcheck := stage_run_of_forall_ne calls ((s.run calls before).step calls (.check k)) hafter
  rw [hsteps, run_append, run, List.foldl_cons, ← run, hcheck, step_check hrecorded,
    stage_moved_self, hworks]
  rfl

end

/-! ## Two who like each other -/

end Race

/-- Whether a call is a like of one user by another, and none of its steps fails. -/
structure Attempt.Likes (a : Attempt) (actor recipient : String) : Prop where
  request : a.request = ⟨actor, recipient, true⟩
  readable : a.clock.Readable
  record : a.failing.record = false
  mutuals : a.failing.mutuals = false

theorem Attempt.Likes.exists_decision? {a : Attempt} {actor recipient : String}
    (h : a.Likes actor recipient) : ∃ time, a.decision? = some ⟨actor, recipient, true, time⟩ := by
  obtain ⟨time, hnow⟩ := Time.Clock.exists_now h.readable
  exact ⟨time, Attempt.decision?_eq_some_iff.mpr ⟨h.record, time, hnow, by rw [h.request]⟩⟩

namespace Race

variable {ι : Type} [DecidableEq ι] {calls : ι → Attempt} {i j : ι} {a b : String}
  {store : MonitoredStore Relation} {steps : List (Step ι)}

/-- Two calls by which two users like each other, who have not decided about each other before, and
about whom there is no other call. -/
structure Meet (calls : ι → Attempt) (held : Relation) (i j : ι) (a b : String) : Prop where
  distinct : a ≠ b
  like : (calls i).Likes a b
  returned : (calls j).Likes b a
  others : ∀ k, k ≠ i → k ≠ j →
    ¬ ((calls k).request.actor = a ∧ (calls k).request.recipient = b) ∧
    ¬ ((calls k).request.actor = b ∧ (calls k).request.recipient = a)
  undecided : held.verdict? a b = none
  undecided_back : held.verdict? b a = none

namespace Meet

variable {held : Relation}

omit [DecidableEq ι] in
theorem symm (h : Meet calls held i j a b) : Meet calls held j i b a where
  distinct := h.distinct.symm
  like := h.returned
  returned := h.like
  others k hj hi := (h.others k hi hj).symm
  undecided := h.undecided_back
  undecided_back := h.undecided

/-- Only one call is about this pair in this direction. -/
theorem eq_of_request (h : Meet calls held i j a b) {k : ι} (hactor : (calls k).request.actor = a)
    (hrecipient : (calls k).request.recipient = b) : k = i := by
  by_contra hi
  by_cases hj : k = j
  · subst hj
    rw [h.returned.request] at hactor
    exact h.distinct hactor.symm
  · exact (h.others k hi hj).1 ⟨hactor, hrecipient⟩

/-- The one likes the other as soon as this was recorded. -/
theorem likes_iff (h : Meet calls held i j a b) (before : List (Step ι)) :
    (held.recordAll (recordedBy calls before)).likes a b = true ↔ .record i ∈ before := by
  rw [Relation.likes_recordAll_iff]
  constructor
  · rintro (⟨d, hlast, -⟩ | ⟨-, hstart⟩)
    · obtain ⟨k, hk, hd⟩ := mem_recordedBy.mp (History.mem_of_last? hlast)
      obtain ⟨hactor, hrecipient⟩ := History.eq_of_last? hlast
      obtain ⟨-, time, -, rfl⟩ := Attempt.decision?_eq_some_iff.mp hd
      rwa [h.eq_of_request hactor hrecipient] at hk
    · rw [Relation.likes, h.undecided] at hstart
      cases hstart
  · intro hmem
    obtain ⟨time, hdecision⟩ := h.like.exists_decision?
    obtain ⟨last, hlast⟩ := History.exists_last? (mem_recordedBy.mpr ⟨i, hmem, hdecision⟩)
    refine Or.inl ⟨last, hlast, ?_⟩
    -- whatever was recorded last of this pair was recorded by the same call
    obtain ⟨k, -, hd⟩ := mem_recordedBy.mp (History.mem_of_last? hlast)
    obtain ⟨hactor, hrecipient⟩ := History.eq_of_last? hlast
    obtain ⟨-, time', -, rfl⟩ := Attempt.decision?_eq_some_iff.mp hd
    rw [h.eq_of_request hactor hrecipient, h.like.request]

/-- **Who checks is told of a mutual like if the other one was recorded before.** -/
theorem answer_iff (h : Meet calls store.inner i j a b) (hsteps : Interleaving steps)
    (hcheck : .check i ∈ steps) : ∃ answer : Bool,
      ((start store).run calls steps).stage i = .answered (.ok answer) ∧
      (answer = true ↔ Precedes steps (.record j) (.check i)) := by
  -- wherever the steps are parted at the check, this is the answer
  have hanswer : ∀ before after, steps = before ++ .check i :: after →
      ((start store).run calls steps).stage i =
        .answered (.ok (decide (Step.record j ∈ before))) := by
    intro before after hparted
    obtain ⟨time, hd⟩ := h.like.exists_decision?
    have hliked : (calls i).request.liked = true := by rw [h.like.request]
    have hlike := (h.likes_iff before).mpr (hsteps.record_mem hparted)
    have hback := h.symm.likes_iff before
    have hmutual : (store.inner.recordAll (recordedBy calls before)).areMutual a b =
        decide (Step.record j ∈ before) := by
      rw [Relation.areMutual, hlike, Bool.true_and, Bool.eq_iff_iff, hback, decide_eq_true_iff]
    rw [stage_run hsteps hparted hd hliked h.like.mutuals, inner_run, h.like.request]
    exact congrArg (Stage.answered ∘ Except.ok) hmutual
  obtain ⟨before, after, hparted⟩ := List.append_of_mem hcheck
  refine ⟨_, hanswer before after hparted, ?_⟩
  rw [decide_eq_true_iff]
  refine ⟨fun hmem => ⟨before, after, hparted, hmem⟩, ?_⟩
  rintro ⟨before', after', hparted', hmem'⟩
  have hsame := (hanswer before' after' hparted').symm.trans (hanswer before after hparted)
  simpa [hmem'] using hsame

end Meet

/-- Of two calls that check, one records its decision before the other checks. -/
theorem Interleaving.precedes_or (h : Interleaving steps) (hi : .check i ∈ steps)
    (hj : .check j ∈ steps) :
    Precedes steps (.record j) (.check i) ∨ Precedes steps (.record i) (.check j) := by
  obtain ⟨before, after, hparted⟩ := List.append_of_mem hi
  have hrecord := h.record_mem hparted
  rw [hparted] at hj
  rcases List.mem_append.mp hj with hbefore | hj
  · -- `j` has checked before `i` does, and has recorded its decision still earlier
    obtain ⟨early, late, rfl⟩ := List.append_of_mem hbefore
    have hearly : .record j ∈ early := h.record_mem
      (show steps = early ++ .check j :: (late ++ .check i :: after) by
        rw [hparted, List.append_assoc]; rfl)
    exact Or.inl ⟨_, after, hparted, List.mem_append_left _ hearly⟩
  · rcases List.mem_cons.mp hj with hsame | hafter
    · cases hsame
      exact Or.inl ⟨before, after, hparted, hrecord⟩
    · obtain ⟨early, late, rfl⟩ := List.append_of_mem hafter
      refine Or.inr ⟨before ++ .check i :: early, late, ?_, List.mem_append_left _ hrecord⟩
      rw [hparted, List.append_assoc]
      rfl

/-- **A match is not missed by both sides**, in whatever order the steps of all calls are made. If two
users like each other, one of the two calls is told so, and both are if both decisions are recorded
before both checks. And whoever is told of a mutual like checked when the latest decisions of both
were likes. -/
theorem matches_of_interleaving (hsteps : Interleaving steps) (calls : ι → Attempt)
    (store : MonitoredStore Relation) :
    let stage := ((start store).run calls steps).stage
    (∀ i j a b, Meet calls store.inner i j a b → .check i ∈ steps → .check j ∈ steps →
      ∃ answer answer' : Bool,
        stage i = .answered (.ok answer) ∧ stage j = .answered (.ok answer') ∧
        (answer = true ∨ answer' = true) ∧
        (answer = true ∧ answer' = true ↔
          ∀ k ∈ [i, j], ∀ l ∈ [i, j], Precedes steps (.record k) (.check l))) ∧
    ∀ k, stage k = .answered (.ok true) →
      ∃ before after, steps = before ++ .check k :: after ∧
        let history := recordedBy calls before
        let actor := (calls k).request.actor
        let recipient := (calls k).request.recipient
        history.LatestLikes store.inner actor recipient ∧
          history.LatestLikes store.inner recipient actor := by
  intro stage
  refine ⟨fun i j a b hmeet hi hj => ?_, fun k hanswer => ?_⟩
  · obtain ⟨answer, hanswer, hiff⟩ := hmeet.answer_iff hsteps hi
    obtain ⟨answer', hanswer', hiff'⟩ := hmeet.symm.answer_iff hsteps hj
    refine ⟨answer, answer', hanswer, hanswer', ?_, ?_⟩
    · rw [hiff, hiff']
      exact hsteps.precedes_or hi hj
    · have hown : ∀ {k}, .check k ∈ steps → Precedes steps (.record k) (.check k) := by
        intro k hk
        obtain ⟨before, after, hparted⟩ := List.append_of_mem hk
        exact ⟨before, after, hparted, hsteps.record_mem hparted⟩
      rw [hiff, hiff', and_comm]
      simp [hown hi, hown hj]
  · have hidle : (start store).stage k ≠ .answered (.ok true) := by
      show Stage.idle ≠ _
      nofun
    obtain ⟨before, after, hparted, hmutual⟩ := exists_check_of_answered hidle hanswer
    refine ⟨before, after, hparted, ?_⟩
    rw [inner_run, Relation.areMutual, Bool.and_eq_true, Relation.likes_recordAll_iff,
      Relation.likes_recordAll_iff] at hmutual
    exact hmutual

/-- Two users who like each other. -/
def eachOther (first : Bool) : Attempt where
  request := if first then ⟨"a", "b", true⟩ else ⟨"b", "a", true⟩
  clock := .start 0 0
  failing := ⟨false, false, false⟩

/-- Both decisions are recorded before both checks. -/
def crossed : List (Step Bool) := [.record true, .record false, .check true, .check false]

theorem matches_of_interleaving_crossed : Interleaving crossed ∧
    let stage := ((start (.new .empty)).run eachOther crossed).stage
    stage true = .answered (.ok true) ∧ stage false = .answered (.ok true) := by
  have hsteps : Interleaving crossed := by
    intro k
    cases k <;> decide
  have hclock : (Time.Clock.start 0 0).Readable := ⟨by decide, by decide⟩
  have hmeet : Meet eachOther Relation.empty true false "a" "b" :=
    { distinct := by decide
      like := ⟨rfl, hclock, rfl, rfl⟩
      returned := ⟨rfl, hclock, rfl, rfl⟩
      others := fun k htrue hfalse => by cases k <;> contradiction
      undecided := rfl
      undecided_back := rfl }
  have hprecedes : ∀ k l, Precedes crossed (.record k) (.check l) := by
    intro k l
    cases l with
    | true => exact ⟨[.record true, .record false], [.check false], rfl, by cases k <;> decide⟩
    | false =>
      exact ⟨[.record true, .record false, .check true], [], rfl, by cases k <;> decide⟩
  obtain ⟨hmatch, -⟩ := matches_of_interleaving hsteps eachOther (.new .empty)
  obtain ⟨answer, answer', hanswer, hanswer', -, hboth⟩ :=
    hmatch true false "a" "b" hmeet (by decide) (by decide)
  obtain ⟨rfl, rfl⟩ := hboth.mpr fun k _ l _ => hprecedes k l
  exact ⟨hsteps, hanswer, hanswer'⟩

/-- If the checks of one call come before the other one begins, only the other is told. -/
example :
    let s := (start (.new .empty)).run eachOther
      [.record true, .check true, .record false, .check false]
    s.stage true = .answered (.ok false) ∧ s.stage false = .answered (.ok true) :=
  ⟨rfl, rfl⟩

end Race

end LikedYou.Api
