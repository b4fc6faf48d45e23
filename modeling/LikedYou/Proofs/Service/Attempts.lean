import LikedYou.Proofs.Service.Accounting
import LikedYou.Proofs.Store.History
import Mathlib.Data.List.Basic

/-!
# Attempts to decide

* `Attempt.recorded?` — the decision that is left of a request, whatever was replied
* `Service.attempt_cases` — an attempt changes nothing, or records its decision and replies to it
* `Service.inner_afterAll` — the relation after any attempts is that of the decisions left of them
* `Service.mutual_likes` — so replies tell of mutual likes by the last decisions alone

A like may be recorded although its reply is an error. It counts from then on as any other.
-/

namespace LikedYou.Api

/-- A request to record a decision, when it is made, and what fails meanwhile. -/
structure Attempt where
  request : PutRequest
  clock : Time.Clock
  failing : StoreSwitches

namespace Attempt

variable {a : Attempt} {d : Decision}

/-- The decision that is recorded, if recording does not fail. -/
def decision? (a : Attempt) : Option Decision :=
  match a.failing.record, a.clock.now with
  | false, .ok time => some ⟨a.request.actor, a.request.recipient, a.request.liked, time⟩
  | _, _ => none

theorem decision?_eq_some_iff : a.decision? = some d ↔ a.failing.record = false ∧
    ∃ time, a.clock.now = .ok time ∧
      d = ⟨a.request.actor, a.request.recipient, a.request.liked, time⟩ := by
  unfold decision?
  split
  · next time hrecord hnow => simp [hrecord, hnow, eq_comm]
  · next hnot =>
    refine iff_of_false nofun ?_
    rintro ⟨hrecord, time, hnow, -⟩
    exact hnot time hrecord hnow

/-- The decision that is left of it. A request that does not name two users is refused before. -/
def recorded? (a : Attempt) : Option Decision :=
  if a.request.actor = "" ∨ a.request.recipient = "" ∨ a.request.actor = a.request.recipient then
    none
  else a.decision?

theorem recorded?_of_validate_eq_ok (h : a.request.validate = .ok ()) :
    a.recorded? = a.decision? := by
  obtain ⟨hactor, hrecipient, hother⟩ := validate_eq_ok_iff.mp h
  refine if_neg ?_
  rintro (hempty | hempty | hsame)
  · exact hactor hempty
  · exact hrecipient hempty
  · exact hother hsame

theorem recorded?_of_validate_eq_error {f : Fault} (h : a.request.validate = .error f) :
    a.recorded? = none := by
  refine if_pos (Decidable.byContradiction fun hright => ?_)
  rw [not_or, not_or] at hright
  rw [validate_eq_ok_iff.mpr hright] at h
  cases h

/-- What is recorded is what was asked. -/
theorem eq_of_recorded? (h : a.recorded? = some d) : a.request.validate = .ok () ∧
    a.failing.record = false ∧ ∃ time, a.clock.now = .ok time ∧
      d = ⟨a.request.actor, a.request.recipient, a.request.liked, time⟩ := by
  rcases hvalid : a.request.validate with f | _
  · rw [recorded?_of_validate_eq_error hvalid] at h
    cases h
  · rw [recorded?_of_validate_eq_ok hvalid] at h
    exact ⟨rfl, decision?_eq_some_iff.mp h⟩

/-- The last decision that is left names two users. -/
theorem names_of_last? {attempts : List Attempt} {actor recipient : String}
    (h : History.last? (attempts.filterMap recorded?) actor recipient = some d) :
    actor ≠ "" ∧ recipient ≠ "" ∧ actor ≠ recipient := by
  obtain ⟨rfl, rfl⟩ := History.eq_of_last? h
  obtain ⟨a, -, hrecorded⟩ := List.mem_filterMap.mp (History.mem_of_last? h)
  obtain ⟨hvalid, -, time, -, rfl⟩ := eq_of_recorded? hrecorded
  exact validate_eq_ok_iff.mp hvalid

end Attempt

namespace Service

/-! ## One attempt -/

/-- A service whose store is made to fail. -/
def facing (s : Monitored) (failing : StoreSwitches) : Monitored :=
  { s with store := { s.store with failing } }

/-- Make an attempt. -/
def attempt (s : Monitored) (a : Attempt) : Except Breakdown (Except Error Reply × Monitored) :=
  (facing s a.failing).handle (.put a.request) a.clock

variable {s s' : Monitored} {a : Attempt} {d : Decision} {reply : Except Error Reply}

/-- **An attempt changes no decision and is refused or fails, or its decision is recorded and what is
replied depends on the relation then.** -/
theorem attempt_cases (h : attempt s a = .ok (reply, s')) :
    (a.recorded? = none ∧ (a.request.validate = .ok () → a.failing.record = true) ∧
      s'.store.inner = s.store.inner ∧ ∃ e, reply = .error e) ∨
    ∃ d, a.recorded? = some d ∧
      s'.store.inner = s.store.inner.record d.actor d.recipient d.liked d.createdAt ∧
      reply =
        if !d.liked then .ok (.put ⟨false⟩)
        else if a.failing.mutuals then .error ⟨.internalError, "failed to check mutual like"⟩
        else .ok (.put ⟨s'.store.inner.areMutual d.actor d.recipient⟩) := by
  rcases hvalid : a.request.validate with f | _
  · left
    have hcheck : (Request.put a.request).check = .error f := hvalid
    rw [attempt, handle_of_check hcheck] at h
    cases h
    exact ⟨Attempt.recorded?_of_validate_eq_error hvalid, nofun, rfl, _, rfl⟩
  · have haccount := decisionAccount hvalid h
    rw [Attempt.recorded?_of_validate_eq_ok hvalid]
    cases hrecord : a.failing.record with
    | true =>
      left
      refine ⟨?_, fun _ => rfl, haccount.unrecorded hrecord, ?_⟩
      · rw [Attempt.decision?, hrecord]
      · rw [haccount.reply]
        exact ⟨_, if_pos hrecord⟩
    | false =>
      right
      obtain ⟨time, hnow, hinner⟩ := haccount.recorded hrecord
      refine ⟨_, Attempt.decision?_eq_some_iff.mpr ⟨hrecord, time, hnow, rfl⟩, hinner, ?_⟩
      rw [haccount.reply]
      exact if_neg (Bool.eq_false_iff.mp hrecord)

/-- There is a reply if the decision is recorded. -/
theorem exists_attempt_eq (s : Monitored) (h : a.recorded? = some d) :
    ∃ reply s', attempt s a = .ok (reply, s') := by
  obtain ⟨-, -, time, hnow, -⟩ := Attempt.eq_of_recorded? h
  exact exists_handle (Time.Clock.readable_of_now hnow) _ _

/-! ## Many attempts -/

/-- What is left after an attempt, and after several. -/
def after (s : Monitored) (a : Attempt) : Monitored :=
  match attempt s a with
  | .ok (_, s') => s'
  | .error _ => s

@[inherit_doc after] def afterAll (s : Monitored) (attempts : List Attempt) : Monitored :=
  attempts.foldl after s

theorem inner_after (s : Monitored) (a : Attempt) :
    (after s a).store.inner = s.store.inner.recordAll a.recorded?.toList := by
  unfold after
  split
  · next reply s' h =>
    rcases attempt_cases h with ⟨hnone, -, hinner, -⟩ | ⟨d, hsome, hinner, -⟩
    · rw [hnone, hinner]
      rfl
    · rw [hsome, hinner]
      rfl
  · next b h =>
    cases hrecorded : a.recorded? with
    | none => rfl
    | some d =>
      obtain ⟨reply, s', hok⟩ := exists_attempt_eq s hrecorded
      rw [h] at hok
      cases hok

/-- **The relation after any attempts is that of the decisions that are left of them.** -/
theorem inner_afterAll (s : Monitored) (attempts : List Attempt) :
    (afterAll s attempts).store.inner =
      s.store.inner.recordAll (attempts.filterMap Attempt.recorded?) := by
  induction attempts generalizing s with
  | nil => rfl
  | cons a attempts ih =>
    rw [afterAll, List.foldl_cons, ← afterAll, ih, inner_after, ← Relation.recordAll_append]
    rw [List.filterMap_eq_flatMap_toList, List.filterMap_eq_flatMap_toList, List.flatMap_cons]

/-! ## Mutual likes -/

section

variable {attempts : List Attempt}

/-- The decisions that are left of attempts name two users. -/
theorem names_of_mem_decisions
    (hd : d ∈ (Relation.ofHistory (attempts.filterMap Attempt.recorded?)).decisions) :
    d.actor ≠ "" ∧ d.recipient ≠ "" ∧ d.actor ≠ d.recipient := by
  have hverdict := Relation.mem_decisions.mp hd
  rw [Relation.verdict?_ofHistory, Option.map_eq_some_iff] at hverdict
  obtain ⟨last, hlast, -⟩ := hverdict
  exact Attempt.names_of_last? hlast

/-- **A reply tells of a mutual like if the like is returned by the last decision of the recipient**,
and nothing fails. -/
theorem mutual_iff (hstore : s.store.inner = .ofHistory (attempts.filterMap Attempt.recorded?))
    (h : attempt s a = .ok (reply, s')) :
    reply = .ok (.put ⟨true⟩) ↔
      a.request.liked = true ∧ a.failing.record = false ∧ a.failing.mutuals = false ∧
        History.Likes (attempts.filterMap Attempt.recorded?) a.request.recipient
          a.request.actor := by
  rcases attempt_cases h with ⟨-, hfails, -, e, rfl⟩ | ⟨d, hd, hinner, rfl⟩
  · refine iff_of_false nofun ?_
    rintro ⟨-, hrecord, -, last, hlast, -⟩
    -- who was decided about is named, and so is who decided
    obtain ⟨hrecipient, hactor, hother⟩ := Attempt.names_of_last? hlast
    rw [hfails (validate_eq_ok_iff.mpr ⟨hactor, hrecipient, hother.symm⟩)] at hrecord
    cases hrecord
  · obtain ⟨hvalid, hrecord, time, -, rfl⟩ := Attempt.eq_of_recorded? hd
    obtain ⟨-, -, hother⟩ := validate_eq_ok_iff.mp hvalid
    cases hliked : a.request.liked with
    | false => exact iff_of_false nofun fun hall => nomatch hall.1
    | true =>
      cases hmutuals : a.failing.mutuals with
      | true => exact iff_of_false nofun fun hall => nomatch hall.2.2.1
      | false =>
        rw [← Relation.likes_ofHistory_iff, ← hstore, hinner, hliked,
          Relation.areMutual_record hother]
        simp [hrecord]

/-- **Replies tell of mutual likes by the decisions that were recorded**, whatever was replied to them
and whatever failed. A pass is never mutual. Where recording fails, the relation stays as it was, and
where the check fails, the like is recorded all the same and nothing else changes. What is stored
names two users, and is one decision for each pair. -/
theorem mutual_likes (cache : ReadThrough (MonitoredCache Backend)) (attempts : List Attempt) :
    let s : Monitored := afterAll ⟨.new .empty, cache⟩ attempts
    let history : History := attempts.filterMap Attempt.recorded?
    s.store.inner = .ofHistory history ∧
    (∀ d ∈ s.store.inner.decisions, d.actor ≠ "" ∧ d.recipient ≠ "" ∧ d.actor ≠ d.recipient) ∧
    (s.store.inner.decisions.Pairwise fun d d' => d.recipient = d'.recipient → d.actor ≠ d'.actor) ∧
    ∀ a : Attempt,
      (a.clock.Readable → ∃ reply s', attempt s a = .ok (reply, s')) ∧
      ∀ reply s', attempt s a = .ok (reply, s') →
        (reply = .ok (.put ⟨true⟩) ↔
          a.request.liked = true ∧ a.failing.record = false ∧ a.failing.mutuals = false ∧
            history.Likes a.request.recipient a.request.actor) ∧
        (a.request.liked = false → reply ≠ .ok (.put ⟨true⟩) ∧
          ∀ d, a.recorded? = some d → reply = .ok (.put ⟨false⟩)) ∧
        (a.failing.record = true → s'.store.inner = s.store.inner) ∧
        (a.request.liked = true → a.failing.mutuals = true → ∀ d, a.recorded? = some d →
          reply = .error ⟨.internalError, "failed to check mutual like"⟩ ∧
          ∀ actor recipient, s'.store.inner.verdict? actor recipient =
            if actor = a.request.actor ∧ recipient = a.request.recipient then
              some ⟨true, d.createdAt⟩
            else s.store.inner.verdict? actor recipient) := by
  intro s history
  have hstore : s.store.inner = .ofHistory history := inner_afterAll _ attempts
  refine ⟨hstore, fun d hd => names_of_mem_decisions (hstore ▸ hd), Relation.pairwise_decisions _,
    fun a => ⟨fun hclock => exists_handle hclock _ _, fun reply s' h => ?_⟩⟩
  have hmutual := mutual_iff hstore h
  have hcases := attempt_cases h
  refine ⟨hmutual, fun hpass => ⟨fun htrue => ?_, fun d hd => ?_⟩, fun hfails => ?_,
    fun hliked hfails d hd => ?_⟩
  · rw [(hmutual.mp htrue).1] at hpass
    cases hpass
  · rcases hcases with ⟨hnone, -⟩ | ⟨d', hd', -, hreply⟩
    · rw [hnone] at hd
      cases hd
    · obtain ⟨-, -, time, -, rfl⟩ := Attempt.eq_of_recorded? hd'
      rw [hreply, hpass]
      rfl
  · rcases hcases with ⟨-, -, hinner, -⟩ | ⟨d', hd', -⟩
    · exact hinner
    · obtain ⟨-, hworks, -⟩ := Attempt.eq_of_recorded? hd'
      rw [hworks] at hfails
      cases hfails
  · rcases hcases with ⟨hnone, -⟩ | ⟨d', hd', hinner, hreply⟩
    · rw [hnone] at hd
      cases hd
    · obtain rfl := Option.some.inj (hd.symm.trans hd')
      obtain ⟨-, -, time, -, rfl⟩ := Attempt.eq_of_recorded? hd
      refine ⟨?_, fun actor recipient => ?_⟩
      · rw [hreply, hliked, hfails]
        rfl
      · rw [hinner, Relation.verdict?_record, hliked]

/-- A like counts although its check failed: the next one completes it. -/
example :
    let unchecked : Attempt := ⟨⟨"a", "b", true⟩, .start 0 0, ⟨false, false, true⟩⟩
    let returned : Attempt := ⟨⟨"b", "a", true⟩, .start 0 0, ⟨false, false, false⟩⟩
    (attempt (after ⟨.new .empty, spoiled.cache⟩ unchecked) returned).toOption.map (·.1) =
      some (.ok (.put ⟨true⟩)) := by decide +kernel

end

end Service

end LikedYou.Api
