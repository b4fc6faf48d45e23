import LikedYou.Proofs.Cache.Calls

/-!
# Rounds of writes of a durable cache

* `Durable.WrittenIn` — whether a run writes a row
* `Durable.writtenIn_or_row?`, `Durable.row?_run` — what is stored after a run, and what stays in it
* `Durable.exists_due` — in 64 writes there is one that purges
* `Durable.Round` — a time in which 64 writes are tried
* `Durable.round_clears` — what is over when a round begins is gone when it ends, and what is not over
  when it ends is kept

When a round begins the counter of writes may stand anywhere, and opening the cache once more sets it
to zero. That only brings the next purge forward, and a purge finds all that is over.
-/

namespace LikedYou.Durable

variable {c : Durable} {clock start finish : Time.Clock} {calls calls' : List (Time.Clock × Call)}
  {key value : String} {ttl : Time.Duration} {bytes row : Bytes}

/-! ## Runs -/

/-- Whether one of some calls writes a row. -/
def WrittenIn (c : Durable) (calls : List (Time.Clock × Call)) (bytes row : Bytes) : Prop :=
  Sometime (fun c next => c.serve next.1 next.2) (fun c next => c.Writes next.1 bytes row next.2)
    c calls

theorem run_append (c : Durable) (calls calls' : List (Time.Clock × Call)) :
    c.run (calls ++ calls') = (c.run calls).run calls' := List.foldl_append

theorem writtenIn_append :
    c.WrittenIn (calls ++ calls') bytes row ↔
      c.WrittenIn calls bytes row ∨ (c.run calls).WrittenIn calls' bytes row := sometime_append

/-- **What is stored after a run was written in it, or was there before.** -/
theorem writtenIn_or_row? (hreadable : ∀ next ∈ calls, next.1.Readable)
    (h : (c.run calls).row? bytes = some row) :
    c.WrittenIn calls bytes row ∨ c.row? bytes = some row := by
  induction calls generalizing c with
  | nil => exact Or.inr h
  | cons next calls ih =>
    obtain ⟨hnext, hrest⟩ := List.forall_mem_cons.mp hreadable
    rcases ih hrest h with hwritten | hrow
    · exact Or.inl (Or.inr hwritten)
    · exact (writes_or_row? hnext hrow).imp_left Or.inl

/-- **What is not over in a run stays, unless the run changes it.** -/
theorem row?_run (hreadable : ∀ next ∈ calls, next.1.Readable)
    (hlive : ∀ next ∈ calls, ¬ IsOver next.1.millisecond row) (hnot : ¬ ChangedIn serve c calls key)
    (hrow : c.row? (Utf8.ofString key) = some row) :
    (c.run calls).row? (Utf8.ofString key) = some row := by
  refine foldl_of_not_sometime (K := fun c => c.row? (Utf8.ofString key) = some row) ?_ hnot hrow
  intro c next hnext hrow hnot
  exact row?_serve (hreadable next hnext) hrow (hlive next hnext) hnot

/-! ## The next purge -/

/-- Whether a call is a write. -/
def Call.isWrite : Call → Bool
  | .set _ _ _ => true
  | _ => false

/-- **In enough writes there is one that purges.** That many are left until the counter is a multiple
of 64, and the one that finds it so. -/
theorem exists_due (hreadable : ∀ next ∈ calls, next.1.Readable)
    (h : (purgeEvery - c.writes % purgeEvery) % purgeEvery < calls.countP (·.2.isWrite)) :
    ∃ earlier clock key value ttl later, calls = earlier ++ (clock, .set key value ttl) :: later ∧
      (c.run earlier).writes % purgeEvery = 0 := by
  induction calls generalizing c with
  | nil => cases h
  | cons next calls ih =>
    obtain ⟨clock, call⟩ := next
    obtain ⟨hclock, hrest⟩ := List.forall_mem_cons.mp hreadable
    have hwrites := writes_serve hclock c call
    have hlater : (purgeEvery - (c.serve clock call).writes % purgeEvery) % purgeEvery <
        calls.countP (·.2.isWrite) →
          ∃ earlier clock' key value ttl later,
            (clock, call) :: calls = earlier ++ (clock', .set key value ttl) :: later ∧
              (c.run earlier).writes % purgeEvery = 0 := by
      intro hcount
      obtain ⟨earlier, clock', key, value, ttl, later, rfl, hdue⟩ := ih hrest hcount
      exact ⟨(clock, call) :: earlier, clock', key, value, ttl, later, rfl, hdue⟩
    rw [List.countP_cons] at h
    cases call with
    | set key value ttl =>
      by_cases hdue : c.writes % purgeEvery = 0
      · exact ⟨[], clock, key, value, ttl, calls, rfl, hdue⟩
      · refine hlater ?_
        simp only [Call.isWrite, if_true, purgeEvery] at h hdue hwrites ⊢
        omega
    | reopen =>
      refine hlater ?_
      simp only [Call.isWrite, Bool.false_eq_true, if_false, purgeEvery] at h hwrites ⊢
      omega
    | _ =>
      refine hlater ?_
      rw [hwrites]
      exact h

/-- A write whose turn it is to purge leaves nothing of before that is over. -/
theorem writes_or_live (hclock : clock.Readable) (hindexed : c.Indexed)
    (hdue : c.writes % purgeEvery = 0)
    (h : (c.serve clock (.set key value ttl)).row? bytes = some row) :
    c.Writes clock bytes row (.set key value ttl) ∨
      c.row? bytes = some row ∧ ¬ IsOver clock.millisecond row := by
  rcases writes_or_row?_countWrite hclock h with hwrites | hrow
  · exact Or.inl hwrites
  · obtain ⟨tables, hpurge, -, hentries⟩ := Tables.Indexed.purge hindexed clock.millisecond
    right
    have hleft : tables.row? bytes = some row := by
      rw [countWrite, if_pos hdue, purge, hpurge] at hrow
      exact hrow
    rw [Tables.row?, hentries, Std.ExtTreeMap.getElem?_filter', Option.filter_eq_some_iff] at hleft
    refine ⟨hleft.1, ?_⟩
    simpa using hleft.2

/-! ## Rounds -/

/-- Whether some calls are made between two times and are a round: at least 64 of them are writes, be
it that they succeed or that they fail. -/
structure Round (start finish : Time.Clock) (calls : List (Time.Clock × Call)) : Prop where
  readable : ∀ next ∈ calls, next.1.Readable
  after : ∀ next ∈ calls, start.wall ≤ next.1.wall
  before : ∀ next ∈ calls, next.1.wall ≤ finish.wall
  closes : finish.Readable
  writes : purgeEvery ≤ calls.countP (·.2.isWrite)

namespace Round

theorem not_isOver (h : Round start finish calls) (hlive : ¬ IsOver finish.millisecond row) :
    ∀ next ∈ calls, ¬ IsOver next.1.millisecond row := by
  intro next hnext hover
  exact hlive (hover.mono (Time.Clock.millisecond_le h.closes (h.before next hnext)))

/-- **What is stored after a round was written in it, or was there before and not over then.** -/
theorem writtenIn_or_live (h : Round start finish calls) (hindexed : c.Indexed)
    (hrow : (c.run calls).row? bytes = some row) :
    c.WrittenIn calls bytes row ∨ c.row? bytes = some row ∧ ¬ IsOver start.millisecond row := by
  obtain ⟨earlier, clock, key, value, ttl, later, rfl, hdue⟩ :=
    exists_due (c := c) h.readable (Nat.lt_of_lt_of_le (Nat.mod_lt _ (by decide)) h.writes)
  obtain ⟨hearlier, hrest⟩ := List.forall_mem_append.mp h.readable
  obtain ⟨hclock, hlater⟩ := List.forall_mem_cons.mp hrest
  rw [run_append] at hrow
  rw [writtenIn_append]
  -- back through the calls after the purge, the purge, and the calls before it
  rcases writtenIn_or_row? hlater hrow with hwritten | hrow
  · exact Or.inl (Or.inr (Or.inr hwritten))
  rcases writes_or_live hclock (hindexed.run earlier) hdue hrow with hwrites | ⟨hrow, hlive⟩
  · exact Or.inl (Or.inr (Or.inl hwrites))
  rcases writtenIn_or_row? hearlier hrow with hwritten | hrow
  · exact Or.inl (Or.inl hwritten)
  right
  refine ⟨hrow, fun hover => hlive (hover.mono ?_)⟩
  exact Time.Clock.millisecond_le hclock (h.after _ (by simp))

end Round

/-- **A round of writes clears what is over.** Whatever room there is, after any calls by any clocks, in
a round of calls among which there are 64 writes, failed ones included,
* what was over when the round began goes, or a write of the round comes in its place;
* what is stored at any moment of the round, and not over when it ends, stays as it is, unless a later
  call of the round changes it without failing. -/
theorem round_clears (room : Room) (calls : List (Time.Clock × Call))
    {start finish : Time.Clock} {round : List (Time.Clock × Call)}
    (hround : Round start finish round) :
    let c := (Durable.new room).run calls
    (∀ bytes row, c.row? bytes = some row → IsOver start.millisecond row →
      (c.run round).row? bytes = none ∨
        ∃ row', (c.run round).row? bytes = some row' ∧ c.WrittenIn round bytes row') ∧
    ∀ earlier later, round = earlier ++ later → ∀ key row,
      (c.run earlier).row? (Utf8.ofString key) = some row → ¬ IsOver finish.millisecond row →
      ¬ ChangedIn serve (c.run earlier) later key →
        (c.run round).row? (Utf8.ofString key) = some row := by
  intro c
  have hindexed : c.Indexed := (Indexed.new room).run calls
  refine ⟨?_, ?_⟩
  · intro bytes row hrow hover
    cases hleft : (c.run round).row? bytes with
    | none => exact Or.inl rfl
    | some row' =>
      rcases hround.writtenIn_or_live hindexed hleft with hwritten | ⟨hrow', hlive⟩
      · exact Or.inr ⟨row', rfl, hwritten⟩
      · rw [hrow] at hrow'
        cases hrow'
        exact absurd hover hlive
  · rintro earlier later rfl key row hrow hlive hnot
    rw [run_append]
    refine row?_run (fun next hnext => ?_) (fun next hnext => ?_) hnot hrow
    · exact hround.readable next (List.mem_append_right earlier hnext)
    · exact hround.not_isOver hlive next (List.mem_append_right earlier hnext)

/-- A text is not kept at all, and another one for an hour. -/
def shortAndLong : List (Time.Clock × Call) :=
  [(.start 1000 0, .set "a" "x" 0), (.start 1000 0, .set "c" "z" (.ofSeconds 3600))]

/-- A minute later another text is written again and again. Where there is room for two entries, the
first of these writes finds the map full and purges it. -/
def again : List (Time.Clock × Call) :=
  List.replicate 64 (.start 61000 0, .set "b" "y" (.ofSeconds 60))

theorem round_clears_again :
    Round (.start 61000 0) (.start 61000 0) again ∧
      let c := (Durable.new (.ofBytes 20)).run shortAndLong
      c.row? (Utf8.ofString "a") = some (encodeEntry "x" 1000) ∧
        (c.run again).row? (Utf8.ofString "a") = none ∧
        (c.run again).row? (Utf8.ofString "c") = some (encodeEntry "z" 3601000) := by
  have hnext : ∀ next ∈ again,
      next = (.start 61000 0, .set "b" "y" (.ofSeconds 60)) := fun next hnext =>
    List.eq_of_mem_replicate hnext
  have hreadable : (Time.Clock.start 61000 0).Readable := ⟨by decide, by decide⟩
  have hround : Round (.start 61000 0) (.start 61000 0) again := by
    refine ⟨?_, ?_, ?_, hreadable, by decide⟩
    · intro next hmem
      obtain rfl := hnext next hmem
      exact hreadable
    · intro next hmem
      obtain rfl := hnext next hmem
      exact Int.le_refl _
    · intro next hmem
      obtain rfl := hnext next hmem
      exact Int.le_refl _
  obtain ⟨hover, hlive⟩ := round_clears (.ofBytes 20) shortAndLong hround
  have hrow : ((Durable.new (.ofBytes 20)).run shortAndLong).row? (Utf8.ofString "a") =
    some (encodeEntry "x" 1000) := by decide +kernel
  refine ⟨hround, hrow, ?_, ?_⟩
  · rcases hover _ _ hrow (by decide +kernel) with hgone | ⟨row', -, hwritten⟩
    · exact hgone
    · -- no write of the round is under that key
      obtain ⟨next, hmem, c', hwrites⟩ := Sometime.exists_mem hwritten
      obtain rfl := hnext next hmem
      exact absurd (Utf8.ofString_injective hwrites.1) (by decide)
  · refine hlive [] again rfl "c" _ (by decide +kernel) (by decide +kernel) ?_
    intro hchanged
    obtain ⟨next, hmem, c', hchanges⟩ := Sometime.exists_mem hchanged
    obtain rfl := hnext next hmem
    exact absurd hchanges.1 (by decide)

end LikedYou.Durable
