import LikedYou.Proofs.Paging.Listed
import Mathlib.Data.List.Induction

/-!
# What is left of a history

* `Relation.verdict?_recordAll`, `Relation.decision?_ofHistory` — a relation keeps the last decision
  of each pair
* `Relation.ofHistory_congr` — and forgets how those of different pairs were mixed
* `Relation.answers_of_history` — what it answers, said by the last decisions alone

Times are part of the decisions and may be in any order: the last decision of a pair is the one that
was recorded last, also if its time is earlier.
-/

namespace LikedYou

/-- Decisions in the order in which they were recorded. -/
abbrev History := List Decision

namespace History

variable {history : History} {actor recipient : String} {d : Decision}

/-- The decisions of `actor` about `recipient`. -/
def ofPair (history : History) (actor recipient : String) : History :=
  history.filter fun d => d.actor = actor && d.recipient = recipient

/-- The last decision of `actor` about `recipient`. -/
def last? (history : History) (actor recipient : String) : Option Decision :=
  (history.ofPair actor recipient).getLast?

/-- Whether the last decision of `actor` about `recipient` is a like. -/
def Likes (history : History) (actor recipient : String) : Prop :=
  ∃ d, history.last? actor recipient = some d ∧ d.liked = true

/-- Whether the latest decision of `actor` about `recipient` is a like: the last one of the history,
or else what a relation held before it. -/
def LatestLikes (held : Relation) (history : History) (actor recipient : String) : Prop :=
  history.Likes actor recipient ∨
    history.last? actor recipient = none ∧ held.likes actor recipient = true

/-- Whether a decision belongs into a list of likes of `recipient` below a bound: it is the last one
of its pair, and for a list of those not decided about there is none the other way round. -/
structure Lists (history : History) (listing : Listing) (recipient : String)
    (before : Option Int64) (d : Decision) : Prop where
  last : history.last? d.actor recipient = some d
  liked : d.liked = true
  below : ∀ second, before = some second → d.epoch < second
  undecided : listing = .undecided → history.last? recipient d.actor = none

theorem last?_append_singleton (history : History) (d : Decision) (actor recipient : String) :
    last? (history ++ [d]) actor recipient =
      if actor = d.actor ∧ recipient = d.recipient then some d
      else history.last? actor recipient := by
  have hpair : (d.actor = actor && d.recipient = recipient) = true ↔
      actor = d.actor ∧ recipient = d.recipient := by
    rw [Bool.and_eq_true, decide_eq_true_eq, decide_eq_true_eq, eq_comm, @eq_comm _ d.recipient]
  simp only [last?, ofPair, List.filter_append, List.filter_cons, List.filter_nil, hpair]
  split
  · exact List.getLast?_concat
  · rw [List.append_nil]

theorem mem_of_last? (h : history.last? actor recipient = some d) : d ∈ history :=
  (List.mem_filter.mp (List.mem_of_getLast? h)).1

theorem exists_last? (h : d ∈ history) : ∃ last, history.last? d.actor d.recipient = some last := by
  have hmem : d ∈ history.ofPair d.actor d.recipient := List.mem_filter.mpr ⟨h, by simp⟩
  exact ⟨_, List.getLast?_eq_some_getLast (List.ne_nil_of_mem hmem)⟩

/-- The last decision of a pair is one of this pair. -/
theorem eq_of_last? (h : history.last? actor recipient = some d) :
    d.actor = actor ∧ d.recipient = recipient := by
  have hd := (List.mem_filter.mp (List.mem_of_getLast? h)).2
  simpa using hd

end History

namespace Relation

variable {history history' : History} {listing : Listing} {recipient : String}
  {before : Option Int64}

/-- Record decisions one after the other. -/
def recordAll (r : Relation) (history : History) : Relation :=
  history.foldl (fun r d => r.record d.actor d.recipient d.liked d.createdAt) r

theorem recordAll_append (r : Relation) (history history' : History) :
    r.recordAll (history ++ history') = (r.recordAll history).recordAll history' :=
  List.foldl_append

/-- **A relation keeps the last decision of each pair**, or what it held before. -/
theorem verdict?_recordAll (r : Relation) (history : History) (actor recipient : String) :
    (r.recordAll history).verdict? actor recipient =
      ((history.last? actor recipient).map fun d => ⟨d.liked, d.createdAt⟩).or
        (r.verdict? actor recipient) := by
  induction history using List.reverseRecOn with
  | nil => rfl
  | append_singleton history d ih =>
    have hrecord : r.recordAll (history ++ [d]) =
        (r.recordAll history).record d.actor d.recipient d.liked d.createdAt :=
      recordAll_append r history [d]
    rw [hrecord, verdict?_record, History.last?_append_singleton]
    split
    · rfl
    · exact ih

/-- What is left when decisions are recorded one after the other. -/
def ofHistory (history : History) : Relation :=
  history.foldl (fun r d => r.record d.actor d.recipient d.liked d.createdAt) empty

theorem verdict?_ofHistory (history : History) (actor recipient : String) :
    (ofHistory history).verdict? actor recipient =
      (history.last? actor recipient).map fun d => ⟨d.liked, d.createdAt⟩ := by
  have hempty : empty.verdict? actor recipient = none := rfl
  have hall := verdict?_recordAll empty history actor recipient
  rwa [hempty, Option.or_none] at hall

/-- The decision that is recorded last counts, also if its time is earlier. -/
example : (ofHistory [⟨"b", "a", true, ⟨5, 0⟩⟩, ⟨"b", "a", false, ⟨1, 0⟩⟩]).verdict? "b" "a" =
    some ⟨false, ⟨1, 0⟩⟩ := by decide +kernel

theorem decision?_ofHistory (history : History) (actor recipient : String) :
    (ofHistory history).decision? actor recipient = history.last? actor recipient := by
  rw [decision?, verdict?_ofHistory, Option.map_map]
  cases hlast : history.last? actor recipient with
  | none => rfl
  | some d =>
    obtain ⟨rfl, rfl⟩ := History.eq_of_last? hlast
    rfl

/-- Two relations are the same if all their verdicts are. -/
theorem ext_verdict? {r r' : Relation}
    (h : ∀ actor recipient, r.verdict? actor recipient = r'.verdict? actor recipient) : r = r' := by
  obtain ⟨verdicts⟩ := r
  obtain ⟨verdicts'⟩ := r'
  exact congrArg Relation.mk (Std.ExtTreeMap.ext_getElem? fun pair => h pair.actor pair.recipient)

/-- Only the last decision of each pair matters. -/
theorem ofHistory_congr_last
    (h : ∀ actor recipient, history'.last? actor recipient = history.last? actor recipient) :
    ofHistory history' = ofHistory history := by
  refine ext_verdict? fun actor recipient => ?_
  rw [verdict?_ofHistory, verdict?_ofHistory, h]

/-- **How the decisions of different pairs are mixed does not matter.** -/
theorem ofHistory_congr
    (h : ∀ actor recipient, history'.ofPair actor recipient = history.ofPair actor recipient) :
    ofHistory history' = ofHistory history :=
  ofHistory_congr_last fun actor recipient => congrArg List.getLast? (h actor recipient)

/-! ## Answers -/

theorem likes_ofHistory_iff {actor : String} :
    (ofHistory history).likes actor recipient = true ↔ history.Likes actor recipient := by
  rw [likes, verdict?_ofHistory, History.Likes, Option.any_map, Option.any_eq_true]

theorem likes_recordAll_iff {r : Relation} {actor : String} :
    (r.recordAll history).likes actor recipient = true ↔
      history.LatestLikes r actor recipient := by
  rw [likes, verdict?_recordAll, History.LatestLikes, History.Likes]
  cases history.last? actor recipient with
  | none => simp [likes]
  | some d => simp

theorem matches_ofHistory_iff {actor : String} {time : Time.Timestamp} :
    (ofHistory history).Matches listing recipient actor time ↔
      (∃ d, history.last? actor recipient = some d ∧ d.liked = true ∧ d.createdAt = time) ∧
        (listing = .undecided → history.last? recipient actor = none) := by
  have hlisting : listing = .everyone ∨ (ofHistory history).verdict? recipient actor = none ↔
      (listing = .undecided → history.last? recipient actor = none) := by
    rw [verdict?_ofHistory, Option.map_eq_none_iff]
    cases listing <;> simp
  rw [Matches, hlisting, verdict?_ofHistory, Option.map_eq_some_iff]
  simp only [Verdict.mk.injEq]

/-- The list of a relation holds what belongs into it by the last decisions, newest first. -/
theorem lists_iff_mem_listed {d : Decision} :
    d ∈ (ofHistory history).listed listing recipient before ↔
      history.Lists listing recipient before d := by
  rw [(isListing_listed _ _ _ _).mem_iff, matches_ofHistory_iff]
  constructor
  · rintro ⟨hrecipient, hliked, ⟨⟨d', hlast, hliked', htime⟩, hundecided⟩, hbelow⟩
    obtain ⟨hactor, hrecipient'⟩ := History.eq_of_last? hlast
    have hd : d' = d := by
      cases d
      cases d'
      cases hactor
      cases htime
      rw [Decision.mk.injEq]
      exact ⟨rfl, hrecipient'.trans hrecipient.symm, hliked'.trans hliked.symm, rfl⟩
    exact ⟨hd ▸ hlast, hliked, hbelow, hundecided⟩
  · rintro ⟨hlast, hliked, hbelow, hundecided⟩
    exact ⟨(History.eq_of_last? hlast).2, hliked, ⟨⟨d, hlast, hliked, rfl⟩, hundecided⟩, hbelow⟩

/-- The number of likes is the length of the list of all of them. -/
theorem count_eq_length_listed (r : Relation) (recipient : String) :
    r.count recipient = (r.listed .everyone recipient none).length := by
  rw [count, listed, List.length_mergeSort, List.countP_eq_length_filter]
  refine congrArg List.length (List.filter_congr fun d _ => ?_)
  simp [matching]

/-- A page has as many rows of its list as fit, and a token if there are more. -/
theorem IsListing.page_take {r : Relation} {bounds : PageBounds} {rows : List Decision}
    (h : r.IsListing listing recipient bounds.before rows) :
    (r.page listing recipient bounds).likers = (rows.take bounds.size).map Decision.toLiker ∧
      ((r.page listing recipient bounds).next.isSome = true ↔ bounds.size < rows.length) := by
  rcases h.page_cases with ⟨hlen, hpage⟩ |
    ⟨taken, last, skipped, next, rfl, htaken, -, hback, -, -, hpage⟩
  · rw [hpage, List.take_of_length_le hlen]
    exact ⟨rfl, iff_of_false Bool.false_ne_true (Nat.not_lt.mpr hlen)⟩
  · rw [hpage, ← htaken, List.take_left, List.length_append]
    exact ⟨rfl, iff_of_true rfl (Nat.lt_add_of_pos_right (List.length_pos_iff.mpr hback))⟩

/-- The actors who like `recipient`, each of them once. -/
theorem exists_actors (history : History) (recipient : String) :
    ∃ actors : List String, actors.Nodup ∧
      (∀ actor, actor ∈ actors ↔ history.Likes actor recipient) ∧
      (ofHistory history).count recipient = actors.length := by
  have h := (ofHistory history).isListing_listed .everyone recipient none
  refine ⟨_, h.nodup_actors, fun actor => ?_, ?_⟩
  · rw [← h.matches_iff]
    simp only [matches_ofHistory_iff, History.Likes]
    constructor
    · rintro ⟨time, ⟨d, hlast, hliked, -⟩, -⟩
      exact ⟨d, hlast, hliked⟩
    · rintro ⟨d, hlast, hliked⟩
      exact ⟨_, ⟨d, hlast, hliked, rfl⟩, nofun⟩
  · rw [count_eq_length_listed, List.length_map]

theorem areMutual_ofHistory_iff {a b : String} :
    (ofHistory history).areMutual a b = true ↔ history.Likes a b ∧ history.Likes b a := by
  rw [areMutual, Bool.and_eq_true, likes_ofHistory_iff, likes_ofHistory_iff]

theorem likes_record (r : Relation) (a b a' b' : String) (liked : Bool) (time : Time.Timestamp) :
    (r.record a b liked time).likes a' b' = if a' = a ∧ b' = b then liked else r.likes a' b' := by
  rw [likes, verdict?_record]
  split
  · rfl
  · rfl

/-- A like of another user makes them mutual if it is returned already. -/
theorem areMutual_record {a b : String} (h : a ≠ b) (r : Relation) (time : Time.Timestamp) :
    (r.record a b true time).areMutual a b = r.likes b a := by
  rw [areMutual, likes_record, likes_record, if_pos ⟨rfl, rfl⟩, if_neg fun he => h he.2,
    Bool.true_and]

theorem areMutual_comm (r : Relation) (a b : String) : r.areMutual a b = r.areMutual b a :=
  Bool.and_comm _ _

/-- **What a relation answers after any history is said by the last decision of each pair.** Lists
hold what belongs into them, newest first, and are cut to the size of a page. The number of likes is
that of the actors who like, and users are mutual if each likes the other. Two histories with the
same decisions for each pair leave the same relation. -/
theorem answers_of_history (history : History) :
    let store := ofHistory history
    (∀ listing recipient (bounds : PageBounds), ∃ rows : List Decision, ∃ page : Page,
      (∀ d, d ∈ rows ↔ history.Lists listing recipient bounds.before d) ∧
      rows.Pairwise Decision.Precedes ∧
      DecisionStore.likers listing recipient bounds store = (.ok page, store) ∧
      page.likers = (rows.take bounds.size).map Decision.toLiker ∧
      (page.next.isSome = true ↔ bounds.size < rows.length)) ∧
    (∀ recipient, ∃ actors : List String,
      actors.Nodup ∧ (∀ actor, actor ∈ actors ↔ history.Likes actor recipient) ∧
      DecisionStore.count recipient store = (.ok (UInt64.ofNat actors.length), store)) ∧
    (∀ a b, ∃ answer : Bool,
      DecisionStore.areMutual a b store = (.ok answer, store) ∧
      DecisionStore.areMutual b a store = (.ok answer, store) ∧
      (answer = true ↔ history.Likes a b ∧ history.Likes b a)) ∧
    (∀ history' : History,
      (∀ actor recipient, history'.last? actor recipient = history.last? actor recipient) →
      ofHistory history' = store) ∧
    ∀ history' : History,
      (∀ actor recipient, history'.ofPair actor recipient = history.ofPair actor recipient) →
      ofHistory history' = store := by
  refine ⟨fun listing recipient bounds => ?_, fun recipient => ?_, fun a b => ?_,
    fun history' h => ofHistory_congr_last h, fun history' h => ofHistory_congr h⟩
  · have h := (ofHistory history).isListing_listed listing recipient bounds.before
    obtain ⟨hlikers, hnext⟩ := h.page_take
    exact ⟨_, _, fun d => lists_iff_mem_listed, h.sorted, rfl, hlikers, hnext⟩
  · obtain ⟨actors, hnodup, hmem, hcount⟩ := exists_actors history recipient
    refine ⟨actors, hnodup, hmem, ?_⟩
    rw [← hcount]
    rfl
  · refine ⟨(ofHistory history).areMutual a b, rfl, ?_, areMutual_ofHistory_iff⟩
    rw [areMutual_comm]
    rfl

end Relation

end LikedYou
