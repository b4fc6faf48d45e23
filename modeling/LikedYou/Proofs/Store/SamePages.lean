import LikedYou.Proofs.Sql.Answer
import LikedYou.Proofs.Store.Postgres
import LikedYou.Sql.Script

/-!
# A database and a relation give the same pages

* `Postgres.likers_of_answer` — the page that is made of an answer
* `Postgres.same_pages` — a store in a database that answers as the text reads gives the pages of the
  relation that it holds

The two stores select likers each in its own way: one says in a text what it wants, the other filters and
sorts. That they agree needs whole seconds, since the text compares seconds only, and different ones,
since the text does not say in which order likes of one second come.
-/

namespace LikedYou.Postgres

variable {δ : Type} [Sql.Database δ] {s : Postgres δ} {r : Relation} {listing : Listing}
  {recipient : String} {bounds : PageBounds} {t : Sql.Table}

theorem likers_of_ask {rows : List Liker}
    (hask : (s.ask (.prepared (Sql.keyset listing recipient bounds))).1 = .ok t)
    (hrows : likersOf t = .ok rows) :
    (DecisionStore.likers listing recipient bounds s).1 = .ok (Page.assemble rows bounds) := by
  show (s.query _ _).1 = _
  rw [query_eq]
  rcases hresult : s.ask (.prepared (Sql.keyset listing recipient bounds)) with ⟨f | t', s'⟩
  · rw [hresult] at hask
    cases hask
  · rw [hresult] at hask
    cases hask
    simp only [told, hrows]
    rfl

/-- The page that is made of an answer is that of the relation. -/
theorem likers_of_answer (hspaced : r.Spaced)
    (hask : (s.ask (.prepared (Sql.keyset listing recipient bounds))).1 = .ok t)
    (hanswer : (Sql.keyset listing recipient bounds).IsAnsweredBy r t) :
    (DecisionStore.likers listing recipient bounds s).1 = .ok (r.page listing recipient bounds) := by
  obtain ⟨select, hread, hcolumns, all, limit, hmatching, hlimit, -, hrows⟩ := hanswer
  rw [Sql.read?_keyset] at hread
  cases hread
  have hlisting := Sql.isListing_of_matching hspaced hmatching
  have hfetch := Sql.toInt_fetchSize bounds
  rw [Sql.keyset, Sql.paramAt?_limit] at hlimit
  cases hlimit
  have hsize : bounds.fetchSize.toInt.toNat = bounds.size + 1 := by omega
  rw [hsize] at hrows
  have hwhole : ∀ d ∈ all.take (bounds.size + 1), d.createdAt.nanos = 0 := fun d hd =>
    hspaced.whole d ((hmatching.mem_iff d).mp (List.mem_of_mem_take hd)).1
  rw [likers_of_ask hask (Sql.likersOf_eq hcolumns hwhole hrows), Relation.page, hlisting.listed_eq]

/-- **A store in a database gives the pages of the relation that the database holds.**
* The places in the text of a query are those of its parameters, each of them once.
* The text depends on the listing and on whether there is a bound, and on nothing else.
* It reads as a selection, which every relation has an answer to.
* If likes of one recipient are at different whole seconds and the database answers as the text reads,
  then the likers and the token are those of the relation itself. -/
theorem same_pages (listing : Listing) (recipient : String) (bounds : PageBounds) :
    let statement := Sql.keyset listing recipient bounds
    Sql.places statement.text = List.range' 1 statement.params.length ∧
    (∀ (recipient' : String) (bounds' : PageBounds), bounds'.before.isSome = bounds.before.isSome →
      (Sql.keyset listing recipient' bounds').text = statement.text) ∧
    ∀ r : Relation, r.Spaced →
      (∃ t, statement.IsAnsweredBy r t) ∧
      ∀ (δ : Type) [Sql.Database δ] (s : Postgres δ) (t : Sql.Table),
        (s.ask (.prepared statement)).1 = .ok t → statement.IsAnsweredBy r t →
        (DecisionStore.likers listing recipient bounds s).1 =
          (DecisionStore.likers listing recipient bounds r).1 := by
  intro statement
  refine ⟨Sql.places_keyset listing recipient bounds, fun recipient' bounds' hsome => ?_,
    fun r hspaced => ⟨⟨_, Sql.isAnsweredBy_tableOf hspaced listing recipient bounds⟩, ?_⟩⟩
  · simp only [statement, Sql.keyset, hsome]
  · intro δ _ s t hask hanswer
    exact likers_of_answer hspaced hask hanswer

/-- Four likes, one of which was answered. -/
def fourLikes : Relation :=
  ((((Relation.empty.record "a" "R" true ⟨100, 0⟩).record "b" "R" true ⟨200, 0⟩).record
    "c" "R" true ⟨300, 0⟩).record "d" "R" true ⟨400, 0⟩).record "R" "b" false ⟨250, 0⟩

/-- A page of one liker below a second. -/
def oneBelow400 : PageBounds := ⟨some 400, 1, by decide⟩

theorem decisions_fourLikes : fourLikes.decisions =
    [⟨"R", "b", false, ⟨250, 0⟩⟩, ⟨"a", "R", true, ⟨100, 0⟩⟩, ⟨"b", "R", true, ⟨200, 0⟩⟩,
      ⟨"c", "R", true, ⟨300, 0⟩⟩, ⟨"d", "R", true, ⟨400, 0⟩⟩] := by decide +kernel

theorem spaced_fourLikes : fourLikes.Spaced := by
  refine ⟨?_, ?_⟩
  · rw [decisions_fourLikes]
    decide
  · rw [decisions_fourLikes]
    decide

theorem listed_fourLikes : fourLikes.listed .undecided "R" (some 400) =
    [⟨"c", "R", true, ⟨300, 0⟩⟩, ⟨"a", "R", true, ⟨100, 0⟩⟩] := by
  have hmatching : fourLikes.decisions.filter (fourLikes.matching .undecided "R" (some 400)) =
      [⟨"a", "R", true, ⟨100, 0⟩⟩, ⟨"c", "R", true, ⟨300, 0⟩⟩] := by decide +kernel
  have hnewer : Relation.newestFirst ⟨"a", "R", true, ⟨100, 0⟩⟩ ⟨"c", "R", true, ⟨300, 0⟩⟩ = false := by
    decide
  rw [Relation.listed, hmatching]
  simp [List.mergeSort, hnewer]

/-- The answer to the query for that page, as a database sends it. -/
def twoRows : Sql.Table :=
  ⟨[.text, .int8], [[.text [0x63], .int 300], [.text [0x61], .int 100]]⟩

/-- A store in a database that sends it. -/
def answering : Postgres Sql.Script := ⟨⟨.ofTable twoRows, []⟩, .idle⟩

theorem same_pages_fourLikes :
    fourLikes.Spaced ∧
    (answering.ask (.prepared (Sql.keyset .undecided "R" oneBelow400))).1 = .ok twoRows ∧
    (Sql.keyset .undecided "R" oneBelow400).IsAnsweredBy fourLikes twoRows ∧
    (DecisionStore.likers .undecided "R" oneBelow400 answering).1 =
      .ok ⟨[⟨"c", 300⟩], some (Cursor.token ⟨300, 1⟩)⟩ := by
  have hanswer : (Sql.keyset .undecided "R" oneBelow400).IsAnsweredBy fourLikes twoRows := by
    have htable := Sql.isAnsweredBy_tableOf spaced_fourLikes .undecided "R" oneBelow400
    rw [show oneBelow400.before = some 400 from rfl, listed_fourLikes] at htable
    exact htable
  have hask : (answering.ask (.prepared (Sql.keyset .undecided "R" oneBelow400))).1 = .ok twoRows :=
    rfl
  refine ⟨spaced_fourLikes, hask, hanswer, ?_⟩
  rw [((same_pages .undecided "R" oneBelow400).2.2 fourLikes spaced_fourLikes).2 _ _ _ hask hanswer]
  show Except.ok (fourLikes.page .undecided "R" oneBelow400) = _
  rw [Relation.page, show oneBelow400.before = some 400 from rfl, listed_fourLikes]
  rfl

end LikedYou.Postgres
