import LikedYou.Http.Server
import LikedYou.Proofs.Json.Lossless
import LikedYou.Proofs.Service.Accounting

/-!
# Who is refused, and in what words

* `Api.Mistake` — the first mistake in a request, and how it is told
* `Api.Failure` — what goes wrong with a request that has no mistake, and how it is told
* `Route.Asks` — what a body asks of a route
* `Given` — bodies that give some of the fields of a request, and no others
* `Server.handle_post` — these decide about every response, whatever is stored and kept, and whatever
  fails

Mistakes and failures are said here by the fields of a request and by the switches of a store, without
the functions that look for them.
-/

namespace LikedYou

/-! ## Mistakes -/

namespace Api

/-- The first mistake in a request, and how it is told. -/
inductive Mistake : Request → Error → Prop
  | unnamedInList {listing : Listing} {r : ListRequest} : r.recipient = "" →
      Mistake (.list listing r) ⟨.missingField, "recipient_user_id is required"⟩
  | unknownToken {listing : Listing} {r : ListRequest} : r.recipient ≠ "" → r.token ≠ "" →
      (∀ cursor, Cursor.ofToken r.token ≠ .ok cursor) →
      Mistake (.list listing r) ⟨.invalidPaginationToken, "Invalid pagination token"⟩
  | unnamedInCount {r : CountRequest} : r.recipient = "" →
      Mistake (.count r) ⟨.missingField, "recipient_user_id is required"⟩
  | nobodyDecides {r : PutRequest} : r.actor = "" →
      Mistake (.put r) ⟨.missingField, "actor_user_id is required"⟩
  | aboutNobody {r : PutRequest} : r.actor ≠ "" → r.recipient = "" →
      Mistake (.put r) ⟨.missingField, "recipient_user_id is required"⟩
  | aboutHimself {r : PutRequest} : r.actor ≠ "" → r.recipient ≠ "" → r.actor = r.recipient →
      Mistake (.put r) ⟨.invalidInput, "actor and recipient cannot be the same user"⟩

/-- A token that is not the token of a cursor bounds no page. -/
theorem exists_ofToken_eq_error {token : String} (h : ∀ cursor, Cursor.ofToken token ≠ .ok cursor) :
    ∃ reason, PageBounds.ofToken token = .error (.invalidToken reason) := by
  rcases hcursor : Cursor.ofToken token with f | cursor
  · obtain ⟨reason, rfl⟩ := exists_reason_of_ofToken hcursor
    exact ⟨reason, by rw [PageBounds.ofToken, hcursor]; rfl⟩
  · exact absurd hcursor (h cursor)

/-- Each mistake is noticed by the check of the request. -/
theorem Mistake.check {q : Request} {e : Error} (h : Mistake q e) :
    ∃ f, q.check = .error f ∧ Error.ofFault q.failure f = e := by
  cases h with
  | unnamedInList hrecipient =>
    exact ⟨_, Request.check_list_eq_error_iff.mpr (Or.inl (require_of_eq _ hrecipient)), rfl⟩
  | unknownToken hrecipient _ htoken =>
    obtain ⟨reason, hbounds⟩ := exists_ofToken_eq_error htoken
    exact ⟨_, Request.check_list_eq_error_iff.mpr (Or.inr ⟨require_of_ne _ hrecipient, hbounds⟩),
      rfl⟩
  | unnamedInCount hrecipient => exact ⟨_, require_of_eq _ hrecipient, rfl⟩
  | nobodyDecides hactor =>
    exact ⟨_, by rw [Request.check, PutRequest.validate, require_of_eq _ hactor], rfl⟩
  | aboutNobody hactor hrecipient =>
    refine ⟨.missingField "recipient_user_id", ?_, rfl⟩
    simp only [Request.check, PutRequest.validate, require_of_ne _ hactor,
      require_of_eq _ hrecipient]
  | aboutHimself hactor hrecipient hsame =>
    refine ⟨.sameUser, ?_, rfl⟩
    simp only [Request.check, PutRequest.validate, require_of_ne _ hactor,
      require_of_ne _ hrecipient, if_pos hsame]

/-- A request without one of these mistakes passes the check. -/
theorem Mistake.check_of_forall_not {q : Request} (h : ∀ e, ¬ Mistake q e) : q.check = .ok () := by
  cases q with
  | list listing r =>
    have hrecipient : r.recipient ≠ "" := fun he => h _ (.unnamedInList he)
    refine Request.check_list_eq_ok_iff.mpr ⟨require_of_ne _ hrecipient, ?_⟩
    by_cases hcursor : ∃ cursor, Cursor.ofToken r.token = .ok cursor
    · obtain ⟨cursor, hcursor⟩ := hcursor
      exact ⟨_, by rw [PageBounds.ofToken, hcursor]; rfl⟩
    · have hnone := not_exists.mp hcursor
      have htoken : r.token ≠ "" := by
        intro he
        exact hnone none (by rw [he]; rfl)
      exact absurd (.unknownToken hrecipient htoken hnone) (h _)
  | count r => exact require_of_ne _ fun he => h _ (.unnamedInCount he)
  | put r =>
    have hactor : r.actor ≠ "" := fun he => h _ (.nobodyDecides he)
    have hrecipient : r.recipient ≠ "" := fun he => h _ (.aboutNobody hactor he)
    have hother : r.actor ≠ r.recipient := fun he => h _ (.aboutHimself hactor hrecipient he)
    exact validate_eq_ok_iff.mpr ⟨hactor, hrecipient, hother⟩

theorem Mistake.status {q : Request} {e : Error} (h : Mistake q e) : e.code.status = 400 := by
  cases h <;> rfl

/-! ## Failures -/

/-- What goes wrong with a request that has no mistake, and how it is told. -/
inductive Failure (s : Monitored) (clock : Time.Clock) : Request → Error → Prop
  /-- The cache does not tell the answer, and the store fails. -/
  | read {r : Request} {q : Query} : r.query? = some q →
      q.told? (Cache.get q.key clock s.cache.backend).1 = none → s.store.failing.reads = true →
      Failure s clock r ⟨.internalError, r.failure⟩
  | record {r : PutRequest} : s.store.failing.record = true →
      Failure s clock (.put r) ⟨.internalError, "failed to create decision"⟩
  /-- A like was recorded, but whether it is mutual cannot be told. -/
  | mutualCheck {r : PutRequest} : s.store.failing.record = false → r.liked = true →
      s.store.failing.mutuals = true →
      Failure s clock (.put r) ⟨.internalError, "failed to check mutual like"⟩

theorem Failure.code {s : Monitored} {clock : Time.Clock} {r : Request} {e : Error}
    (h : Failure s clock r e) : e.code = .internalError := by cases h <;> rfl

section

variable {s s' : Monitored} {clock : Time.Clock} {r : Request} {reply : Except Error Reply}

/-- **A request without a mistake is answered unless it fails**, and a failure is told as it is. -/
theorem Service.reply_of_check (hcheck : r.check = .ok ())
    (h : s.handle r clock = .ok (reply, s')) :
    (∀ e, Failure s clock r e → reply = .error e) ∧
      ((∀ e, ¬ Failure s clock r e) → ∃ a, reply = .ok a) := by
  constructor
  · intro e hfailure
    cases hfailure with
    | read hq htold hfails => exact ((queryAccount hcheck hq h).failed htold hfails).1
    | record hrecord =>
      rw [(decisionAccount hcheck h).reply, hrecord]
      rfl
    | mutualCheck hrecord hliked hmutuals =>
      rw [(decisionAccount hcheck h).reply, hrecord, hliked, hmutuals]
      rfl
  · intro hnone
    cases hq : r.query? with
    | some q =>
      have haccount := queryAccount hcheck hq h
      cases htold : q.told? (Cache.get q.key clock s.cache.backend).1 with
      | some a => exact ⟨_, (haccount.hit a htold).1⟩
      | none =>
        have hworks : s.store.failing.reads = false :=
          Bool.eq_false_iff.mpr fun hfails => hnone _ (.read hq htold hfails)
        obtain ⟨a, -, hreply, -⟩ := haccount.fetched htold hworks
        exact ⟨_, hreply⟩
    | none =>
      cases r with
      | list listing r => cases hq
      | count r => cases hq
      | put p =>
        have hrecord : s.store.failing.record = false :=
          Bool.eq_false_iff.mpr fun hfails => hnone _ (.record hfails)
        rw [(decisionAccount hcheck h).reply, hrecord]
        cases hliked : p.liked with
        | false => exact ⟨_, rfl⟩
        | true =>
          have hmutuals : s.store.failing.mutuals = false :=
            Bool.eq_false_iff.mpr fun hfails => hnone _ (.mutualCheck hrecord hliked hfails)
          rw [hmutuals]
          exact ⟨_, rfl⟩

end

end Api

namespace Http

/-! ## Responses -/

/-- The response that carries a reply. -/
def Response.ofReply (reply : Api.Reply) : Response :=
  ⟨200, some "application/json", none, reply.text⟩

/-- **The body of an error response tells the error.** -/
theorem Response.decodeString_ofError (e : Api.Error) :
    Json.decodeString (ofError e).body = .ok e := Json.decodeString_encodeString rfl e

/-! ## Bodies -/

/-- Whether a body asks something of a route: it is not too long, and begins with the JSON text of a
request. -/
inductive Route.Asks : Route → Bytes → Api.Request → Prop
  | list {listing : Listing} {body : Bytes} {r : Api.ListRequest} : body.length ≤ maxBodyLength →
      Json.decodeFront body = .ok r → Asks (.list listing) body (.list listing r)
  | count {body : Bytes} {r : Api.CountRequest} : body.length ≤ maxBodyLength →
      Json.decodeFront body = .ok r → Asks .count body (.count r)
  | put {body : Bytes} {r : Api.PutRequest} : body.length ≤ maxBodyLength →
      Json.decodeFront body = .ok r → Asks .put body (.put r)

/-- A body asks one thing. -/
theorem Route.Asks.unique {route : Route} {body : Bytes} {q q' : Api.Request}
    (h : route.Asks body q) (h' : route.Asks body q') : q' = q := by
  cases h with
  | list _ hdecode | count _ hdecode | put _ hdecode =>
    cases h' with
    | _ _ hdecode' =>
      rw [hdecode] at hdecode'
      cases hdecode'
      rfl

/-- The fields that a body gives. -/
inductive Given where
  | list (listing : Listing) (recipient : Option String) (token : Option (Option String))
  | count (recipient : Option String)
  | put (actor recipient : Option String) (liked : Option Bool)

namespace Given

/-- The route that the body is for. -/
def route : Given → Route
  | list listing .. => .list listing
  | count _ => .count
  | put .. => .put

/-- What is asked: no user, no token and no like where none is given. -/
def request : Given → Api.Request
  | list listing recipient token => .list listing ⟨recipient.getD "", token.getD none⟩
  | count recipient => .count ⟨recipient.getD ""⟩
  | put actor recipient liked => .put ⟨actor.getD "", recipient.getD "", liked.getD false⟩

/-- The JSON text that gives them, and nothing else. -/
def body : Given → Bytes
  | list _ recipient token => (Json.Document.shape Api.ListRequest).object (recipient, token, ())
  | count recipient => (Json.Document.shape Api.CountRequest).object (recipient, ())
  | put actor recipient liked =>
    (Json.Document.shape Api.PutRequest).object (actor, recipient, liked, ())

/-- **A body that gives some of the fields asks with defaults for the others.** -/
theorem asks (given : Given) (hlength : given.body.length ≤ maxBodyLength) :
    given.route.Asks given.body given.request := by
  cases given with
  | list listing recipient token =>
    have hfill : (Json.Document.shape Api.ListRequest).fill? (recipient, token, ()) =
        some (recipient.getD "", token.getD none, ()) := by
      cases recipient <;> cases token <;> rfl
    exact .list hlength (Json.decodeFront_object rfl hfill)
  | count recipient =>
    have hfill : (Json.Document.shape Api.CountRequest).fill? (recipient, ()) =
        some (recipient.getD "", ()) := by
      cases recipient <;> rfl
    exact .count hlength (Json.decodeFront_object rfl hfill)
  | put actor recipient liked =>
    have hfill : (Json.Document.shape Api.PutRequest).fill? (actor, recipient, liked, ()) =
        some (actor.getD "", recipient.getD "", liked.getD false, ()) := by
      cases actor <;> cases recipient <;> cases liked <;> rfl
    exact .put hlength (Json.decodeFront_object rfl hfill)

end Given

/-! ## Requests -/

/-- Whether a request is a `POST` of a JSON text to a route of the service. -/
structure Request.Posts (r : Request) (route : Route) : Prop where
  method : r.method = "POST"
  path : (Target.path? r.target).bind Route.ofPath? = some route
  operation : route ∈ [.list .everyone, .list .undecided, .count, .put]
  announced : (r.contentType.map Utf8.ofString).any MediaType.announcesJson = true

theorem isLonger_iff {α : Type} {n : Nat} {as : List α} :
    isLonger n as = true ↔ n < as.length := by
  simp [isLonger]

/-- A body that is announced as JSON is read if it is not too long and begins with what is read. -/
theorem readBody_eq_ok_iff {α : Type} [Json.Document α] {r : Request} {a : α}
    (h : (r.contentType.map Utf8.ofString).any MediaType.announcesJson = true) :
    readBody α r = .ok a ↔ r.body.length ≤ maxBodyLength ∧ Json.decodeFront r.body = .ok a := by
  simp only [readBody, h, Bool.not_true, Bool.false_eq_true, if_false]
  by_cases hlong : isLonger maxBodyLength r.body = true
  · rw [if_pos hlong]
    have hlt := isLonger_iff.mp hlong
    exact iff_of_false nofun fun hread => Nat.not_le.mpr hlt hread.1
  · rw [if_neg hlong]
    have hle : r.body.length ≤ maxBodyLength := Nat.not_lt.mp (mt isLonger_iff.mpr hlong)
    cases (Json.decodeFront r.body : Except Json.Fault α) with
    | error f => exact iff_of_false nofun fun hread => nomatch hread.2
    | ok b =>
      refine ⟨fun hread => ?_, fun hread => ?_⟩
      · cases hread
        exact ⟨hle, rfl⟩
      · cases hread.2
        rfl

namespace Server

section

variable {σ κ : Type} [DecisionStore σ] [Cache κ] {r : Request} {route : Route}
  {clock : Time.Clock} {s : Server σ κ}

omit [DecisionStore σ] [Cache κ] in
/-- What becomes of an answer of the service. -/
def respond (s : Server σ κ) : Except Api.Error Api.Reply × Api.Service σ κ → Response × Server σ κ
  | (.ok reply, service) => (.ofReply reply, { s with service })
  | (.error e, service) => (.ofError e, { s with service })

/-- A post is handed to its route. -/
theorem handle_of_posts (h : r.Posts route) : s.handle r clock = s.answer route r clock := by
  have hallowed : route.methods.contains r.method = true := by
    rw [h.method]
    rcases h.operation with _ | ⟨_, _ | ⟨_, _ | ⟨_, _ | ⟨_, ⟨⟩⟩⟩⟩⟩ <;> rfl
  have hhead : ¬ r.method = "HEAD" := by
    rw [h.method]
    decide
  simp only [handle, h.path, hallowed, Bool.not_true, Bool.false_eq_true, if_false, if_neg hhead]
  cases s.answer route r clock with
  | error b => rfl
  | ok response => rfl

section

variable {α β : Type} [Json.Document α] [Json.Document β]
  {run : α → Api.Service σ κ → Except Breakdown (Except Api.Error β × Api.Service σ κ)}

omit [DecisionStore σ] [Cache κ] in
/-- What is asked is handed to the service, and its answer is sent. -/
theorem operation_of_readBody {a : α} (h : readBody α r = .ok a) {toReply : β → Api.Reply}
    (htext : ∀ b, Json.encodeString b = (toReply b).text) :
    s.operation r run =
      ((run a s.service).map fun (reply, service) => (reply.map toReply, service)).map
        s.respond := by
  simp only [operation, h]
  rcases run a s.service with b | ⟨e | reply, service⟩
  · rfl
  · rfl
  · show Except.ok (Response.json 200 reply, _) = Except.ok (Response.ofReply (toReply reply), _)
    rw [Response.json, Response.ofReply, htext]

omit [DecisionStore σ] [Cache κ] in
/-- Where nothing is asked, the service does not notice. -/
theorem exists_operation_eq
    (h : (r.contentType.map Utf8.ofString).any MediaType.announcesJson = true)
    (hnone : ∀ a : α, ¬ (r.body.length ≤ maxBodyLength ∧ Json.decodeFront r.body = .ok a)) :
    ∃ what, s.operation r run =
      .ok (.ofError ⟨.invalidInput, "invalid request body: " ++ what⟩, s) := by
  cases hread : readBody α r with
  | ok a => exact absurd ((readBody_eq_ok_iff h).mp hread) (hnone a)
  | error what =>
    refine ⟨what, ?_⟩
    simp only [operation, hread]
    rfl

end

/-- **Where a body asks nothing, the response says so, and nothing else happens.** -/
theorem handle_of_forall_not_asks (h : r.Posts route) (hnone : ∀ q, ¬ route.Asks r.body q)
    (s : Server σ κ) (clock : Time.Clock) :
    ∃ what, s.handle r clock =
      .ok (.ofError ⟨.invalidInput, "invalid request body: " ++ what⟩, s) := by
  rw [handle_of_posts h]
  cases route with
  | list listing =>
    exact exists_operation_eq h.announced fun a hread => hnone _ (.list hread.1 hread.2)
  | count => exact exists_operation_eq h.announced fun a hread => hnone _ (.count hread.1 hread.2)
  | put => exact exists_operation_eq h.announced fun a hread => hnone _ (.put hread.1 hread.2)
  | alive => exact absurd h.operation (by decide)
  | ready => exact absurd h.operation (by decide)

/-- **What a body asks is answered by the service.** -/
theorem handle_of_asks {q : Api.Request} (h : r.Posts route) (hasks : route.Asks r.body q)
    (s : Server σ κ) (clock : Time.Clock) :
    s.handle r clock = (s.service.handle q clock).map s.respond := by
  rw [handle_of_posts h]
  cases hasks with
  | list hlength hdecode =>
    exact operation_of_readBody ((readBody_eq_ok_iff h.announced).mpr ⟨hlength, hdecode⟩)
      fun _ => rfl
  | count hlength hdecode =>
    exact operation_of_readBody ((readBody_eq_ok_iff h.announced).mpr ⟨hlength, hdecode⟩)
      fun _ => rfl
  | put hlength hdecode =>
    exact operation_of_readBody ((readBody_eq_ok_iff h.announced).mpr ⟨hlength, hdecode⟩)
      fun _ => rfl

end

section

variable {r : Request} {route : Route} {clock : Time.Clock} {q : Api.Request} {e : Api.Error}
  {s s' : Server (MonitoredStore Relation) (MonitoredCache Backend)} {response : Response}

/-- A mistake is told, and everything stays as it was. -/
theorem handle_of_mistake (h : r.Posts route) (hasks : route.Asks r.body q)
    (hmistake : Api.Mistake q e) : s.handle r clock = .ok (.ofError e, s) := by
  obtain ⟨f, hcheck, rfl⟩ := hmistake.check
  rw [handle_of_asks h hasks, Api.Service.handle_of_check hcheck]
  rfl

/-- A request that has no mistake is answered, or its failure is told. -/
theorem responds_of_asks (h : r.Posts route) (hasks : route.Asks r.body q)
    (hright : ∀ e, ¬ Api.Mistake q e) :
    (clock.Readable → ∃ response s', s.handle r clock = .ok (response, s')) ∧
    ∀ response s', s.handle r clock = .ok (response, s') →
      (∀ e, Api.Failure s.service clock q e → response = .ofError e) ∧
      ((∀ e, ¬ Api.Failure s.service clock q e) → ∃ reply, response = .ofReply reply ∧
        s.service.handle q clock = .ok (.ok reply, s'.service)) := by
  have hcheck := Api.Mistake.check_of_forall_not hright
  rw [handle_of_asks h hasks]
  refine ⟨fun hclock => ?_, fun response s' hresponse => ?_⟩
  · obtain ⟨reply, service, hreply⟩ := Api.Service.exists_handle hclock s.service q
    exact ⟨(s.respond (reply, service)).1, _, by rw [hreply]; rfl⟩
  · obtain ⟨⟨reply, service⟩, hreply, hrespond⟩ := Api.Service.exists_of_map_eq_ok hresponse
    obtain ⟨hfailed, hanswered⟩ := Api.Service.reply_of_check hcheck hreply
    refine ⟨fun e hfailure => ?_, fun hnone => ?_⟩
    · rw [hfailed e hfailure] at hrespond
      exact (congrArg Prod.fst hrespond).symm
    · obtain ⟨a, ha⟩ := hanswered hnone
      rw [ha] at hreply hrespond
      cases hrespond
      exact ⟨a, rfl, hreply⟩

/-- Whether the caller of a route made a mistake: nothing is asked, or what is asked has one. -/
def IsRefused (route : Route) (body : Bytes) : Prop :=
  (∀ q, ¬ route.Asks body q) ∨ ∃ q e, route.Asks body q ∧ Api.Mistake q e

/-- These are all the responses. -/
theorem response_cases (h : r.Posts route) (hresponse : s.handle r clock = .ok (response, s')) :
    (IsRefused route r.body ∧ s' = s ∧ ∃ e, e.code.status = 400 ∧ response = .ofError e) ∨
    (¬ IsRefused route r.body ∧ ((∃ reply, response = .ofReply reply) ∨
      ∃ e, e.code = .internalError ∧ response = .ofError e)) := by
  by_cases hasked : ∃ q, route.Asks r.body q
  · obtain ⟨q, hasks⟩ := hasked
    by_cases hwrong : ∃ e, Api.Mistake q e
    · obtain ⟨e, hmistake⟩ := hwrong
      rw [handle_of_mistake h hasks hmistake] at hresponse
      cases hresponse
      exact Or.inl ⟨Or.inr ⟨q, e, hasks, hmistake⟩, rfl, e, hmistake.status, rfl⟩
    · have hright := not_exists.mp hwrong
      obtain ⟨hfailed, hanswered⟩ := (responds_of_asks h hasks hright).2 response s' hresponse
      refine Or.inr ⟨?_, ?_⟩
      · rintro (hnone | ⟨q', e, hasks', hmistake⟩)
        · exact hnone q hasks
        · exact hright e (hasks.unique hasks' ▸ hmistake)
      · by_cases hfails : ∃ e, Api.Failure s.service clock q e
        · obtain ⟨e, hfailure⟩ := hfails
          exact Or.inr ⟨e, hfailure.code, hfailed e hfailure⟩
        · obtain ⟨reply, hreply, -⟩ := hanswered (not_exists.mp hfails)
          exact Or.inl ⟨reply, hreply⟩
  · have hnone := not_exists.mp hasked
    obtain ⟨what, hwhat⟩ := handle_of_forall_not_asks h hnone s clock
    rw [hwhat] at hresponse
    cases hresponse
    exact Or.inl ⟨Or.inl hnone, rfl, _, rfl, rfl⟩

end

/-- **What a post of a JSON text is answered, for all bodies, states and faults.** Where the body asks
nothing, and where what it asks has a mistake, the response says so with status 400 and everything
stays as it was. Otherwise there is a response while the clock can be read: the failure if there is
one, with status 500, and a reply if there is none. Every response that is no reply carries the text
of its error. A field that a body does not give counts as empty. -/
theorem handle_post {r : Request} {route : Route} (h : r.Posts route)
    (s : Server (MonitoredStore Relation) (MonitoredCache Backend)) (clock : Time.Clock) :
    ((∀ q, ¬ route.Asks r.body q) → ∃ what, s.handle r clock =
      .ok (.ofError ⟨.invalidInput, "invalid request body: " ++ what⟩, s)) ∧
    (∀ q e, route.Asks r.body q → Api.Mistake q e → s.handle r clock = .ok (.ofError e, s)) ∧
    (∀ q, route.Asks r.body q → (∀ e, ¬ Api.Mistake q e) →
      (clock.Readable → ∃ response s', s.handle r clock = .ok (response, s')) ∧
      ∀ response s', s.handle r clock = .ok (response, s') →
        (∀ e, Api.Failure s.service clock q e → response = .ofError e) ∧
        ((∀ e, ¬ Api.Failure s.service clock q e) → ∃ reply, response = .ofReply reply ∧
          s.service.handle q clock = .ok (.ok reply, s'.service))) ∧
    (∀ response s', s.handle r clock = .ok (response, s') →
      (response.status = 400 ↔
        (∀ q, ¬ route.Asks r.body q) ∨ ∃ q e, route.Asks r.body q ∧ Api.Mistake q e) ∧
      (response.status = 400 → s' = s) ∧
      (response.status ≠ 400 → response.status = 200 ∨ response.status = 500 ∧
        ∃ e, e.code = .internalError ∧ response = .ofError e) ∧
      (response.status ≠ 200 → response.contentType = some "application/json" ∧
        ∃ e, response = .ofError e ∧ Json.decodeString response.body = .ok e)) ∧
    ∀ given : Given, given.route = route → given.body.length ≤ maxBodyLength →
      route.Asks given.body given.request := by
  refine ⟨fun hnone => handle_of_forall_not_asks h hnone s clock,
    fun q e hasks hmistake => handle_of_mistake h hasks hmistake,
    fun q hasks hright => responds_of_asks h hasks hright, fun response s' hresponse => ?_, ?_⟩
  · rcases response_cases h hresponse with ⟨hrefused, hsame, e, hstatus, rfl⟩ |
      ⟨hrefused, ⟨reply, rfl⟩ | ⟨e, hcode, rfl⟩⟩
    · exact ⟨iff_of_true hstatus hrefused, fun _ => hsame, fun hne => absurd hstatus hne,
        fun _ => ⟨rfl, e, rfl, Response.decodeString_ofError e⟩⟩
    · have hstatus : (Response.ofReply reply).status ≠ 400 := by
        show 200 ≠ 400
        decide
      exact ⟨iff_of_false hstatus hrefused, fun h400 => absurd h400 hstatus, fun _ => Or.inl rfl,
        fun hne => absurd rfl hne⟩
    · have hstatus : (Response.ofError e).status = 500 := congrArg Api.ErrorCode.status hcode
      have hne : (Response.ofError e).status ≠ 400 := by
        rw [hstatus]
        decide
      exact ⟨iff_of_false hne hrefused, fun h400 => absurd h400 hne,
        fun _ => Or.inr ⟨hstatus, e, hcode, rfl⟩,
        fun _ => ⟨rfl, e, rfl, Response.decodeString_ofError e⟩⟩
  · rintro given rfl hlength
    exact given.asks hlength

/-- A request that names nobody, with a token that is none. -/
def ofNobody : Given := .list .undecided (some "") (some (some "?"))

@[inherit_doc ofNobody] def postOfNobody : Request :=
  ⟨"POST", "/explore/v1/list-new-liked-you", some "application/json", ofNobody.body⟩

/-- A server on which everything fails. -/
def broken : Server (MonitoredStore Relation) (MonitoredCache Backend) where
  service := { Api.spoiled with store := { Api.spoiled.store with failing := ⟨true, true, true⟩ } }
  started := 0

theorem handle_post_ofNobody : postOfNobody.Posts (.list .undecided) ∧
    broken.handle postOfNobody (.start 0 0) =
      .ok (.ofError ⟨.missingField, "recipient_user_id is required"⟩, broken) := by
  have hposts : postOfNobody.Posts (.list .undecided) :=
    ⟨rfl, by decide +kernel, by decide, by decide +kernel⟩
  obtain ⟨-, hmistake, -, -, hgiven⟩ := handle_post hposts broken (.start 0 0)
  have hasks : Route.Asks (.list .undecided) postOfNobody.body ofNobody.request :=
    hgiven ofNobody rfl (by decide +kernel)
  exact ⟨hposts, hmistake _ _ hasks (.unnamedInList rfl)⟩

end Server

end Http

end LikedYou
