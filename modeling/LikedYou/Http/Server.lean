import LikedYou.Api.Handler
import LikedYou.Api.Health
import LikedYou.Http.MediaType
import LikedYou.Http.Target

/-!
# The HTTP server

Each operation of the service has a path, which takes a request as the JSON text in the body of a
`POST`; two further paths tell how the service is. A path has to match exactly, before anything in it
is decoded.

A body is looked at in a fixed order: whether it is announced as JSON, whether it is too long, and
what it says. Whatever is wrong with it, the caller made a mistake; but what follows the JSON text in
it is not looked at.
-/

namespace LikedYou.Http

/-! ## Requests and responses -/

/-- A request. -/
structure Request where
  method : String
  target : String
  contentType : Option String
  body : Bytes

/-- A response. -/
structure Response where
  status : Nat
  contentType : Option String
  /-- The methods that a path allows. -/
  allow : Option String
  body : String
  deriving DecidableEq, Repr

namespace Response

/-- A response without a body. -/
def bare (status : Nat) : Response := ⟨status, none, none, ""⟩

/-- A response that carries a JSON text. -/
def json {α : Type} [Json.Document α] (status : Nat) (a : α) : Response :=
  ⟨status, some "application/json", none, Json.encodeString a⟩

/-- A response that carries an error. -/
def ofError (e : Api.Error) : Response := json e.code.status e

/-- A response to a request that was answered or refused. -/
def ofAnswer {α : Type} [Json.Document α] : Except Api.Error α → Response
  | .ok a => json 200 a
  | .error e => ofError e

end Response

/-! ## Bodies -/

/-- The length of the longest body. -/
def maxBodyLength : Nat := 2097152

/-- Whether a list has more than `n` items. -/
def isLonger {α : Type} (n : Nat) (as : List α) : Bool := !(as.drop n).isEmpty

/-- The wording of a fault in a body. -/
def bodyMessage (body : Bytes) (f : Json.Fault) : String :=
  let what :=
    if f.cause.isAboutData then "Failed to deserialize the JSON body into the target type"
    else "Failed to parse the request body as JSON"
  s!"{what}: {f.messageWithPath body}"

/-- What a request asks, or what is wrong with its body. -/
def readBody (α : Type) [Json.Document α] (r : Request) : Except String α :=
  if !(r.contentType.map Utf8.ofString).any MediaType.announcesJson then
    .error "Expected request with `Content-Type: application/json`"
  else if isLonger maxBodyLength r.body then
    .error "Failed to buffer the request body: length limit exceeded"
  else
    match Json.decodeFront r.body with
    | .ok a => .ok a
    | .error f => .error (bodyMessage r.body f)

/-- The error for a body that cannot be read. -/
def bodyError (message : String) : Api.Error :=
  ⟨.invalidInput, s!"invalid request body: {message}"⟩

/-! ## Paths -/

/-- What there is to ask for. -/
inductive Route where
  | list (listing : Listing)
  | count
  | put
  | alive
  | ready
  deriving DecidableEq, Repr

namespace Route

/-- The routes and their paths. -/
def paths : List (String × Route) :=
  [("/explore/v1/list-liked-you", list .everyone),
    ("/explore/v1/list-new-liked-you", list .undecided),
    ("/explore/v1/count-liked-you", count),
    ("/explore/v1/put-decision", put),
    ("/health/live", alive),
    ("/health/ready", ready)]

/-- The route of a path. -/
def ofPath? (path : String) : Option Route := paths.lookup path

/-- The methods that a route allows. -/
def methods : Route → List String
  | list _ | count | put => ["POST"]
  | alive | ready => ["GET", "HEAD"]

end Route

/-! ## Answering -/

/-- A service, and when it was started by the running clock. -/
structure Server (σ κ : Type) where
  service : Api.Service σ κ
  started : Time.Duration

namespace Server

variable {σ κ : Type} [DecisionStore σ] [Cache κ]

omit [DecisionStore σ] [Cache κ] in
/-- Answer a request for an operation of the service. -/
def operation {α β : Type} [Json.Document α] [Json.Document β] (r : Request)
    (handle : α → Api.Service σ κ → Except Breakdown (Except Api.Error β × Api.Service σ κ))
    (s : Server σ κ) : Except Breakdown (Response × Server σ κ) :=
  match readBody α r with
  | .error message => .ok (.ofError (bodyError message), s)
  | .ok a => do
    let (answer, service) ← handle a s.service
    return (.ofAnswer answer, { s with service })

/-- Tell whether the service can answer requests. -/
def readiness (clock : Time.Clock) (s : Server σ κ) : Response × Server σ κ :=
  let (checked, store) := DecisionStore.check s.service.store
  let report :=
    Api.HealthReport.readiness checked (Cache.stats s.service.cache.backend)
      (clock.running - s.started)
  (.json report.httpStatus report, { s with service := { s.service with store } })

/-- Answer a request for a route with a method that it allows. -/
def answer (route : Route) (r : Request) (clock : Time.Clock) (s : Server σ κ) :
    Except Breakdown (Response × Server σ κ) :=
  match route with
  | .list listing => s.operation r fun a service => service.handleList listing a clock
  | .count => s.operation r fun a service => service.handleCount a clock
  | .put => s.operation r fun a service => service.handlePut a clock
  | .alive => .ok (.json 200 Api.HealthReport.alive, s)
  | .ready => .ok (s.readiness clock)

/-- Answer a request. -/
def handle (r : Request) (clock : Time.Clock) (s : Server σ κ) :
    Except Breakdown (Response × Server σ κ) :=
  match (Target.path? r.target).bind Route.ofPath? with
  | none => .ok (.bare 404, s)
  | some route =>
    if !route.methods.contains r.method then
      .ok ({ Response.bare 405 with allow := some (",".intercalate route.methods) }, s)
    else do
      let (response, s) ← s.answer route r clock
      return (if r.method = "HEAD" then { response with body := "" } else response, s)

end Server

end LikedYou.Http
