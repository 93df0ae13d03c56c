import Questionnaire.Service.Export
import Questionnaire.Service.Preview
import Questionnaire.Service.Routes
import Questionnaire.Service.Versions

/-!
# The service

* `Service.handle`: the answer to a request, the requests it made to other services and the tables after it.
-/

namespace Questionnaire.Service

variable [Stack]

/-- What the service says to tell that it is up. -/
def healthJson : Json := .obj [("status", .str "healthy"), ("service", .str "quoteform-backend")]

/-- What the service says about itself. -/
def rootJson : Json :=
  .obj [("message", .str "Quote Form API"), ("version", .str "1.0.0"), ("docs", .str "/docs")]

/-- A response of an endpoint that schedules nothing. -/
def plain (response : ServiceM Response) : ServiceM (Response × Option Scheduled) := do
  return (← response, none)

/-- An endpoint of the author of forms: the user is known and the tables are within reach. -/
def authored (setup : Setup) (r : Received) (f : Json → ServiceM Response) :
    ServiceM (Response × Option Scheduled) :=
  plain do
    let user ← currentUser setup r
    requireStore setup
    f user

/-- Answers a request at an endpoint. A body is read first, and checked last. -/
def answer (setup : Setup) (r : Received) : Endpoint → ServiceM (Response × Option Scheduled)
  | .root => return (.ok rootJson, none)
  | .health => return (.ok healthJson, none)
  | .submit => do
    let body ← body r
    requireStore setup
    submit setup (← checked SubmitRequest.shape body)
  | .listVersions form => authored setup r (listVersions form)
  | .latestVersion form => authored setup r (latestVersion form)
  | .oneVersion form version => authored setup r (oneVersion form version)
  | .saveVersion form => do
    let body ← body r
    authored setup r fun user => do saveVersion form user (← checked SaveRequest.shape body)
  | .restoreVersion form version => authored setup r (restoreVersion form version)
  | .previewSession => plain do previewSession (← checked SessionRequest.shape (← body r))
  | .previewRedirect => plain do previewRedirect (← checked ResolveRequest.shape (← body r))
  | .previewPostcode => plain do previewPostcode setup (← checked PostcodeRequest.shape (← body r))
  | .exportNumbered => plain do exportNumbered (← checked Form.shape (← body r))
  | .exportCompiled => plain do exportCompiled setup (← checked CompileRequest.shape (← body r))
  | .download form version file => authored setup r (download setup form version file)

/-- Answers a request, and delivers what is to follow the response unless the response cannot be sent. -/
def respond (setup : Setup) (r : Received) (endpoint : Endpoint) : ServiceM Response := do
  let (response, scheduled) ← answer setup r endpoint
  -- a response that cannot be sent is replaced, and what was to follow it is dropped
  if response.content.written.isOk then deliver scheduled
  return response

/-- What a report tells beside an issue: the words to choose from, or that a rule is told elsewhere. -/
def issueContext : Problem → Fields
  | .notOneOf allowed => [("ctx", .obj [("expected", .str (Problem.choice allowed))])]
  | .breaksRule _ => [("ctx", .obj [("error", .obj [])])]
  | _ => []

/-- Is a key one that reports show? Those of a reserved kind are left out. -/
def isReported (key : Text) : Bool := !("_sa" : Text).isPrefixOf key

/-- An issue of a body: its kind, its place, its wording and what is refused. -/
def issueJson (i : Issue) : Json :=
  let step : Step → Json
    | .key name => .str name
    | .index position => .int position
  let fields : Fields :=
    [("type", .str (i.problem.kind .requestBody)), ("loc", .arr (.str "body" :: i.path.map step)),
      ("msg", .str (i.problem.message .requestBody)), ("input", i.input.filterKeys isReported)]
  .obj (fields ++ issueContext i.problem)

/-- The response to a body that is no JSON. -/
def notJsonResponse (e : ParseError) : Response :=
  .detail 422 (.arr [.obj [("type", .str "json_invalid"), ("loc", .arr [.str "body", .int e.offset]),
    ("msg", .str "JSON decode error"), ("input", .obj []), ("ctx", .obj [("error", .str e.fault.message)])]])

/-- The response to an error that nothing expects; its cause is shown to developers alone. -/
def unexpectedResponse (settings : Settings) (cause : Text) : Response :=
  let shown : Text := if settings.showsCauses then cause else "An unexpected error occurred"
  { status := 500, content := .report (.obj [("error", .str "Internal server error"), ("detail", .str shown)]) }

/-- The headers that let a page from elsewhere read a response. -/
def sharingHeaders (r : Received) : List (String × String) :=
  match r.header? "origin" with
  | none => []
  | some origin =>
    [("access-control-allow-origin", origin), ("access-control-allow-credentials", "true"),
      ("access-control-expose-headers", "Content-Disposition")]

/-- The methods that a page from elsewhere may use. -/
def sharedMethods : List String := ["DELETE", "GET", "HEAD", "OPTIONS", "PATCH", "POST", "PUT"]

/-- The method that a page from elsewhere means to use, if the request only asks whether it may. -/
def announcedMethod? (r : Received) : Option String :=
  if r.method = "OPTIONS" ∧ (r.header? "origin").isSome then r.header? "access-control-request-method" else none

/-- The answer to a page from elsewhere that asks whether it may use a method; any headers are allowed. -/
def permission (r : Received) (method : String) : Response :=
  let allowed := method ∈ sharedMethods
  let granted name shown := ((r.header? name).map fun value => (shown, value)).toList
  { status := if allowed then 200 else 400
    content := .plain (if allowed then "OK" else "Disallowed CORS method")
    headers := [("access-control-allow-methods", ", ".intercalate sharedMethods), ("access-control-max-age", "600"),
        ("access-control-allow-credentials", "true")]
      ++ granted "origin" "access-control-allow-origin"
      ++ granted "access-control-request-headers" "access-control-allow-headers" }

/-- A response that a page from elsewhere may read. -/
def shared (r : Received) (response : Response) : Response :=
  { response with headers := response.headers ++ sharingHeaders r }

/-- The response to a path that names no endpoint. -/
def routeResponse : RouteError → Response
  | .notFound => .detail 404 (.str "Not Found")
  | .methodNotAllowed => .detail 405 (.str "Method Not Allowed")
  | .movedTo _ => { status := 307, content := .none }

/-- The response to an error that nothing expects, unless the settings that it needs cannot be read. -/
def unexpected (setup : Setup) (cause : Text) : Except SettingsError Response :=
  (Settings.read setup.environment).map fun settings => unexpectedResponse settings cause

/-- A response as a page from elsewhere may read it; for one that cannot be sent, that to an error that nothing
expects. -/
def sendable (setup : Setup) (r : Received) (response : Response) : Except SettingsError Response :=
  match response.content.written with
  | .ok _ => .ok (shared r response)
  | .error cause => unexpected setup cause

/-- The response to a refused request. No response is given if the settings cannot be read where they are
needed for one. -/
def refusalResponse (setup : Setup) (r : Received) : Refusal → Except SettingsError Response
  | .detail status text => sendable setup r (.detail status (.str text))
  | .notJson e => sendable setup r (notJsonResponse e)
  | .invalidBody issues => sendable setup r (.detail 422 (.arr (issues.map issueJson)))
  | .unexpected cause => unexpected setup cause
  | .badSettings e => .error e

/-- Why a request has no response. -/
inductive NoResponse where
  | notSent (e : RequestFault)
  /-- The settings cannot be read, without which there is no response. -/
  | badSettings (e : SettingsError)
  /-- Not even the response to an error can be sent. -/
  | unwritable (cause : Text)
deriving DecidableEq, Repr

/-- A request that is over. -/
structure Handled where
  response : Except NoResponse Delivered
  /-- The requests made to other services. -/
  sent : List OutboundRequest
  connection : Connection

/-- The response to a request for an endpoint, given what other services will reply. -/
def responseAt (setup : Setup) (r : Received) (endpoint : Endpoint) (replies : List Reply)
    (connection : Connection) : Except SettingsError Response × Exchange :=
  let (result, x) := (respond setup r endpoint).run.run { connection, replies }
  match result with
  | .ok response => (sendable setup r response, x)
  | .error refusal => (refusalResponse setup r refusal, x)

/-- The response to a request, given what other services will reply. -/
def response (setup : Setup) (r : Received) (replies : List Reply) (connection : Connection) :
    Except SettingsError Response × Exchange :=
  match announcedMethod? r, Endpoint.find r.method r.path with
  -- a page from elsewhere asks before any path is looked at
  | some method, _ => (.ok (permission r method), { connection, replies })
  | none, .error e => (.ok (shared r (routeResponse e)), { connection, replies })
  | none, .ok endpoint => responseAt setup r endpoint replies connection

/-- Handles a request, given what other services will reply. -/
def handle (setup : Setup) (r : Request) (replies : List Reply) (connection : Connection) : Handled :=
  match r.sent with
  | .error e => ⟨.error (.notSent e), [], connection⟩
  | .ok r =>
    let (response, x) := response setup r replies connection
    let delivered := match response with
      | .error e => .error (.badSettings e)
      | .ok response => (response.sent r.method).mapError .unwritable
    ⟨delivered, x.sent, x.connection⟩

end Questionnaire.Service
