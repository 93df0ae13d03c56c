import Questionnaire.Proofs.StoreQueries
import Questionnaire.Service.App

/-!
# What answering a request asks

While a request is answered, the tables are within reach of operations on forms and versions alone, and every
refusal is told as an error. So of each endpoint it is known which queries it may ask, whatever the request
holds, whatever other services reply and whatever failures await the queries.

* `Service.Asks`: a step of answering all of whose queries are of a kind.
* `Service.Asks.agree`, `Service.Asks.keeps`, `Service.Asks.failing`: what follows of such a step.
* `Endpoint.MayAsk`: the queries that an endpoint may ask; `asks_respond` that it asks no others.
* `Handled.Succeeds`: success, as a client sees it; no refusal is one (`status_of_refused`), and a response of
  success that can be written is (`succeeds_of_answer`).
-/

namespace Questionnaire

/-- Is a refusal told as an error? -/
def Refusal.Failing : Refusal → Prop
  | .detail status _ => 400 ≤ status
  | _ => True

/-- A refusal with a status of its own is told as an error if the status is one. -/
@[simp] theorem Refusal.failing_detail {status : Nat} {text : Text} :
    (Refusal.detail status text).Failing ↔ 400 ≤ status := Iff.rfl

/-- What is refused for its syntax is told with 422. -/
@[simp] theorem Refusal.failing_notJson {e : ParseError} : (Refusal.notJson e).Failing := trivial

/-- What is refused for its shape is told with 422. -/
@[simp] theorem Refusal.failing_invalidBody {issues : List Issue} : (Refusal.invalidBody issues).Failing := trivial

/-- Whatever no handler expects is told with 500. -/
@[simp] theorem Refusal.failing_unexpected {text : Text} : (Refusal.unexpected text).Failing := trivial

/-- Without settings there is no response at all, and so no success either. -/
@[simp] theorem Refusal.failing_badSettings {e : SettingsError} : (Refusal.badSettings e).Failing := trivial

/-- Exchanges that differ in their tables alone, which are related. -/
structure Exchange.Alike (R : Tables → Tables → Prop) (x y : Exchange) : Prop where
  connection : x.connection.Alike R y.connection
  rest : y = { x with connection := y.connection }

namespace Service

variable {α β : Type} {m : ServiceM α} {k : α → ServiceM β} {kind : Query → Prop}

/-! ## Steps of answering -/

/-- An operation on the store changes the connection and nothing else of the exchange, and its error becomes a
refusal. -/
theorem run_store (operation : StoreM α) (x : Exchange) :
    (store operation).run.run x = ((operation.run.run x.connection).1.mapError storeRefusal,
      { x with connection := (operation.run.run x.connection).2 }) := by
  have hget : (get : ServiceM Exchange).run.run x = (.ok x, x) := rfl
  have hset : ∀ y : Exchange, (set y : ServiceM PUnit).run.run x = (.ok ⟨⟩, y) := fun _ => rfl
  unfold store
  -- whatever the operation gives, the connection is put back before the result is looked at
  simp only [run_bind, hget]
  rcases operation.run.run x.connection with ⟨e | a, c⟩
  all_goals simp only [run_bind, hset]; rfl

/-- Operations are done one after the other. -/
theorem store_bind (m : StoreM α) (k : α → StoreM β) : store (m >>= k) = store m >>= fun a => store (k a) := by
  apply ExceptT.ext
  apply StateT.ext
  intro x
  rw [run_bind, run_store, run_store, run_bind]
  rcases m.run.run x.connection with ⟨e | a, c⟩
  · rfl
  · simp only [Except.mapError, run_store]

/-- What the store refuses is told with 403 or 404, and what fails there with 500. -/
theorem failing_storeRefusal (e : StoreError) : (storeRefusal e).Failing := by
  unfold storeRefusal
  split
  · simp
  · split <;> simp

/-- A step of answering that does nothing to the tables but ask queries of a kind, and whose refusals are told as
errors. -/
inductive Asks (kind : Query → Prop) : {α : Type} → ServiceM α → Prop
  | pure {α : Type} (a : α) : Asks kind (pure a : ServiceM α)
  | throw {α : Type} {e : Refusal} (h : e.Failing) : Asks kind (throw e : ServiceM α)
  | nextReply : Asks kind nextReply
  | record (request : Option OutboundRequest) : Asks kind (record request)
  | store {α : Type} {operation : StoreM α} (h : Store.Asks kind operation) : Asks kind (store operation)
  | bind {α β : Type} {m : ServiceM α} {k : α → ServiceM β} (hm : Asks kind m) (hk : ∀ a, Asks kind (k a)) :
      Asks kind (m >>= k)

namespace Asks

/-- From exchanges with related tables a step goes alike, if its queries do. -/
theorem agree {R : Tables → Tables → Prop} (h : Asks kind m) (hkind : ∀ q, kind q → q.Respects R)
    {x y : Exchange} (hxy : x.Alike R y) :
    (m.run.run x).1 = (m.run.run y).1 ∧ (m.run.run x).2.Alike R (m.run.run y).2 := by
  induction h generalizing x y with
  | pure a => exact ⟨rfl, hxy⟩
  | throw h => exact ⟨rfl, hxy⟩
  | nextReply =>
    refine ⟨?_, hxy⟩
    rw [hxy.rest]
    rfl
  | record request =>
    cases request with
    | none => exact ⟨rfl, hxy⟩
    | some request =>
      refine ⟨rfl, hxy.connection, ?_⟩
      rw [hxy.rest]
      rfl
  | store h =>
    obtain ⟨hresult, hafter⟩ := h.agree hkind hxy.connection
    rw [run_store, run_store, hresult]
    exact ⟨rfl, hafter, by rw [hxy.rest]⟩
  | @bind _ _ m k _ _ ihm ihk =>
    -- the first step gives the same result and related tables, from which the second goes on
    obtain ⟨hresult, hafter⟩ := ihm hxy
    rw [run_bind, run_bind]
    rcases hx : m.run.run x with ⟨r, x'⟩
    rcases hy : m.run.run y with ⟨r', y'⟩
    rw [hx, hy] at hresult hafter
    obtain rfl : r = r' := hresult
    cases r with
    | ok a => exact ihk a hafter
    | error e => exact ⟨rfl, hafter⟩

/-- What every query of the kind keeps of the tables. -/
theorem keeps {I : Tables → Prop} (h : Asks kind m) (hkind : ∀ q, kind q → ∀ t, I t → I (q.run t).2)
    {x : Exchange} (hx : I x.connection.tables) : I (m.run.run x).2.connection.tables := by
  -- two runs that are the same run
  have hagree := h.agree (fun q hq => Query.respects_of_keeps (hkind q hq)) (y := x) ⟨⟨⟨rfl, hx⟩, rfl⟩, rfl⟩
  exact hagree.2.connection.tables.2

/-- Who only reads leaves the tables as they are. -/
theorem tables_eq (h : Asks kind m) (hkind : ∀ q, kind q → ∃ formId, q.Reads formId) (x : Exchange) :
    (m.run.run x).2.connection.tables = x.connection.tables := by
  refine h.keeps (I := fun t => t = x.connection.tables) ?_ rfl
  intro q hq t ht
  obtain ⟨formId, hreads⟩ := hkind q hq
  rw [hreads.run_tables]
  exact ht

/-- All refusals of such a step are told as errors. -/
theorem failing (h : Asks kind m) {x : Exchange} {e : Refusal} (he : (m.run.run x).1 = .error e) : e.Failing := by
  induction h generalizing x with
  | pure a => cases he
  | throw h =>
    obtain rfl := Except.error.inj he
    exact h
  | nextReply => cases he
  | record request => cases request <;> cases he
  | @store _ operation h =>
    rw [run_store] at he
    cases hresult : (operation.run.run x.connection).1 with
    | ok a =>
      rw [hresult] at he
      cases he
    | error e' =>
      rw [hresult] at he
      obtain rfl := Except.error.inj he
      exact failing_storeRefusal e'
  | @bind _ _ m k _ _ ihm ihk =>
    rw [run_bind] at he
    -- the first step fails, or else the second does, from where the first has come to
    rcases hx : m.run.run x with ⟨e' | a, x'⟩
    · rw [hx] at he
      obtain rfl := Except.error.inj he
      exact ihm (congrArg Prod.fst hx)
    · rw [hx] at he
      exact ihk a he

/-- Requests to other services are only added to those that were made. -/
theorem sent_grows (h : Asks kind m) (x : Exchange) : ∃ more, (m.run.run x).2.sent = x.sent ++ more := by
  induction h generalizing x with
  | pure a => exact ⟨[], (List.append_nil _).symm⟩
  | throw h => exact ⟨[], (List.append_nil _).symm⟩
  | nextReply => exact ⟨[], (List.append_nil _).symm⟩
  | record request =>
    cases request with
    | none => exact ⟨[], (List.append_nil _).symm⟩
    | some request => exact ⟨[request], rfl⟩
  | store h =>
    rw [run_store]
    exact ⟨[], (List.append_nil _).symm⟩
  | @bind _ _ m k _ _ ihm ihk =>
    -- requests of the second step stand behind those of the first
    obtain ⟨more, hmore⟩ := ihm x
    rw [run_bind]
    rcases hx : m.run.run x with ⟨e | a, x'⟩
    · rw [hx] at hmore
      exact ⟨more, hmore⟩
    · rw [hx] at hmore
      obtain ⟨more', hmore'⟩ := ihk a x'
      exact ⟨more ++ more', by rw [hmore', hmore, List.append_assoc]⟩

end Asks

/-! ## What requests bring along -/

/-- The body is read without the store. -/
theorem asks_body [Stack] (r : Received) : Asks kind (body r) := by
  unfold body
  split
  · exact .pure _
  · split
    · split
      · exact .pure _
      · split
        · exact .throw (by simp)
        · exact .throw (by simp)
    · exact .pure _

/-- The shape of the body is checked without the store. -/
theorem asks_checked (shape : Shape α) (body : Option Json) : Asks kind (checked shape body) := by
  unfold checked
  split
  · exact .throw (by simp)
  · split
    · exact .pure _
    · exact .throw (by simp)

/-- The settings are read without the store, whether their errors are reported or not. -/
theorem asks_settings [Stack] (setup : Setup) : Asks kind (settings setup) := by
  unfold settings
  split
  · exact .pure _
  · exact .throw (by simp)

theorem asks_reportedSettings [Stack] (setup : Setup) : Asks kind (reportedSettings setup) := by
  unfold reportedSettings
  split
  · exact .pure _
  · exact .throw (by simp)

/-- Whether there is a store is told by the setup alone. -/
theorem asks_requireStore (setup : Setup) : Asks kind (requireStore setup) := by
  unfold requireStore
  split
  · exact .pure _
  · exact .throw (by simp)

/-- A reply of the user service that names no user is refused with 401. -/
theorem failing_userOf [Stack] {reply : Reply} {e : Refusal} (h : userOf reply = .error e) : e.Failing := by
  unfold userOf at h
  split at h
  · obtain rfl := Except.error.inj h
    simp
  · obtain rfl := Except.error.inj h
    simp [invalidToken]
  · obtain rfl := Except.error.inj h
    simp [invalidToken]
  · split at h
    · obtain rfl := Except.error.inj h
      simp [invalidToken]
    · split at h
      · cases h
      · obtain rfl := Except.error.inj h
        simp [invalidToken]

/-- A token is verified by the user service: a request is made and its reply awaited, but the store is not asked. -/
theorem asks_verified [Stack] (setup : Setup) (token : String) : Asks kind (verified setup token) := by
  unfold verified
  refine .bind (asks_settings setup) fun settings => ?_
  split
  · exact .throw (by simp [invalidToken])
  · refine .bind .nextReply fun reply => .bind (.record _) fun _ => ?_
    split
    · exact .throw (by simp [invalidToken])
    · split
      · exact .pure _
      · rename_i refusal hrefused
        exact .throw (failing_userOf hrefused)

/-- Who sends a request is found out without the store. -/
theorem asks_currentUser [Stack] (setup : Setup) (r : Received) : Asks kind (currentUser setup r) := by
  unfold currentUser
  split
  · exact .throw (by simp [notAuthenticated])
  · refine .bind (asks_verified setup _) fun id => ?_
    split
    · exact .throw (by simp [notAuthenticated])
    · exact .pure _

/-! ## Versions -/

/-- The id of a row is read off the row. -/
theorem asks_rowId (row : Row) : Asks kind (rowId row) := by
  unfold rowId
  split
  · exact .pure _
  · exact .throw (by simp)

/-- A version is told of from the rows that were read before, for the definition is one of their columns. -/
theorem asks_versionResponse (version form : Row) : Asks kind (versionResponse version form) := by
  unfold versionResponse
  refine .bind (.store (Store.asks_formOf kind version form)) fun definition => .bind (asks_rowId version) fun id => ?_
  -- both ways to find the id of the form go on with the same steps
  extract_lets rest
  have hrest : ∀ formId, Asks kind (rest formId) := by
    intro formId
    unfold rest
    dsimp only
    split
    · exact .throw (by simp)
    · exact .pure _
  split
  · exact .bind (asks_rowId form) hrest
  · exact .bind (.pure _) hrest

/-- The list of versions, the latest one and a single one take reads of rows of the form. -/
theorem asks_listVersions (formId : String) (user : Json) : Asks (Query.Reads formId) (listVersions formId user) :=
  .bind (.store (Store.reads_versions formId _)) fun _ => .pure _

theorem asks_latestVersion (formId : String) (user : Json) : Asks (Query.Reads formId) (latestVersion formId user) :=
  .bind (.store (Store.reads_form formId _)) fun form =>
    .bind (.store (Store.reads_latestVersion formId none)) fun version => asks_versionResponse version form

theorem asks_oneVersion (formId versionId : String) (user : Json) :
    Asks (Query.Reads formId) (oneVersion formId versionId user) :=
  .bind (.store (Store.reads_form formId _)) fun form =>
    .bind (.store (Store.reads_version formId versionId none)) fun version => asks_versionResponse version form

/-- A save asks about the form that it is sent to, and about no other. -/
theorem asks_saveVersion (formId : String) (user : Json) (request : SaveRequest) :
    Asks (Query.Concerns formId) (saveVersion formId user request) :=
  .bind (.store (Store.concerns_save formId user _ _)) fun version => asks_versionResponse version _

/-- Neither does a restore, which reads the form once more to tell of it. -/
theorem asks_restoreVersion (formId versionId : String) (user : Json) :
    Asks (Query.Concerns formId) (restoreVersion formId versionId user) :=
  .bind (.store (Store.concerns_restore formId versionId user)) fun version =>
    .bind (.store ((Store.reads_form formId none).mono fun _ => .inl)) fun form => asks_versionResponse version form

/-! ## Exports, previews and submissions -/

/-- Ids are put in order without the store. -/
theorem asks_numbered (form : Form) : Asks kind (numbered form) := by
  unfold numbered
  split
  · exact .pure _
  · exact .throw (by simp)

/-- An artifact is compiled from the form and the settings. -/
theorem asks_artifactOf [Stack] (setup : Setup) (form : Form) : Asks kind (artifactOf setup form) := by
  unfold artifactOf
  refine .bind (asks_reportedSettings setup) fun settings => ?_
  split
  · exact .pure _
  · exact .throw (by simp)

/-- A download reads the definition of the form, as its author or not at all. -/
theorem asks_download [Stack] (setup : Setup) (formId versionId file : String) (user : Json) :
    Asks (Query.Reads formId) (download setup formId versionId file user) := by
  unfold download
  split
  · exact .throw (by simp)
  · refine .bind (.store (Store.reads_definition formId _ _)) fun form => .bind (asks_numbered form) fun form => ?_
    refine .bind (asks_artifactOf setup form) fun artifact => ?_
    split
    · exact .throw (by simp)
    · exact .pure _

/-- The export takes the form from the request. -/
theorem asks_exportNumbered (form : Form) : Asks kind (exportNumbered form) :=
  .bind (asks_numbered form) fun _ => .pure _

/-- So does the export of an artifact, whose ids are put in order first if that is asked for. -/
theorem asks_exportCompiled [Stack] (setup : Setup) (request : CompileRequest) :
    Asks kind (exportCompiled setup request) := by
  unfold exportCompiled
  extract_lets rest
  have hrest : ∀ form, Asks kind (rest form) := by
    intro form
    refine .bind (asks_artifactOf setup form) fun artifact => ?_
    dsimp only
    split
    · exact .pure _
    · exact .pure _
  split
  · exact .bind (asks_numbered _) hrest
  · exact .bind (.pure _) hrest

/-- A fault of a session is told with 500. -/
theorem asks_orSessionFault (x : Except Session.Fault α) : Asks kind (orSessionFault x) := by
  unfold orSessionFault
  split
  · exact .pure _
  · exact .throw (by simp)

/-- A value that fails a check is told with 422, by the report of the check. -/
theorem asks_orReport (name : Text) (c : Checked α) (f : α → Json) : Asks kind (orReport name c f) := by
  unfold orReport
  split
  · exact .pure _
  · exact .throw (by simp)

/-- An answer is checked by the type of its question. -/
theorem asks_shapedAnswer (q : Question) (value : Json) : Asks kind (shapedAnswer q value) := by
  unfold shapedAnswer
  split
  · exact asks_orReport _ _ _
  · exact asks_orReport _ _ _
  · exact .pure _

/-- The question of an operation is looked for in the form of the request. -/
theorem asks_namedQuestion (request : SessionRequest) : Asks kind (namedQuestion request) := by
  unfold namedQuestion
  dsimp only
  split
  · exact .pure _
  · exact .throw (by simp)

/-- An operation of a session is done on the state in the request. -/
theorem asks_act (request : SessionRequest) (s : Session) : Asks kind (act request s) := by
  unfold act
  split
  · exact .pure _
  · exact .bind (asks_namedQuestion request) fun q => .bind (asks_shapedAnswer q _) fun _ => .pure _
  · exact .bind (asks_namedQuestion request) fun _ => .pure _
  · exact .pure _
  · exact .pure _
  · exact .pure _

/-- Previews of sessions and of redirects are computed from the request. -/
theorem asks_previewSession [Stack] (request : SessionRequest) : Asks kind (previewSession request) :=
  .bind (asks_orSessionFault _) fun _ => .bind (asks_act request _) fun _ =>
    .bind (asks_orSessionFault _) fun _ => .pure _

/-- Where no text can be made of an answer, the request fails with 500. -/
theorem asks_orTextError (x : Except TextError α) : Asks kind (orTextError x) := by
  unfold orTextError
  split
  · exact .pure _
  · exact .throw (by simp)

theorem asks_previewRedirect [Stack] (request : ResolveRequest) : Asks kind (previewRedirect request) :=
  .bind (asks_orTextError _) fun _ => .pure _

/-- A postcode look-up fails with the status of its error, or with 500. -/
theorem failing_lookupRefusal (e : LookupFailure) : (lookupRefusal e).Failing := by
  unfold lookupRefusal
  split
  · rename_i e
    cases e <;> simp [LookupError.status]
  all_goals simp

/-- Addresses are looked up at a service of their own. -/
theorem asks_previewPostcode [Stack] (setup : Setup) (request : PostcodeRequest) :
    Asks kind (previewPostcode setup request) := by
  unfold previewPostcode
  refine .bind (asks_settings setup) fun settings => .bind .nextReply fun reply => ?_
  refine .bind (.record _) fun _ => ?_
  split
  · exact .throw (failing_lookupRefusal _)
  · exact .pure _

/-- A submission reads at most the definition of the form that it names. -/
theorem asks_submit [Stack] (setup : Setup) (request : SubmitRequest) :
    Asks (fun q => ∃ formId, q.Reads formId) (submit setup request) := by
  unfold submit
  -- the form comes with the request or from the store, and what follows is done with either
  extract_lets rest
  have hrest : ∀ form, Asks (fun q => ∃ formId, q.Reads formId) (rest form) := by
    intro form
    refine .bind (asks_orTextError _) fun redirect => ?_
    dsimp only
    split
    · exact .bind (.pure _) fun _ => .pure _
    · exact .bind (asks_orTextError _) fun _ => .bind (asks_reportedSettings setup) fun _ =>
        .bind (.pure _) fun _ => .pure _
  split
  · exact .bind (.pure _) hrest
  · exact .bind (.store ((Store.reads_definition _ _ _).mono fun _ h => ⟨_, h⟩)) hrest

/-- The webhook is called after the response, and the store has no part in it. -/
theorem asks_deliver (scheduled : Option Scheduled) : Asks kind (deliver scheduled) := by
  unfold deliver
  split
  · exact .pure _
  · exact .bind .nextReply fun _ => .record _

/-! ## Endpoints -/

theorem asks_plain {response : ServiceM Response} (h : Asks kind response) : Asks kind (plain response) :=
  .bind h fun _ => .pure _

/-- What is done for an author is done after who sends the request is known. -/
theorem asks_authored [Stack] (setup : Setup) (r : Received) {f : Json → ServiceM Response}
    (h : ∀ user, Asks kind (f user)) : Asks kind (authored setup r f) :=
  asks_plain (.bind (asks_currentUser setup r) fun user => .bind (asks_requireStore setup) fun _ => h user)

end Service

/-- The queries that an endpoint may ask. -/
def Endpoint.MayAsk : Endpoint → Query → Prop
  | listVersions form => Query.Reads form
  | latestVersion form => Query.Reads form
  | oneVersion form _ => Query.Reads form
  | download form _ _ => Query.Reads form
  | saveVersion form => Query.Concerns form
  | restoreVersion form _ => Query.Concerns form
  | submit => fun q => ∃ form, q.Reads form
  | root | health | previewSession | previewRedirect | previewPostcode | exportNumbered | exportCompiled =>
    fun _ => False

namespace Service

/-- What an endpoint answers is found by the queries that the endpoint may ask. -/
theorem asks_answer [Stack] (setup : Setup) (r : Received) (endpoint : Endpoint) :
    Asks endpoint.MayAsk (answer setup r endpoint) := by
  -- one case for each endpoint, built like its handler
  cases endpoint with
  | root => exact .pure _
  | health => exact .pure _
  | submit =>
    exact .bind (asks_body r) fun body => .bind (asks_requireStore setup) fun _ =>
      .bind (asks_checked _ body) fun request => asks_submit setup request
  | listVersions form => exact asks_authored setup r (asks_listVersions form)
  | latestVersion form => exact asks_authored setup r (asks_latestVersion form)
  | oneVersion form version => exact asks_authored setup r (asks_oneVersion form version)
  | saveVersion form =>
    exact .bind (asks_body r) fun body => asks_authored setup r fun user =>
      .bind (asks_checked _ body) fun request => asks_saveVersion form user request
  | restoreVersion form version => exact asks_authored setup r (asks_restoreVersion form version)
  | previewSession =>
    exact asks_plain (.bind (asks_body r) fun body => .bind (asks_checked _ body) asks_previewSession)
  | previewRedirect =>
    exact asks_plain (.bind (asks_body r) fun body => .bind (asks_checked _ body) asks_previewRedirect)
  | previewPostcode =>
    exact asks_plain (.bind (asks_body r) fun body => .bind (asks_checked _ body) (asks_previewPostcode setup))
  | exportNumbered =>
    exact asks_plain (.bind (asks_body r) fun body => .bind (asks_checked _ body) asks_exportNumbered)
  | exportCompiled =>
    exact asks_plain (.bind (asks_body r) fun body => .bind (asks_checked _ body) (asks_exportCompiled setup))
  | download form version file => exact asks_authored setup r (asks_download setup form version file)

/-- Delivering what was scheduled adds no queries. -/
theorem asks_respond [Stack] (setup : Setup) (r : Received) (endpoint : Endpoint) :
    Asks endpoint.MayAsk (respond setup r endpoint) := by
  unfold respond
  refine .bind (asks_answer setup r endpoint) fun answered => ?_
  obtain ⟨response, scheduled⟩ := answered
  dsimp only
  split
  · exact .bind (asks_deliver scheduled) fun _ => .pure _
  · exact .pure _

/-! ## Requests -/

/-- A request, and what other services will reply while it is answered. -/
structure Incoming where
  request : Request
  replies : List Reply

namespace Incoming

/-- Handles the request. -/
def handle [Stack] (setup : Setup) (i : Incoming) (c : Connection) : Handled :=
  Service.handle setup i.request i.replies c

/-- Does the request reach an endpoint? -/
def Reaches (i : Incoming) (r : Received) (endpoint : Endpoint) : Prop :=
  i.request.sent = .ok r ∧ announcedMethod? r = none ∧ Endpoint.find r.method r.path = .ok endpoint

end Incoming

/-- The connection after requests that follow each other. -/
def after [Stack] (setup : Setup) (c : Connection) : List Incoming → Connection
  | [] => c
  | i :: is => after setup (i.handle setup c).connection is

/-- Is the client told of a success? -/
def Handled.Succeeds (h : Handled) : Prop :=
  ∃ delivered, h.response = .ok delivered ∧ 200 ≤ delivered.status ∧ delivered.status < 300

/-- What the client gets for what an endpoint gives. -/
def delivered [Stack] (setup : Setup) (r : Received) (result : Except Refusal Response) : Except NoResponse Delivered :=
  let response := match result with
    | .ok response => sendable setup r response
    | .error refusal => refusalResponse setup r refusal
  match response with
  | .error e => .error (.badSettings e)
  | .ok response => (response.sent r.method).mapError .unwritable

variable {setup : Setup} {i : Incoming} {r : Received} {endpoint : Endpoint}

/-- A request that reaches an endpoint is handled by one run of its handler. -/
theorem handle_of_reaches [Stack] (h : i.Reaches r endpoint) (c : Connection) :
    let ran := (respond setup r endpoint).run.run { connection := c, replies := i.replies }
    i.handle setup c = ⟨delivered setup r ran.1, ran.2.sent, ran.2.connection⟩ := by
  intro ran
  obtain ⟨hsent, hannounced, hfind⟩ := h
  have hran : (respond setup r endpoint).run.run { connection := c, replies := i.replies } = ran := rfl
  unfold Incoming.handle handle
  rw [hsent]
  dsimp only
  unfold response
  rw [hannounced, hfind]
  dsimp only
  unfold responseAt delivered
  rw [hran]
  clear_value ran
  rcases ran with ⟨e | a, x⟩ <;> rfl

/-- A request that reaches no endpoint does nothing. -/
theorem handle_of_not_reaches [Stack] (h : ∀ r endpoint, ¬ i.Reaches r endpoint) (c : Connection) :
    (i.handle setup c).connection = c := by
  unfold Incoming.handle handle
  cases hsent : i.request.sent with
  | error e => rfl
  | ok r =>
    dsimp only
    unfold response
    cases hannounced : announcedMethod? r with
    | some method => rfl
    | none =>
      cases hfind : Endpoint.find r.method r.path with
      | error e => rfl
      -- a request that is received, with its own method and at a known path, does reach one
      | ok endpoint => exact absurd ⟨hsent, hannounced, hfind⟩ (h r endpoint)

/-- The response to an unexpected error has the status 500. -/
theorem unexpected_status [Stack] {cause : Text} {response : Response} (h : unexpected setup cause = .ok response) :
    response.status = 500 := by
  unfold unexpected at h
  cases hsettings : Settings.read setup.environment with
  | error e =>
    rw [hsettings] at h
    cases h
  | ok settings =>
    rw [hsettings] at h
    obtain rfl := Except.ok.inj h
    rfl

/-- A response that cannot be written is replaced by one with the status 500. -/
theorem sendable_status [Stack] {response response' : Response} (h : sendable setup r response = .ok response') :
    response'.status = response.status ∨ response'.status = 500 := by
  unfold sendable at h
  split at h
  · obtain rfl := Except.ok.inj h
    exact .inl rfl
  · exact .inr (unexpected_status h)

/-- A refusal is no success. -/
theorem status_of_refused [Stack] {refusal : Refusal} (hfailing : refusal.Failing) {response : Response}
    (h : refusalResponse setup r refusal = .ok response) : 400 ≤ response.status := by
  -- what is sent in its place, if it cannot be written, is an error as well
  have hsendable : ∀ {status : Nat} {v : Json}, 400 ≤ status → sendable setup r (.detail status v) = .ok response →
      400 ≤ response.status := by
    intro status v hstatus hsent
    rcases sendable_status hsent with hsame | hunexpected
    · rw [hsame]
      exact hstatus
    · omega
  cases refusal with
  | detail status text => exact hsendable hfailing h
  | notJson e =>
    unfold refusalResponse notJsonResponse at h
    exact hsendable (by decide : 400 ≤ 422) h
  | invalidBody issues => exact hsendable (by decide : 400 ≤ 422) h
  | unexpected cause =>
    rw [unexpected_status h]
    decide
  | badSettings e => cases h

/-- Writing keeps the status. -/
theorem sent_status {response : Response} {method : String} {d : Delivered} (h : response.sent method = .ok d) :
    d.status = response.status := by
  unfold Response.sent at h
  cases hwritten : response.content.written with
  | error e =>
    rw [hwritten] at h
    cases h
  | ok body =>
    rw [hwritten] at h
    obtain rfl := Except.ok.inj h
    rfl

/-- The client is not told of a success where the endpoint refuses. -/
theorem delivered_refused [Stack] {refusal : Refusal} (hfailing : refusal.Failing) {d : Delivered}
    (h : delivered setup r (.error refusal) = .ok d) : 400 ≤ d.status := by
  unfold delivered at h
  dsimp only at h
  cases hresponse : refusalResponse setup r refusal with
  | error e =>
    rw [hresponse] at h
    cases h
  | ok response =>
    rw [hresponse] at h
    dsimp only at h
    cases hsent : response.sent r.method with
    | error e =>
      rw [hsent] at h
      cases h
    | ok d' =>
      rw [hsent] at h
      obtain rfl := Except.ok.inj h
      rw [sent_status hsent]
      exact status_of_refused hfailing hresponse

/-- A response that can be written reaches the client with its status. -/
theorem delivered_written [Stack] {response : Response} (hwritten : response.content.written.isOk = true) :
    ∃ d, delivered setup r (.ok response) = .ok d ∧ d.status = response.status := by
  cases hbody : response.content.written with
  | error e =>
    rw [hbody] at hwritten
    cases hwritten
  | ok body =>
    have hsendable : sendable setup r response = .ok (shared r response) := by rw [sendable, hbody]
    -- to be shared with other origins adds headers, and the content is the one that was written
    have hsent : ∃ d, (shared r response).sent r.method = .ok d := by
      have hshared : (shared r response).content.written = .ok body := hbody
      rw [Response.sent, hshared]
      exact ⟨_, rfl⟩
    obtain ⟨d, hsent⟩ := hsent
    refine ⟨d, ?_, (sent_status hsent).trans rfl⟩
    simp only [delivered, hsendable, hsent, Except.mapError]

/-- A response that can be written, with a status of success and nothing to deliver after it, is a success. -/
theorem succeeds_of_answer [Stack] {c : Connection} {response : Response} {x : Exchange}
    (hreaches : i.Reaches r endpoint)
    (hanswer : (answer setup r endpoint).run.run ⟨c, i.replies, []⟩ = (.ok (response, none), x))
    (hwritten : response.content.written.isOk = true) (hstatus : 200 ≤ response.status ∧ response.status < 300) :
    (i.handle setup c).Succeeds ∧ (i.handle setup c).connection = x.connection := by
  have hrespond : (respond setup r endpoint).run.run ⟨c, i.replies, []⟩ = (.ok response, x) := by
    unfold respond
    rw [run_bind, hanswer]
    dsimp only
    rw [if_pos hwritten]
    rfl
  obtain ⟨d, hdelivered, hsame⟩ : ∃ d, delivered setup r (.ok response) = .ok d ∧ d.status = response.status :=
    delivered_written hwritten
  rw [handle_of_reaches hreaches, hrespond]
  exact ⟨⟨d, hdelivered, by rwa [hsame]⟩, rfl⟩

/-! ## Settings that suffice -/

/-- The variables that the service cannot do without. -/
def requiredVariables : Environment :=
  [("SUPABASE_URL", "https://users"), ("SUPABASE_SERVICE_ROLE_KEY", "s"), ("SUPABASE_ANON_KEY", "a")]

/-- The fields that they are read as. -/
def requiredFields : Fields :=
  [("supabase_url", .str "https://users"), ("supabase_service_role_key", .str "s"), ("supabase_anon_key", .str "a")]

/-- The variables are read by their names in lower case. -/
theorem fields_requiredVariables [Stack] : Settings.fields requiredVariables = .ok requiredFields := by
  -- each name is put in lower case by itself, for within the fields it would be at every comparison
  have hurl : "SUPABASE_URL".toLower = "supabase_url" := by decide +kernel
  have hrole : "SUPABASE_SERVICE_ROLE_KEY".toLower = "supabase_service_role_key" := by decide +kernel
  have hkey : "SUPABASE_ANON_KEY".toLower = "supabase_anon_key" := by decide +kernel
  have hentries : Fields.ofEntries [("supabase_url", .str "https://users"),
      ("supabase_service_role_key", .str "s"), ("supabase_anon_key", .str "a")] = requiredFields := by decide +kernel
  have horigins : requiredFields.get? Settings.originsName = none := by decide +kernel
  rw [Settings.fields]
  simp only [requiredVariables, List.map_cons, List.map_nil, hurl, hrole, hkey, hentries, horigins]

/-- The settings that they are. -/
def requiredSettings : Settings where
  userServiceUrl := "https://users"
  userServiceKey := "a"
  environment := "development"
  artifact := { classPrefix := "qform-", storageKey := .str "qform-answers", redirectDelay := .int 2000 }
  postcodeApiUrl := ""
  postcodeApiKey := ""

/-- With the required variables the service has its settings. -/
theorem read_requiredVariables [Stack] : Settings.read requiredVariables = .ok requiredSettings := by
  have hread : (Settings.readFields requiredFields).result = .ok requiredSettings := by decide +kernel
  unfold Settings.read
  rw [fields_requiredVariables]
  change (Settings.readFields requiredFields).result.mapError .invalid = _
  rw [hread, Except.mapError]

end Service
end Questionnaire
