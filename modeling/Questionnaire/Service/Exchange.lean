import Questionnaire.Service.Message
import Questionnaire.Service.Settings
import Questionnaire.Store.Versions
import Questionnaire.Web.Outbound

/-!
# Answering a request

While a request is answered, other services are asked and the tables are read and changed. An endpoint
gives a response or ends early with a refusal.

* `ServiceM`: a step of answering.
* `Refusal`: the ways of ending early.
-/

namespace Questionnaire

/-- Why a request gets no regular answer. -/
inductive Refusal where
  /-- An error that the service reports with a status. -/
  | detail (status : Nat) (text : Text)
  /-- A body that is no JSON. -/
  | notJson (e : ParseError)
  /-- A body of the wrong shape. -/
  | invalidBody (issues : List Issue)
  /-- An error that nothing in the service expects. -/
  | unexpected (text : Text)
  /-- Settings that cannot be read, where nothing in the service expects that. -/
  | badSettings (e : SettingsError)
deriving DecidableEq, Repr

/-- What a request is answered with: the tables, and what other services will reply. -/
structure Exchange where
  connection : Connection
  /-- The replies to come; after the last, every reply is the standard one. -/
  replies : List Reply
  /-- The requests made to other services. -/
  sent : List OutboundRequest := []

/-- What does not change while a request is answered. -/
structure Setup where
  environment : Environment
  /-- Why the tables are out of reach, if they are. -/
  outage : Option Text := none

/-- A step of answering a request. -/
abbrev ServiceM := ExceptT Refusal (StateM Exchange)

namespace Service

variable [Stack]

/-- The settings. -/
def settings (setup : Setup) : ServiceM Settings :=
  match Settings.read setup.environment with
  | .ok settings => return settings
  | .error e => throw (.badSettings e)

/-- The settings, where an endpoint reports that they cannot be read. -/
def reportedSettings (setup : Setup) : ServiceM Settings :=
  match Settings.read setup.environment with
  | .ok settings => return settings
  | .error e => throw (.detail 500 e.report)

/-- The next reply of another service, whether it is asked or not. -/
def nextReply : ServiceM Reply := do return ((← get).replies.head?).getD .standard

/-- Records a request to another service, which uses up a reply. -/
def record (request : Option OutboundRequest) : ServiceM Unit :=
  match request with
  | none => return ()
  | some request => modify fun x => { x with replies := x.replies.tail, sent := x.sent ++ [request] }

/-- The wording of a store error in a response. -/
def storeErrorText : StoreError → Text
  | .unreadable (.invalid issues) => Issue.report "FormDefinition" issues
  | e => e.message

/-- A store error as a refusal: what is not there, what belongs to others, and everything else. -/
def storeRefusal (e : StoreError) : Refusal :=
  match e with
  | .accessDenied _ => .detail 403 "Access denied"
  | e => if e.isNotFound then .detail 404 e.message else .detail 500 (storeErrorText e)

/-- An operation on forms and versions. -/
def store {α : Type} (operation : StoreM α) : ServiceM α := do
  let x ← get
  let (result, connection) := operation.run.run x.connection
  set { x with connection }
  match result with
  | .ok a => return a
  | .error e => throw (storeRefusal e)

/-- The tables must be within reach. -/
def requireStore (setup : Setup) : ServiceM Unit :=
  match setup.outage with
  | none => return ()
  | some reason => throw (.unexpected reason)

/-- Is a media type one of JSON documents? -/
def isJsonType (mediaType : String) : Bool :=
  let essence := (Text.strip (Text.splitAt ';' mediaType).1).lowerAscii
  match Text.pieces '/' essence with
  | [main, sub] => main = "application" && (sub = "json" || ("+json" : Text).isSuffixOf sub)
  | _ => false

/-- The JSON value of a request's body, if it has one: a text if it is not sent as JSON. -/
def body (r : Received) : ServiceM (Option Json) :=
  match r.body with
  | none => return none
  | some text =>
    if isJsonType ((r.header? "content-type").getD "application/json") then
      match Json.parseSent text with
      | .ok v => return some v
      | .error e =>
        throw (if e.fault.isNotation then .notJson e else .detail 400 "There was an error parsing the body")
    else return some (.str text)

/-- A body of a shape. -/
def checked {α : Type} (shape : Shape α) (body : Option Json) : ServiceM α :=
  match body with
  | none => throw (.invalidBody [⟨[], .missing, .null⟩])
  | some body =>
    match (shape body).result with
    | .ok a => return a
    | .error issues => throw (.invalidBody issues)

end Service
end Questionnaire
