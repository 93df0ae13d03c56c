import Questionnaire.Service.Submit
import Questionnaire.Session
import Questionnaire.Web.AddressLookup

/-!
# Previews

An author tries a form out. The client carries the session: each request brings the form, the answers
and the place, and gets them back after one action.
-/

namespace Questionnaire.Service

variable [Stack]

/-- What a respondent may do. -/
inductive Action where
  | state
  | answer
  | toggle
  | next
  | back
  | reset
deriving DecidableEq, Repr

namespace Action

/-- The actions with their words. -/
def words : List (Text × Action) :=
  [("state", state), ("answer", answer), ("toggle", toggle), ("next", next), ("back", back), ("reset", reset)]

end Action

/-- What a client sends to take a step in a session. -/
structure SessionRequest where
  form : Form
  answers : Answers
  currentId : Option Text
  submitted : Bool
  action : Action
  questionId : Option Text
  value : Json
  optionId : Option Text

namespace SessionRequest

/-- An answer names its question, and a toggle its option too. -/
def rule (r : SessionRequest) : Option Text :=
  let noQuestion := r.questionId.getD [] = []
  let noOption := r.optionId.getD [] = []
  match r.action with
  | .answer => if noQuestion then some "question_id is required for action 'answer'" else none
  | .toggle =>
    if noQuestion then some "question_id is required for action 'toggle'"
    else if noOption then some "option_id is required for action 'toggle'"
    else none
  | _ => none

/-- The shape of a step in a session. -/
def shape : Shape SessionRequest := .record "PreviewSessionRequest" fun fields =>
  Checked.obeying (.obj fields)
    (SessionRequest.mk
      <$> Key.required "definition" Form.shape fields
      <*> Key.withDefault "answers" .mapping [] fields
      <*> Key.withDefault "current_question_id" (.optional .text) none fields
      <*> Key.withDefault "submitted" .truth false fields
      <*> Key.withDefault "action" (.word Action.words) .state fields
      <*> Key.withDefault "question_id" (.optional .text) none fields
      <*> Key.withDefault "value" .any .null fields
      <*> Key.withDefault "option_id" (.optional .text) none fields)
    rule

end SessionRequest

/-- What was read of an answer, or a report on what is wrong with it. -/
def orReport {α : Type} (name : Text) (c : Checked α) (f : α → Json) : ServiceM Json :=
  match c.result with
  | .ok a => return f a
  | .error issues => throw (.detail 422 (Issue.report name issues))

/-- An answer in the shape that its question takes; only addresses and contacts have one. -/
def shapedAnswer (q : Question) (value : Json) : ServiceM Json :=
  match q.kind, value with
  | .address, .obj fields => orReport "AddressAnswer" (AddressAnswer.shape (.obj fields)) AddressAnswer.toJson
  | .contact, .obj fields => orReport "ContactAnswer" (ContactAnswer.shape (.obj fields)) ContactAnswer.toJson
  | _, value => return value

/-- The question that an action names. -/
def namedQuestion (request : SessionRequest) : ServiceM Question := do
  let id := request.questionId.getD []
  match request.form.question? id with
  | some q => return q
  | none => throw (.detail 404 ("Question " ++ id ++ " not found"))

/-- The session after an action, and whether it could be done. -/
def act (request : SessionRequest) (s : Session) : ServiceM (Bool × Session) := do
  match request.action with
  | .state => return (true, s)
  | .answer =>
    let q ← namedQuestion request
    let value ← shapedAnswer q request.value
    return (true, s.setAnswer q.id value)
  | .toggle =>
    let q ← namedQuestion request
    return (true, s.toggle q.id (.str (request.optionId.getD [])))
  | .next => return s.next
  | .back => return s.back
  | .reset => return (true, s.reset)

/-- The value of a step of a session, or the refusal of one that fails. -/
def orSessionFault {α : Type} (x : Except Session.Fault α) : ServiceM α :=
  match x with
  | .ok a => return a
  | .error e => throw (.detail 500 e.message)

/-- Takes a step in a session. -/
def previewSession (request : SessionRequest) : ServiceM Response := do
  let answers ← orSessionFault (Session.copied request.answers)
  let start := Session.start request.form answers request.currentId request.submitted
  let (applied, s) ← act request start
  let snapshot ← orSessionFault s.snapshot
  return .ok (.obj (snapshot.fields ++ ([("applied", .bool applied)] : Fields)))

/-- What a client sends to see where a submission would lead. -/
structure ResolveRequest where
  form : Form
  answers : Answers

/-- The shape of a question where a submission would lead. -/
def ResolveRequest.shape : Shape ResolveRequest := .record "ResolveRequest" fun fields =>
  ResolveRequest.mk
    <$> Key.required "definition" Form.shape fields
    <*> Key.withDefault "answers" .mapping [] fields

/-- Says where a submission would lead. -/
def previewRedirect (request : ResolveRequest) : ServiceM Response := do
  let url ← orTextError (request.form.redirect request.answers)
  return .ok (.obj [("redirect_url", .str url)])

/-- What a client sends to look up a postcode. -/
structure PostcodeRequest where
  postcode : Text
  form : Option Form
  questionId : Option Text

/-- The shape of a request to look up a postcode. -/
def PostcodeRequest.shape : Shape PostcodeRequest := .record "PostcodeLookupRequest" fun fields =>
  PostcodeRequest.mk
    <$> Key.required "postcode" .text fields
    <*> Key.withDefault "definition" (.optional Form.shape) none fields
    <*> Key.withDefault "question_id" (.optional .text) none fields

/-- The first of two texts unless it is empty. -/
def textOr (a b : Text) : Text := if a = [] then b else a

/-- The provider for a question: its own, else that of the form, else that of the service. -/
def providerUrl (settings : Settings) (request : PostcodeRequest) : Text :=
  match request.form with
  | none => settings.postcodeApiUrl
  | some form =>
    let own := ((form.question? (request.questionId.getD [])).bind (·.postcodeApi)).getD []
    let own := if request.questionId.getD [] = [] then [] else own
    textOr own (textOr form.settings.postcodeApiUrl settings.postcodeApiUrl)

/-- The key for the provider: that of the form, else that of the service. -/
def providerKey (settings : Settings) (request : PostcodeRequest) : Text :=
  match request.form with
  | none => settings.postcodeApiKey
  | some form => textOr form.settings.postcodeApiKey settings.postcodeApiKey

/-- A failed look-up as a refusal. -/
def lookupRefusal : LookupFailure → Refusal
  | .refused e => .detail e.status e.message
  | .url e => .detail 500 e.message
  | .text e => .detail 500 e.message
  | .depth e => .detail 500 e.message
  | .reply e => .detail 500 e.message
  | .failure reason => .detail 500 reason

/-- Looks up the addresses of a postcode. -/
def previewPostcode (setup : Setup) (request : PostcodeRequest) : ServiceM Response := do
  let settings ← settings setup
  let lookup := AddressLookup.run request.postcode (providerUrl settings request) (providerKey settings request)
    (← nextReply)
  record lookup.request
  match lookup.result with
  | .error e => throw (lookupRefusal e)
  | .ok addresses =>
    return .ok (.obj [("postcode", .str (Text.strip request.postcode)),
      ("candidates", .arr (addresses.map AddressAnswer.toJson))])

end Questionnaire.Service
