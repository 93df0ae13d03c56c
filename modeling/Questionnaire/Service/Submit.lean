import Questionnaire.Redirect
import Questionnaire.Service.Exchange
import Questionnaire.Submission
import Questionnaire.Web.Webhook

/-!
# Submissions

A respondent submits answers to a form that is sent along or stored. The response names the address to
go on to; the delivery to a webhook follows after it and cannot change it.
-/

namespace Questionnaire.Service

variable [Stack]

/-- What a client sends to submit answers. -/
structure SubmitRequest where
  form : Option Form
  formId : Option Text
  versionId : Option Text
  answers : Answers

namespace SubmitRequest

/-- A request names a form or brings one along. -/
def rule (r : SubmitRequest) : Option Text :=
  if r.form.isNone && r.formId.getD [] = [] then some "Either definition or form_id is required" else none

/-- The shape of a submission. -/
def shape : Shape SubmitRequest := .record "SubmitRequest" fun fields =>
  Checked.obeying (.obj fields)
    (SubmitRequest.mk
      <$> Key.withDefault "definition" (.optional Form.shape) none fields
      <*> Key.withDefault "form_id" (.optional .text) none fields
      <*> Key.withDefault "version_id" (.optional .text) none fields
      <*> Key.withDefault "answers" .mapping [] fields)
    rule

end SubmitRequest

/-- The value of a step that may meet a value without a text. -/
def orTextError {α : Type} (x : Except TextError α) : ServiceM α :=
  match x with
  | .ok a => return a
  | .error e => throw (.detail 500 e.message)

/-- A delivery that is to follow a response. -/
structure Scheduled where
  url : Text
  payload : Fields

/-- Answers a submission, and says what is to be delivered after the response. -/
def submit (setup : Setup) (request : SubmitRequest) : ServiceM (Response × Option Scheduled) := do
  let form ← match request.form with
    | some form => pure form
    | none => store (Store.definition (request.formId.getD []) request.versionId none)
  let redirect ← orTextError (form.redirect request.answers)
  let url := form.settings.webhookUrl
  let scheduled ← if url = [] then pure none else do
    -- the payload is made before the response, so its error is that of the request
    let payload ← orTextError (form.payload request.answers)
    let _ ← reportedSettings setup
    pure (some { url, payload : Scheduled })
  let response := Response.ok (.obj [("success", .bool true), ("redirect_url", .str redirect),
    ("webhook_scheduled", .bool scheduled.isSome)])
  return (response, scheduled)

/-- Delivers what is to follow a response. -/
def deliver (scheduled : Option Scheduled) : ServiceM Unit :=
  match scheduled with
  | none => return ()
  | some { url, payload } => do
    let delivery := Webhook.deliver url (.obj payload) (← nextReply)
    record delivery.request

end Questionnaire.Service
