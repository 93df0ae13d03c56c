import Questionnaire.Service.Auth

/-!
# Versions of a form

The endpoints under which the author of a form reads and writes its versions.
-/

namespace Questionnaire.Service

variable [Stack]

/-- What a client sends to save a version. -/
structure SaveRequest where
  form : Form
  message : Option Text

/-- The shape of a request to save a version. -/
def SaveRequest.shape : Shape SaveRequest := .record "SaveVersionRequest" fun fields =>
  SaveRequest.mk
    <$> Key.required "definition" Form.shape fields
    <*> Key.withDefault "commit_message" (.optional .text) none fields

/-- A text or null as JSON. -/
def optionalText : Option Text → Json
  | some s => .str s
  | none => .null

/-- The columns of a version in a response, from its fields in order. -/
def versionFields (id formId : Text) (number : Int) (message createdBy createdAt : Option Text) : Fields :=
  [("id", .str id), ("form_id", .str formId), ("version_number", .int number),
    ("commit_message", optionalText message), ("created_by", optionalText createdBy),
    ("created_at", optionalText createdAt)]

/-- The columns of a version, checked. -/
def versionShape (fields : Fields) : Checked Fields :=
  versionFields
    <$> Key.required "id" .text fields
    <*> Key.required "form_id" .text fields
    <*> Key.required "version_number" .whole fields
    <*> Key.withDefault "commit_message" (.optional .text) none fields
    <*> Key.withDefault "created_by" (.optional .text) none fields
    <*> Key.withDefault "created_at" (.optional .text) none fields

/-- The id in a row, which must have one. -/
def rowId (row : Row) : ServiceM Json :=
  match row.get? "id" with
  | some v => return v
  | none => throw (.detail 500 "'id'")

/-- A version with its form in a response. -/
def versionResponse (version form : Row) : ServiceM Response := do
  let definition ← store (Store.formOf version form)
  let id ← rowId version
  let formId ← if (version.get "form_id").isEmpty then rowId form else pure (version.get "form_id")
  let columns : Fields :=
    [("id", id), ("form_id", formId), ("version_number", (version.get "version_number").orElse (.int 0)),
      ("commit_message", version.get "commit_message"), ("created_by", version.get "created_by"),
      ("created_at", version.get "created_at")]
  match (versionShape columns).result with
  | .error issues => throw (.detail 500 (Issue.report "VersionResponse" issues))
  | .ok fields => return .ok (.obj (fields ++ ([("definition", definition.toJson)] : Fields)))

/-- The versions of a form without their data. -/
def listVersions (formId : String) (user : Json) : ServiceM Response := do
  let rows ← store (Store.versions formId (some user))
  return .ok (.arr (rows.map .obj))

/-- The newest version of a form. -/
def latestVersion (formId : String) (user : Json) : ServiceM Response := do
  let form ← store (Store.form formId (some user))
  let version ← store (Store.latestVersion formId none)
  versionResponse version form

/-- A version of a form. -/
def oneVersion (formId versionId : String) (user : Json) : ServiceM Response := do
  let form ← store (Store.form formId (some user))
  let version ← store (Store.version formId versionId none)
  versionResponse version form

/-- Saves a version of a form. -/
def saveVersion (formId : String) (user : Json) (request : SaveRequest) : ServiceM Response := do
  let version ← store (Store.save formId user request.form (optionalText request.message))
  versionResponse version
    [("id", .str formId), ("title", .str request.form.title), ("description", .str request.form.description)]

/-- Saves an older version of a form again. -/
def restoreVersion (formId versionId : String) (user : Json) : ServiceM Response := do
  let version ← store (Store.restore formId versionId user)
  let form ← store (Store.form formId none)
  versionResponse version form

end Questionnaire.Service
