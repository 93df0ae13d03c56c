import Questionnaire.Artifact.Files
import Questionnaire.Numbering
import Questionnaire.Service.Exchange

/-!
# Exports

The endpoints that number a form and give the files of its artifact.
-/

namespace Questionnaire.Service

variable [Stack]

/-- The numbered form, or the refusal of one that cannot be numbered. -/
def numbered (form : Form) : ServiceM Form :=
  match form.numbered with
  | .ok form => return form
  | .error e => throw (.detail 422 e.message)

/-- New names under old ids. -/
def namesJson (r : Renaming) : Json := .obj (r.entries.map fun (old, new) => (old, .str new))

/-- Numbers a form. -/
def exportNumbered (form : Form) : ServiceM Response := do
  let m := form.idMap
  let form ← numbered form
  return .ok (.obj [("definition", form.toJson), ("question_ids", namesJson m.questions),
    ("option_ids", .obj (m.choices.map fun (old, names) => (old, namesJson names)))])

/-- What a client sends to export a form. -/
structure CompileRequest where
  form : Form
  /-- Is one file wanted that holds everything? -/
  single : Bool
  normalize : Bool

/-- The shape of a request to export a form. -/
def CompileRequest.shape : Shape CompileRequest := .record "CompileRequest" fun fields =>
  CompileRequest.mk
    <$> Key.required "definition" Form.shape fields
    <*> Key.withDefault "mode" (.word [("single", true), ("separate", false)]) false fields
    <*> Key.withDefault "normalize" .truth true fields

/-- The artifact of a form. -/
def artifactOf (setup : Setup) (form : Form) : ServiceM Artifact := do
  let settings ← reportedSettings setup
  match Artifact.ofForm form settings.artifact with
  | .ok artifact => return artifact
  | .error e => throw (.detail 500 e.message)

/-- Files under their names. -/
def filesJson (files : List (String × Text)) : Json := .obj (files.map fun (name, text) => ((name : Text), .str text))

/-- Exports a form that is sent along. -/
def exportCompiled (setup : Setup) (request : CompileRequest) : ServiceM Response := do
  let form ← if request.normalize then numbered request.form else pure request.form
  let artifact ← artifactOf setup form
  let answer (mode : String) (files : List (String × Text)) (single : Json) : Response :=
    .ok (.obj [("mode", .str mode), ("files", filesJson files), ("single_file", single),
      ("normalized_definition", form.toJson)])
  if request.single then
    let document := artifact.singleFile
    return answer "single" [(Artifact.pageName, document)] (.str document)
  else return answer "separate" artifact.files .null

/-- The files of an artifact with their media types. -/
def mediaTypes : List (String × String) :=
  [(Artifact.pageName, "text/html; charset=utf-8"), (Artifact.stylesheetName, "text/css; charset=utf-8"),
    (Artifact.behaviorName, "application/javascript; charset=utf-8")]

/-- Gives one file of the artifact of a stored version. -/
def download (setup : Setup) (formId versionId file : String) (user : Json) : ServiceM Response := do
  match mediaTypes.lookup file with
  | none => throw (.detail 404 ("Unknown artifact file " ++ file : String))
  | some mediaType =>
    let version := if versionId = "latest" then none else some versionId
    let form ← store (Store.definition formId version (some user))
    let form ← numbered form
    let artifact ← artifactOf setup form
    match ((artifact.files.lookup file).getD []).utf8 with
    | .error e => throw (.detail 500 e.message)
    | .ok text => return { status := Response.okStatus, content := .file mediaType file text }

end Questionnaire.Service
