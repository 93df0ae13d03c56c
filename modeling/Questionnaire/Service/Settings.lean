import Questionnaire.Artifact.Basic
import Questionnaire.Checked
import Questionnaire.Json.Reader

/-!
# Settings of the service

The service is set up by variables of its environment, whose names are read without regard to case.

* `Settings.read`: the settings of an environment.
-/

namespace Questionnaire

/-- The settings that the service's answers depend on. -/
structure Settings where
  /-- Where users are known. -/
  userServiceUrl : Text
  /-- The key that the user service expects. -/
  userServiceKey : Text
  environment : Text
  artifact : ArtifactOptions
  postcodeApiUrl : Text
  postcodeApiKey : Text
deriving DecidableEq

/-- Variables with their values. -/
abbrev Environment := List (String × String)

/-- Why settings cannot be read. -/
inductive SettingsError where
  /-- A variable that holds a list is no JSON. -/
  | unreadable (name : String)
  /-- A variable that holds a list is nested too deeply. -/
  | tooDeep (e : ParseFault)
  | invalid (issues : List Issue)
deriving DecidableEq, Repr

/-- The report on settings that cannot be read. -/
def SettingsError.report : SettingsError → Text
  | unreadable name => "error parsing value for field \"" ++ name ++ "\" from source \"EnvSettingsSource\""
  | tooDeep e => e.message
  | invalid issues => Issue.report "Settings" issues

namespace Settings

/-- The variable that names the pages which may read responses. -/
def originsName : String := "cors_origins"

/-- The variables under the names of settings; the one that holds a list is read as JSON, and null
there counts as absent. -/
def fields [Stack] (environment : Environment) : Except SettingsError Fields :=
  let fields := Fields.ofEntries (environment.map fun (name, value) => (name.toLower, .str value))
  match fields.get? originsName with
  | some (.str text) =>
    match Json.Reader.parseText Text.maxDigits Stack.readingRoom text with
    | .ok .null => .ok (fields.erase originsName)
    | .ok v => .ok (fields.set originsName v)
    | .error ⟨.tooDeep inObject, _⟩ => .error (.tooDeep (.tooDeep inObject))
    | .error _ => .error (.unreadable originsName)
  | _ => .ok fields

/-- A number of seconds; only its form is checked. -/
def seconds : Shape Unit
  | .str s => if Text.isDecimal s then .accept () else .refuse .notDecimal (.str s)
  | _ => .accept ()

/-- The settings from their fields in order; those without effect on an answer are only checked. -/
def ofFields (userServiceUrl _serviceRoleKey userServiceKey environment : Text) (_origins : List Text)
    (classPrefix storageKey : Text) (redirectDelay : Int) (postcodeApiUrl postcodeApiKey : Text)
    (_postcodeTimeout _webhookTimeout : Unit) : Settings :=
  { userServiceUrl, userServiceKey, environment, postcodeApiUrl, postcodeApiKey
    artifact := { classPrefix, storageKey := .str storageKey, redirectDelay := .int redirectDelay } }

/-- The settings that fields hold. -/
def readFields (fields : Fields) : Checked Settings :=
  ofFields
    <$> Key.required "supabase_url" .text fields
    <*> Key.required "supabase_service_role_key" .text fields
    <*> Key.required "supabase_anon_key" .text fields
    <*> Key.withDefault "environment" .text "development" fields
    <*> Key.withDefault originsName (.list .text) ["*"] fields
    <*> Key.withDefault "artifact_prefix" .text "qform-" fields
    <*> Key.withDefault "artifact_storage_key" .text "qform-answers" fields
    <*> Key.withDefault "redirect_delay_ms" .whole 2000 fields
    <*> Key.withDefault "postcode_api_url" .text "" fields
    <*> Key.withDefault "postcode_api_key" .text "" fields
    <*> Key.withDefault "postcode_timeout_seconds" seconds () fields
    <*> Key.withDefault "webhook_timeout_seconds" seconds () fields

/-- The settings of an environment. -/
def read [Stack] (environment : Environment) : Except SettingsError Settings := do
  (readFields (← fields environment)).result.mapError .invalid

/-- Are the causes of unexpected errors shown? -/
def showsCauses (s : Settings) : Bool := s.environment = "development"

end Settings
end Questionnaire
