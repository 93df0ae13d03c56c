import Questionnaire.Form.Wire
import Questionnaire.Checked

/-!
# Reading forms

Forms are stored by several generations of editors, so reading is lenient: entries of lists that are no
objects or have no id are left out with a notice, numeric ids and values become texts, nulls become
defaults, and a single `value` of a condition counts as its list of values. What remains is checked.

* `Form.shape` and the shapes of its parts.
* `keepEntries`: which entries of a list are kept.
* `Condition.valueText?`: the text of a stored condition value.
-/

namespace Questionnaire

/-- The lists whose malformed entries are left out. -/
inductive EntryKind where
  | question
  | choice
  | condition
  | successPage
deriving DecidableEq, Repr

namespace EntryKind

/-- The word for an entry in a notice. -/
def word : EntryKind → Text
  | question => "question"
  | choice => "option"
  | condition => "condition"
  | successPage => "success page"

/-- The key that an entry must have. -/
def key : EntryKind → Key
  | condition => ⟨"questionId", "question_id"⟩
  | _ => "id"

/-- An entry is kept if it is an object with a value under its key, in either spelling. -/
def keeps (kind : EntryKind) : Json → Bool
  | .obj fields => !(Fields.get fields kind.key.name).isNull || !(Fields.get fields kind.key.plain).isNull
  | _ => false

/-- The notice on an entry that is left out. -/
def skipped (kind : EntryKind) (position : Nat) : Notice :=
  .warning ("Skipping malformed " ++ kind.word ++ " at position " ++ toString position ++ ": missing " ++ kind.key.name)

end EntryKind

/-- The entries to keep, and a notice on each other one. -/
def keepEntries (kind : EntryKind) (items : List Json) : List Notice × List Json :=
  ((items.zipIdx.filter fun (v, _) => !kind.keeps v).map fun (_, i) => kind.skipped i,
    items.filter kind.keeps)

namespace Shape

/-- A list whose malformed entries are left out. -/
def entries {α : Type} (kind : EntryKind) (shape : Shape α) : Shape (List α)
  | .arr items =>
    let (notices, kept) := keepEntries kind items
    (list shape (.arr kept)).withNotices notices
  | v => list shape v

/-- An id: a text, or an integer for its digits. -/
def id : Shape Text := text.after fun
  | .int n => .str ((Json.intText n))
  | v => v

/-- A text, empty for null. -/
def textOrEmpty : Shape Text := text.after fun
  | .null => .str ""
  | v => v

/-- A truth value, false for null. -/
def truthOrFalse : Shape Bool := truth.after fun
  | .null => .bool false
  | v => v

/-- How conditions are taken together; anything but `OR` means all. -/
def logic : Shape Logic
  | .str s => .accept (.ofWord s)
  | _ => .accept .all

end Shape

namespace Choice

/-- The shape of a choice. -/
def shape : Shape Choice := .record "Option" fun fields =>
  Choice.mk
    <$> Key.required "id" .id fields
    <*> Key.withDefault "text" .textOrEmpty "" fields
    <*> Key.withDefault "icon" (.optional .text) none fields
    <*> Key.withDefault "description" (.optional .text) none fields

end Choice

namespace Condition

/-- The text of a stored value, if it is one that an answer can match: a whole double has the digits of
its integer. -/
def valueText? : Json → Option Text
  | .str s => some s
  | .bool b => some ((Json.boolText b))
  | .int n => some ((Json.intText n))
  | .float x =>
    if x.isFinite then
      match x.toInt? with
      | some n => some ((Json.intText n))
      | none => some (x.text .message)
    else none
  | _ => none

/-- The values that a stored entry holds: none for null, and a value by itself counts as a list. -/
def storedValues : Json → List Text
  | .null => []
  | .arr items => items.filterMap valueText?
  | v => [v].filterMap valueText?

/-- The fields with a single `value` of old forms moved into the list of values. -/
def liftValue (fields : Fields) : Fields :=
  if (fields.get "values").isNull then
    match fields.get? "value" with
    | none => fields
    | some .null => (fields.erase "value").set "values" (.arr [])
    | some v => (fields.erase "value").set "values" (.arr [v])
  else fields

/-- The shape of a condition. -/
def shape : Shape Condition := .record "Condition" fun fields =>
  let fields := liftValue fields
  Condition.mk
    <$> Key.withDefault "id" (.optional .id) none fields
    <*> Key.required ⟨"questionId", "question_id"⟩ .id fields
    <*> Key.withDefault "values" (fun v => .accept (storedValues v)) [] fields

end Condition

/-- The key of the logic of conditions. -/
def logicKey : Key := ⟨"conditionLogic", "condition_logic"⟩

namespace Question

/-- A question from its fields in their order; the choices are dropped unless its kind has some. -/
def ofFields (id text : Text) (description : Option Text) (kind : QuestionKind) (required : Bool)
    (choices : Option (List Choice)) (conditions : Option (List Condition)) (logic : Logic)
    (placeholder postcodeApi : Option Text) : Question :=
  { id, text, description, input := .ofKind kind (choices.getD []), required, conditions? := conditions,
    logic, placeholder, postcodeApi }

/-- The shape of a question. -/
def shape : Shape Question := .record "Question" fun fields =>
  ofFields
    <$> Key.required "id" .id fields
    <*> Key.withDefault "text" .textOrEmpty "" fields
    <*> Key.withDefault "description" (.optional .text) none fields
    <*> Key.required "type" (.word QuestionKind.words) fields
    <*> Key.withDefault "required" .truthOrFalse false fields
    <*> Key.withDefault "options" (.optional (.entries .choice Choice.shape)) none fields
    <*> Key.withDefault "conditions" (.optional (.entries .condition Condition.shape)) none fields
    <*> Key.withDefault logicKey .logic .all fields
    <*> Key.withDefault "placeholder" (.optional .text) none fields
    <*> Key.withDefault ⟨"postcodeApi", "postcode_api"⟩ (.optional .text) none fields

/-- Does an entry name one of the kinds of question? -/
def hasKind (entry : Json) : Bool :=
  match entry.field "type" with
  | .str s => (QuestionKind.words.lookup s).isSome
  | _ => false

/-- The notice on a question of an unknown kind. -/
def skipped (entry : Json) : Notice :=
  let id := (entry.field "id").shown
  let type := (entry.field "type").quoted
  .warning ("Skipping question " ++ id ++ ": unknown type " ++ type)

/-- The questions of a form: none for null; entries without an id or of an unknown kind are left out. -/
def listShape : Shape (List Question)
  | .null => .accept []
  | .arr items =>
    let (notices, kept) := keepEntries .question items
    let unknown := kept.filter fun v => !hasKind v
    (Shape.list shape (.arr (kept.filter hasKind))).withNotices (notices ++ unknown.map skipped)
  | v => Shape.list shape v

end Question

namespace SuccessPage

/-- The shape of a success page. -/
def shape : Shape SuccessPage := .record "SuccessPage" fun fields =>
  SuccessPage.mk
    <$> Key.required "id" .id fields
    <*> Key.withDefault "name" .textOrEmpty "" fields
    <*> Key.withDefault "url" .textOrEmpty "" fields
    <*> Key.withDefault "conditions" conditionsShape [] fields
    <*> Key.withDefault logicKey .logic .all fields
where
  conditionsShape : Shape (List Condition) := fun
    | .null => .accept []
    | v => Shape.entries .condition Condition.shape v

end SuccessPage

namespace FormSettings

/-- The shape of the settings. -/
def shape : Shape FormSettings := .record "FormSettings" fun fields =>
  let fields : Fields := fields.filter fun (_, v) => !v.isNull
  FormSettings.mk
    <$> Key.withDefault ⟨"backgroundColor", "background_color"⟩ .text standard.backgroundColor fields
    <*> Key.withDefault ⟨"buttonColor", "button_color"⟩ .text standard.buttonColor fields
    <*> Key.withDefault ⟨"submitUrl", "submit_url"⟩ .text standard.submitUrl fields
    <*> Key.withDefault ⟨"zapierWebhookUrl", "zapier_webhook_url"⟩ .text standard.webhookUrl fields
    <*> Key.withDefault ⟨"postcodeApiUrl", "postcode_api_url"⟩ .text standard.postcodeApiUrl fields
    <*> Key.withDefault ⟨"postcodeApiKey", "postcode_api_key"⟩ .text standard.postcodeApiKey fields
    <*> Key.withDefault ⟨"successPages", "success_pages"⟩ (.entries .successPage SuccessPage.shape)
        standard.successPages fields

/-- The settings of a form: those of an empty object for null. -/
def shapeOrStandard : Shape FormSettings
  | .null => shape (.obj [])
  | v => shape v

end FormSettings

namespace Form

/-- The reading of the fields of a form. -/
def readFields (fields : Fields) : Checked Form :=
  Form.mk
    <$> Key.withDefault "title" .textOrEmpty "" fields
    <*> Key.withDefault "description" .textOrEmpty "" fields
    <*> Key.withDefault "questions" Question.listShape [] fields
    <*> Key.withDefault "settings" FormSettings.shapeOrStandard .standard fields

/-- The shape of a form. -/
def shape : Shape Form := .record "FormDefinition" readFields

end Form

namespace AddressAnswer

/-- The shape of an address. -/
def shape : Shape AddressAnswer := .record "AddressAnswer" fun fields =>
  AddressAnswer.mk
    <$> Key.withDefault ⟨"fullAddress", "full_address"⟩ .text "" fields
    <*> Key.withDefault ⟨"buildingNumber", "building_number"⟩ .text "" fields
    <*> Key.withDefault "street" .text "" fields
    <*> Key.withDefault "town" .text "" fields
    <*> Key.withDefault "postcode" .text "" fields

end AddressAnswer

namespace ContactAnswer

/-- The shape of a contact. -/
def shape : Shape ContactAnswer := .record "ContactAnswer" fun fields =>
  ContactAnswer.mk
    <$> Key.withDefault ⟨"firstName", "first_name"⟩ .text "" fields
    <*> Key.withDefault ⟨"lastName", "last_name"⟩ .text "" fields
    <*> Key.withDefault "phone" .text "" fields
    <*> Key.withDefault "email" .text "" fields
    <*> Key.withDefault ⟨"termsAccepted", "terms_accepted"⟩ .truth false fields

end ContactAnswer
end Questionnaire
