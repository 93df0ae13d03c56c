import Questionnaire.Form.Basic
import Questionnaire.Json.Basic

/-!
# Forms as JSON

The stored form of a form and of its parts. Every field is written under its name in the order of
declaration; a field without a value is left out.
-/

namespace Questionnaire

/-- A field that is left out when it has no value. -/
def Fields.optional (key : Text) : Option Json → Fields
  | some v => [(key, v)]
  | none => []

/-- A text field that is left out when it has no value. -/
def Fields.optionalText (key : Text) (text : Option Text) : Fields := Fields.optional key (text.map .str)

namespace Logic

/-- The word for a logic. -/
def word : Logic → Text
  | all => "AND"
  | any => "OR"

/-- Any when the word is `or` in any case of its letters, else all. -/
def ofWord (s : Text) : Logic := if s.upperAscii = "OR" then any else all

end Logic

namespace QuestionKind

/-- The word for a kind of question. -/
def word : QuestionKind → Text
  | singleChoice => "single_choice"
  | multipleChoice => "multiple_choice"
  | textInput => "text_input"
  | address => "address"
  | contact => "contact_form"

/-- Every kind. -/
def all : List QuestionKind := [singleChoice, multipleChoice, textInput, address, contact]

/-- Every kind with its word. -/
def words : List (Text × QuestionKind) := all.map fun kind => (kind.word, kind)

end QuestionKind

namespace Choice

/-- The entries of a choice. -/
def fields (c : Choice) : Fields :=
  ([("id", .str c.id), ("text", .str c.text)] : Fields)
    ++ Fields.optionalText "icon" c.icon ++ Fields.optionalText "description" c.description

def toJson (c : Choice) : Json := .obj c.fields

end Choice

namespace Condition

/-- The entries of a condition. -/
def fields (c : Condition) : Fields :=
  Fields.optionalText "id" c.id
    ++ ([("questionId", .str c.source), ("values", .arr (c.values.map .str))] : Fields)

def toJson (c : Condition) : Json := .obj c.fields

end Condition

namespace Question

/-- The entries of a question. -/
def fields (q : Question) : Fields :=
  ([("id", .str q.id), ("text", .str q.text)] : Fields)
    ++ Fields.optionalText "description" q.description
    ++ ([("type", .str q.kind.word), ("required", .bool q.required)] : Fields)
    ++ Fields.optional "options" (q.input.choices?.map fun cs => .arr (cs.map Choice.toJson))
    ++ Fields.optional "conditions" (q.conditions?.map fun cs => .arr (cs.map Condition.toJson))
    ++ ([("conditionLogic", .str q.logic.word)] : Fields)
    ++ Fields.optionalText "placeholder" q.placeholder ++ Fields.optionalText "postcodeApi" q.postcodeApi

def toJson (q : Question) : Json := .obj q.fields

end Question

namespace SuccessPage

/-- The entries of a success page. -/
def fields (p : SuccessPage) : Fields :=
  [("id", .str p.id), ("name", .str p.name), ("url", .str p.url),
    ("conditions", .arr (p.conditions.map Condition.toJson)), ("conditionLogic", .str p.logic.word)]

def toJson (p : SuccessPage) : Json := .obj p.fields

end SuccessPage

namespace FormSettings

/-- The entries of the settings. -/
def fields (s : FormSettings) : Fields :=
  [("backgroundColor", .str s.backgroundColor), ("buttonColor", .str s.buttonColor),
    ("submitUrl", .str s.submitUrl), ("zapierWebhookUrl", .str s.webhookUrl),
    ("postcodeApiUrl", .str s.postcodeApiUrl), ("postcodeApiKey", .str s.postcodeApiKey),
    ("successPages", .arr (s.successPages.map SuccessPage.toJson))]

def toJson (s : FormSettings) : Json := .obj s.fields

end FormSettings

namespace Form

/-- The entries of a form. -/
def fields (f : Form) : Fields :=
  [("title", .str f.title), ("description", .str f.description),
    ("questions", .arr (f.questions.map Question.toJson)), ("settings", f.settings.toJson)]

def toJson (f : Form) : Json := .obj f.fields

end Form

namespace AddressAnswer

/-- The entries of an address. -/
def fields (a : AddressAnswer) : Fields :=
  [("fullAddress", .str a.fullAddress), ("buildingNumber", .str a.buildingNumber),
    ("street", .str a.street), ("town", .str a.town), ("postcode", .str a.postcode)]

def toJson (a : AddressAnswer) : Json := .obj a.fields

end AddressAnswer

namespace ContactAnswer

/-- The entries of a contact. -/
def fields (a : ContactAnswer) : Fields :=
  [("firstName", .str a.firstName), ("lastName", .str a.lastName), ("phone", .str a.phone),
    ("email", .str a.email), ("termsAccepted", .bool a.termsAccepted)]

def toJson (a : ContactAnswer) : Json := .obj a.fields

end ContactAnswer
end Questionnaire
