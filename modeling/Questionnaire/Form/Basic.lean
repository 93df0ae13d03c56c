import Questionnaire.Text.Basic

/-!
# Forms

A form asks questions one after the other. A question, and likewise a success page to which a submission
leads, may depend on answers given before through conditions, which must all hold or of which one must.

Choices belong to the two kinds of choice question and to no other, so they are part of the input a
question takes.
-/

namespace Questionnaire

/-- How the results of several conditions are taken together. -/
inductive Logic where
  | all
  | any
deriving DecidableEq, Repr, Inhabited

/-- Do all, or does any, of the results hold? -/
def Logic.combine : Logic → List Bool → Bool
  | .all, results => results.all id
  | .any, results => results.any id

/-- A choice that a choice question offers. -/
structure Choice where
  id : Text
  text : Text
  icon : Option Text
  description : Option Text
deriving DecidableEq, Repr, Inhabited

/-- A rule on the answer to a question: it must match one of the values. -/
structure Condition where
  id : Option Text
  source : Text
  values : List Text
deriving DecidableEq, Repr, Inhabited

/-- The kinds of question. -/
inductive QuestionKind where
  | singleChoice
  | multipleChoice
  | textInput
  | address
  | contact
deriving DecidableEq, Repr, Inhabited

/-- Does a question of the kind offer choices? -/
def QuestionKind.isChoice : QuestionKind → Bool
  | singleChoice | multipleChoice => true
  | textInput | address | contact => false

/-- What the respondent enters. -/
inductive Input where
  | singleChoice (choices : List Choice)
  | multipleChoice (choices : List Choice)
  | textInput
  | address
  | contact
deriving DecidableEq, Repr, Inhabited

namespace Input

/-- The kind of question that has such an input. -/
def kind : Input → QuestionKind
  | singleChoice _ => .singleChoice
  | multipleChoice _ => .multipleChoice
  | textInput => .textInput
  | address => .address
  | contact => .contact

/-- The choices of a choice question. -/
def choices? : Input → Option (List Choice)
  | singleChoice cs | multipleChoice cs => some cs
  | textInput | address | contact => none

/-- The choices on offer: none for a question that is no choice question. -/
def choices (input : Input) : List Choice := input.choices?.getD []

/-- The input of a kind; the choices are dropped where the kind has none. -/
def ofKind (kind : QuestionKind) (choices : List Choice) : Input :=
  match kind with
  | .singleChoice => .singleChoice choices
  | .multipleChoice => .multipleChoice choices
  | .textInput => .textInput
  | .address => .address
  | .contact => .contact

/-- The same input with the choices changed. -/
def mapChoices (f : List Choice → List Choice) : Input → Input
  | singleChoice cs => .singleChoice (f cs)
  | multipleChoice cs => .multipleChoice (f cs)
  | textInput => .textInput
  | address => .address
  | contact => .contact

@[simp] theorem kind_ofKind (k : QuestionKind) (cs : List Choice) : (ofKind k cs).kind = k := by
  cases k <;> rfl

@[simp] theorem kind_mapChoices (f : List Choice → List Choice) (i : Input) : (i.mapChoices f).kind = i.kind := by
  cases i <;> rfl

/-- The inputs with choices are those of the choice questions. -/
theorem choices?_isSome (i : Input) : i.choices?.isSome = i.kind.isChoice := by
  cases i <;> rfl

@[simp] theorem choices_mapChoices (f : List Choice → List Choice) (i : Input) (h : f [] = []) :
    (i.mapChoices f).choices = f i.choices := by
  cases i <;> simp [mapChoices, choices, choices?, h]

end Input

/-- One step of a form. -/
structure Question where
  id : Text
  text : Text
  description : Option Text
  input : Input
  required : Bool
  conditions? : Option (List Condition)
  logic : Logic
  placeholder : Option Text
  postcodeApi : Option Text
deriving DecidableEq, Repr, Inhabited

namespace Question

/-- The kind of a question is that of its input. -/
def kind (q : Question) : QuestionKind := q.input.kind

def isChoice (q : Question) : Bool := q.kind.isChoice

def choices (q : Question) : List Choice := q.input.choices

/-- The conditions of a question, none if it has no list of them. -/
def conditions (q : Question) : List Condition := q.conditions?.getD []

/-- The first choice with an id. -/
def choice? (q : Question) (id : Text) : Option Choice := q.choices.find? fun c => c.id = id

end Question

/-- Where a submission leads if its conditions hold. -/
structure SuccessPage where
  id : Text
  name : Text
  url : Text
  conditions : List Condition
  logic : Logic
deriving DecidableEq, Repr, Inhabited

/-- Colours, submission and address lookup. -/
structure FormSettings where
  backgroundColor : Text
  buttonColor : Text
  submitUrl : Text
  webhookUrl : Text
  postcodeApiUrl : Text
  postcodeApiKey : Text
  successPages : List SuccessPage
deriving DecidableEq, Repr, Inhabited

/-- The settings of a form that sets none. -/
def FormSettings.standard : FormSettings where
  backgroundColor := "#ffffff"
  buttonColor := "#000000"
  submitUrl := ""
  webhookUrl := ""
  postcodeApiUrl := ""
  postcodeApiKey := ""
  successPages := []

/-- A form as its author edits it. -/
structure Form where
  title : Text
  description : Text
  questions : List Question
  settings : FormSettings
deriving DecidableEq, Repr, Inhabited

/-- The first question with an id. -/
def Form.question? (form : Form) (id : Text) : Option Question := form.questions.find? fun q => q.id = id

/-- The answer to an address question. -/
structure AddressAnswer where
  fullAddress : Text
  buildingNumber : Text
  street : Text
  town : Text
  postcode : Text
deriving DecidableEq, Repr, Inhabited

/-- The answer to a contact question. -/
structure ContactAnswer where
  firstName : Text
  lastName : Text
  phone : Text
  email : Text
  termsAccepted : Bool
deriving DecidableEq, Repr, Inhabited

end Questionnaire
