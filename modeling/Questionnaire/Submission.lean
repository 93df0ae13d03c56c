import Questionnaire.Answers.Text
import Questionnaire.Form.Basic

/-!
# What is submitted

A submission is sent on in readable words: under the text of each question, options by their texts and
addresses and contacts with labels. Questions with the same text share an entry, which holds the last of
their answers in the place of the first.

* `Question.readable`: one answer in readable words.
* `Form.payload`: all answers.
-/

namespace Questionnaire

/-- The labels of the parts of an address. -/
def addressLabels : List (Text × Text) :=
  [("fullAddress", "Full Address"), ("buildingNumber", "Building Number"), ("street", "Street"),
    ("town", "Town"), ("postcode", "Postcode")]

/-- The labels of the parts of a contact. -/
def contactLabels : List (Text × Text) :=
  [("firstName", "First Name"), ("lastName", "Last Name"), ("phone", "Phone"), ("email", "Email"),
    ("termsAccepted", "Terms Accepted")]

/-- The parts of an answer that are there, under their labels; none unless the answer is an object. -/
def labelled (labels : List (Text × Text)) (answer : Json) : Json :=
  .obj (labels.filterMap fun (key, label) =>
    match answer.field key with
    | .null => none
    | v => some (label, v))

namespace Question

/-- An option by its text; what names no choice stays as it is. -/
def readableOption (q : Question) : Json → Json
  | .str id =>
    match q.choice? id with
    | some choice => .str choice.text
    | none => .str id
  | v => v

/-- The text of an option. -/
def optionText [Stack] (q : Question) (option : Json) : Except TextError Text := (q.readableOption option).answerText

/-- An answer in readable words. -/
def readable [Stack] (q : Question) (answer : Json) : Except TextError Json :=
  match q.kind with
  | .singleChoice => .ok (q.readableOption answer)
  | .multipleChoice => do
    let options := match answer with
      | .arr items => items
      | v => [v]
    let texts ← options.mapM q.optionText
    return .str (Text.intercalate ", " texts)
  | .textInput => .ok answer
  | .address => .ok (labelled addressLabels answer)
  | .contact => .ok (labelled contactLabels answer)

end Question

namespace Form

/-- The entry of an answer: none without a question or an answer. -/
def payloadEntry [Stack] (form : Form) (id : Text) (answer : Json) : Except TextError (Option (Text × Json)) :=
  match form.question? id, answer with
  | _, .null => .ok none
  | none, _ => .ok none
  | some q, answer => do
    let value ← q.readable answer
    return some (q.text, value)

/-- All answers in readable words, in their order. -/
def payload [Stack] (form : Form) (answers : Fields) : Except TextError Fields := do
  let entries ← answers.mapM fun (id, answer) => form.payloadEntry id answer
  -- questions with one text share an entry
  return Fields.ofEntries (entries.filterMap id)

end Form
end Questionnaire
