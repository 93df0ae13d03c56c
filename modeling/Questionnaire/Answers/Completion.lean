import Questionnaire.Answers.Basic
import Questionnaire.Form.Basic
import Questionnaire.Text.Blank

/-!
# When a question is answered

A respondent may not pass a required question whose answer does not satisfy it.

* `Question.isAnsweredBy`: does an answer satisfy the question?
* `Json.isTruthy`: the values that count as given; every list and object does.
-/

namespace Questionnaire

/-- A value that is not null, false, a zero, NaN or the empty text. -/
def Json.isTruthy : Json → Bool
  | .null => false
  | .bool b => b
  | .int n => n != 0
  | .float x => !x.isNaN && !x.isZero
  | .str s => s != ""
  | .arr _ => true
  | .obj _ => true

/-- A text that is not all blank. -/
def Json.isFilled : Json → Bool
  | .str s => Text.strip s != ""
  | _ => false

/-- The texts that identify a contact. -/
def contactFields : List Text := ["firstName", "lastName", "phone", "email"]

/-- A contact whose identity is filled in and who accepted the terms. -/
def Json.isCompleteContact : Json → Bool
  | .obj fields =>
    contactFields.all (fun name => (Fields.get fields name).isFilled)
      && decide (Fields.get fields "termsAccepted" = .bool true)
  | _ => false

/-- Does an answer satisfy the question? -/
def Question.isAnsweredBy (q : Question) (answer : Json) : Bool :=
  match q.kind, answer with
  | .multipleChoice, .arr selected => !selected.isEmpty
  | .multipleChoice, _ => false
  | .textInput, answer => answer.isFilled
  | .contact, answer => answer.isCompleteContact
  | .singleChoice, answer => answer.isTruthy
  | .address, answer => answer.isTruthy

end Questionnaire
