import Questionnaire.Json.Basic

/-!
# Answers

The answers of one respondent under the ids of the questions, in the order in which they were first
given. A null counts as no answer.

* `Answers.given?`: the answer to a question.
* `Answers.toggle`: adds or removes an option of a selection, keeping the order of the others.
-/

namespace Questionnaire

/-- Answers under the ids of questions. -/
abbrev Answers := Fields

namespace Answers

/-- The answer to a question, unless there is none or it is null. -/
def given? (answers : Answers) (id : Text) : Option Json :=
  match answers.get? id with
  | some .null => none
  | other => other

/-- Records an answer; null takes the answer away. -/
def put (answers : Answers) (id : Text) : Json → Answers
  | .null => answers.erase id
  | value => answers.set id value

/-- The options selected by an answer: none unless it is a list. -/
def selection : Option Json → List Json
  | some (.arr items) => items
  | _ => []

/-- Is an option among the selected ones? -/
def isSelected (option : Json) (selected : List Json) : Bool := selected.any fun s => s.equals option

/-- Removes the first of the selected options that equals the given one. -/
def deselect (option : Json) (selected : List Json) : List Json := selected.eraseP fun s => s.equals option

/-- A selection with an option removed if it is in it, else added at the end. -/
def toggled (option : Json) (selected : List Json) : List Json :=
  if isSelected option selected then deselect option selected else selected ++ [option]

/-- Toggles an option of the answer to a question, which becomes a list if it is none. -/
def toggle (answers : Answers) (id : Text) (option : Json) : Answers :=
  answers.set id (.arr (toggled option (selection (answers.get? id))))

end Answers
end Questionnaire
