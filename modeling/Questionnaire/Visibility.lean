import Questionnaire.Answers.Basic
import Questionnaire.Form.Basic

/-!
# Visibility

A question is shown if its conditions hold for the answers given so far. A condition looks at the first
question with the id it names: the answer to a choice question must hold one of the values, the answer
to a text question must be the first value. A question depends only on questions in front of it.

* `Condition.holds`: the rule for one condition.
* `isVisibleAt`: the rule for what stands at a position of the form.
* `activeQuestions`: the questions that are shown, with their positions.
-/

namespace Questionnaire

/-- The position of the first question with an id. -/
def indexOf? (questions : List Question) (id : Text) : Option Nat :=
  questions.findIdx? fun q => q.id = id

/-- The first question with an id. -/
def find? (questions : List Question) (id : Text) : Option Question :=
  questions.find? fun q => q.id = id

/-- What a choice question has selected: the items of a list, or the one answer. -/
def Json.selected : Json → List Json
  | .arr items => items
  | answer => [answer]

namespace Condition

/-- Does an answer to a question of a kind match the condition? -/
def matchedBy (c : Condition) (kind : QuestionKind) (answer : Json) : Bool :=
  match kind with
  | .singleChoice | .multipleChoice => c.values.any fun value => .str value ∈ answer.selected
  | .textInput =>
    -- the values behind the first are not compared
    match c.values with
    | [] => false
    | value :: _ => answer = .str value
  | .address | .contact => false

/-- Does the answer to the source satisfy the condition? Never so without a source or an answer. -/
def holds (c : Condition) (answers : Answers) (questions : List Question) : Bool :=
  match find? questions c.source, answers.given? c.source with
  | some source, some answer => c.matchedBy source.kind answer
  | _, _ => false

/-- Does the condition hold with a source in front of a position, if a position is given? -/
def holdsBefore (c : Condition) (position : Option Nat) (answers : Answers) (questions : List Question) : Bool :=
  match position, indexOf? questions c.source with
  -- a source at or behind the position of its own question never counts
  | some own, some source => if own ≤ source then false else c.holds answers questions
  | _, _ => c.holds answers questions

end Condition

/-- Do the conditions of what stands at a position hold? No conditions always hold. -/
def conditionsHold (conditions : List Condition) (logic : Logic) (position : Option Nat) (answers : Answers)
    (questions : List Question) : Bool :=
  conditions.isEmpty || logic.combine (conditions.map fun c => c.holdsBefore position answers questions)

namespace Question

/-- Is the question, at a position of the form, shown? -/
def isVisibleAt (q : Question) (position : Option Nat) (answers : Answers) (questions : List Question) : Bool :=
  conditionsHold q.conditions q.logic position answers questions

/-- Is a question shown that is placed by its id alone? -/
def isVisible (q : Question) (answers : Answers) (questions : List Question) : Bool :=
  q.isVisibleAt (indexOf? questions q.id) answers questions

end Question

/-- Do the conditions of a success page hold by the rule for questions? -/
def SuccessPage.isVisible (page : SuccessPage) (answers : Answers) (questions : List Question) : Bool :=
  conditionsHold page.conditions page.logic none answers questions

/-- Is the question at each position shown? -/
def visibleFlags (questions : List Question) (answers : Answers) : List Bool :=
  questions.mapIdx fun i q => q.isVisibleAt (some i) answers questions

/-- The questions that are shown, in order. -/
def activeQuestions (questions : List Question) (answers : Answers) : List Question :=
  (questions.zip (visibleFlags questions answers)).filterMap fun (q, visible) => if visible then some q else none

/-- The ids of the questions that are shown, in order. -/
def activeIds (questions : List Question) (answers : Answers) : List Text :=
  (activeQuestions questions answers).map (·.id)

end Questionnaire
