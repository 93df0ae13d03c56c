import Questionnaire.Visibility
import Questionnaire.Answers.Text

/-!
# Where a submission leads

The success pages of a form are tried in order, and the first whose conditions hold is taken; if there
is none, the address that the form is submitted to. These conditions ignore the kind of their source: a
list matches by the text of any of its items, an object by the text of any of its values, a text by
itself. The texts of a whole answer are taken before they are compared, so one without a text fails.

* `Condition.holdsRelaxed`: the rule for one condition.
* `Form.redirect`: the address.
-/

namespace Questionnaire

variable [Stack]

namespace Condition

/-- Does an answer of any kind match the condition? -/
def matchedByAny (c : Condition) (answer : Json) : Except TextError Bool :=
  match answer with
  | .arr items => do
    let texts ← items.mapM Json.answerText
    return texts.any (c.values.contains ·)
  | .obj fields => do
    let texts ← fields.mapM fun (_, v) => v.answerText
    return texts.any (c.values.contains ·)
  | .str s => .ok (c.values.contains s)
  | _ => .ok false

/-- Does the answer to the source satisfy the condition, whatever the kind of the source? -/
def holdsRelaxed (c : Condition) (answers : Answers) (questions : List Question) : Except TextError Bool :=
  match find? questions c.source, answers.given? c.source with
  | some _, some answer => c.matchedByAny answer
  | _, _ => .ok false

end Condition

/-- Do the conditions of a success page hold? Every one of them is evaluated. -/
def SuccessPage.applies (page : SuccessPage) (answers : Answers) (questions : List Question) :
    Except TextError Bool :=
  if page.conditions.isEmpty then .ok true
  else do
    -- as all are evaluated, a failing condition fails the page even where another decides it
    let results ← page.conditions.mapM fun c => c.holdsRelaxed answers questions
    return page.logic.combine results

/-- The address of the first page that applies, else the given one. -/
def redirectAmong (answers : Answers) (questions : List Question) (otherwise : Text) :
    List SuccessPage → Except TextError Text
  | [] => .ok otherwise
  | page :: pages => do
    if ← page.applies answers questions then return page.url
    else redirectAmong answers questions otherwise pages

/-- Where a submission of the form leads. -/
def Form.redirect (form : Form) (answers : Answers) : Except TextError Text :=
  redirectAmong answers form.questions form.settings.submitUrl form.settings.successPages

end Questionnaire
