import Questionnaire.Answers.Basic
import Questionnaire.Checked
import Questionnaire.Form.Basic

/-!
# Numbering a form

Before a form is exported, its questions, choices, conditions and success pages get names by position
(`q_1`, `q_1_opt_2`, `q_3_cond_1`, `success_1`), and every reference to them is renamed. A repeated id
stands for what carries it first. A reference to nothing stays as it is; it is refused if it would come
to mean something, because its text is one of the new names.

* `Form.idMap`: the new names under the old ids.
* `Form.numbered`: the numbered form.
* `Answers.numbered`: answers under the new names.
-/

namespace Questionnaire

/-- The name of the question at a position, from one. -/
def questionName (position : Nat) : Text := "q_" ++ toString position

/-- The name of a choice of a question, by position from one. -/
def choiceName (question : Text) (position : Nat) : Text := question ++ "_opt_" ++ toString position

/-- The name of a success page, by position from one. -/
def successPageName (position : Nat) : Text := "success_" ++ toString position

/-- The name of a condition of a question or success page, by position from one. -/
def conditionName (owner : Text) (position : Nat) : Text := owner ++ "_cond_" ++ toString position

/-- The elements that are the first with their id, with their positions counted from a start; the ids
seen before are given. -/
def firsts {α : Type} (id : α → Text) : Nat → List Text → List α → List (Nat × α)
  | _, _, [] => []
  | position, seen, x :: xs =>
    if id x ∈ seen then firsts id (position + 1) seen xs
    else (position, x) :: firsts id (position + 1) (id x :: seen) xs

/-- The ids that are carried again by a later element. -/
def repeats {α : Type} (id : α → Text) : List Text → List α → List Text
  | _, [] => []
  | seen, x :: xs => if id x ∈ seen then id x :: repeats id seen xs else repeats id (id x :: seen) xs

/-- New names under old ids, which are pairwise distinct. -/
structure Renaming where
  entries : List (Text × Text)
deriving DecidableEq, Repr, Inhabited

namespace Renaming

/-- Names by position, where a repeated id has the name of its first position. -/
def byPosition (name : Nat → Text) (ids : List Text) : Renaming :=
  ⟨(firsts (fun id => id) 1 [] ids).map fun (position, id) => (id, name position)⟩

/-- The new name of an id. -/
def find? (r : Renaming) (id : Text) : Option Text := r.entries.lookup id

/-- The new name of an id, the id itself if it has none. -/
def apply (r : Renaming) (id : Text) : Text := (r.find? id).getD id

/-- The new names. -/
def names (r : Renaming) : List Text := r.entries.map (·.2)

end Renaming

/-- The new names of a form. -/
structure IdMap where
  /-- The new names of the questions. -/
  questions : Renaming
  /-- The new names of the choices of a question, under its old id. -/
  choices : List (Text × Renaming)
deriving DecidableEq, Repr

/-- The new names of the choices of the question with an old id. -/
def IdMap.choicesOf (m : IdMap) (question : Text) : Renaming := (m.choices.lookup question).getD ⟨[]⟩

namespace Question

/-- The new names of the choices of a question at a position. -/
def choiceNames (q : Question) (position : Nat) : Renaming :=
  .byPosition (choiceName (questionName position)) (q.choices.map (·.id))

end Question

namespace Form

/-- The first questions with their ids, with their positions. -/
def firstQuestions (form : Form) : List (Nat × Question) := firsts (·.id) 1 [] form.questions

/-- The new names under the old ids. -/
def idMap (form : Form) : IdMap where
  questions := ⟨form.firstQuestions.map fun (position, q) => (q.id, questionName position)⟩
  choices := form.firstQuestions.map fun (position, q) => (q.id, q.choiceNames position)

/-- The notices on repeated ids: those of questions, and those of choices of a first question. -/
def repeatedIds (form : Form) : List Notice := go [] form.questions
where
  go : List Text → List Question → List Notice
    | _, [] => []
    | seen, q :: qs =>
      let id := Text.quoted q.id
      if q.id ∈ seen then
        .warning ("Duplicate question id " ++ id ++ "; keeping first occurrence") :: go seen qs
      else
        let inChoices := (repeats (·.id) [] q.choices).map fun choice =>
          let choice := Text.quoted choice
          Notice.warning ("Duplicate option id " ++ choice ++ " in question " ++ id)
        inChoices ++ go (q.id :: seen) qs

end Form

/-- What a condition belongs to, with its position. -/
inductive Owner where
  | question (position : Nat)
  | successPage (position : Nat)
deriving DecidableEq, Repr

namespace Owner

/-- The words for an owner. -/
def text : Owner → Text
  | question position => "Question " ++ toString position
  | successPage position => "Success page " ++ toString position

/-- The new name of an owner. -/
def name : Owner → Text
  | question position => questionName position
  | successPage position => successPageName position

end Owner

/-- Why a form cannot be numbered: a reference to nothing that would come to mean something. -/
inductive NumberingError where
  | missingQuestion (owner : Owner) (id : Text)
  | unknownChoice (owner : Owner) (value : Text)
deriving DecidableEq, Repr

/-- The wording of a numbering error. -/
def NumberingError.message : NumberingError → Text
  | missingQuestion owner id =>
    owner.text ++ " references missing question " ++ Text.quoted id
      ++ ", which clashes with a generated question id"
  | unknownChoice owner value =>
    owner.text ++ " references unknown option " ++ Text.quoted value
      ++ ", which clashes with a generated option id"

namespace IdMap

/-- The new name of the source of a condition. -/
def source (m : IdMap) (owner : Owner) (id : Text) : Except NumberingError Text :=
  -- what stays as it is must not read as the new name of something else
  match m.questions.find? id with
  | some name => .ok name
  | none => if id ∈ m.questions.names then .error (.missingQuestion owner id) else .ok id

/-- The new name of a value of a condition, given the names of the choices of its source. -/
def value (choices : Renaming) (owner : Owner) (value : Text) : Except NumberingError Text :=
  match choices.find? value with
  | some name => .ok name
  | none => if value ∈ choices.names then .error (.unknownChoice owner value) else .ok value

/-- A condition in the new names. -/
def condition (m : IdMap) (owner : Owner) (c : Condition) (position : Nat) : Except NumberingError Condition := do
  let source ← m.source owner c.source
  let values ← c.values.mapM (value (m.choicesOf c.source) owner)
  return { id := conditionName owner.name position, source, values }

/-- Conditions in the new names. -/
def conditions (m : IdMap) (owner : Owner) (cs : List Condition) : Except NumberingError (List Condition) :=
  (cs.zipIdx 1).mapM fun (c, position) => m.condition owner c position

/-- Choices with the names of their positions. -/
def nameChoices (question : Text) (cs : List Choice) : List Choice :=
  (cs.zipIdx 1).map fun (c, position) => { c with id := choiceName question position }

/-- A question at a position in the new names. -/
def question (m : IdMap) (q : Question) (position : Nat) : Except NumberingError Question := do
  let conditions? ← q.conditions?.mapM (m.conditions (.question position))
  let name := questionName position
  return { q with id := name, input := q.input.mapChoices (nameChoices name), conditions? }

/-- A success page at a position in the new names. -/
def successPage (m : IdMap) (p : SuccessPage) (position : Nat) : Except NumberingError SuccessPage := do
  let conditions ← m.conditions (.successPage position) p.conditions
  return { p with id := successPageName position, conditions }

end IdMap

/-- The form with every id replaced by a name and every reference renamed. -/
def Form.numbered (form : Form) : Except NumberingError Form := do
  let m := form.idMap
  let questions ← (form.questions.zipIdx 1).mapM fun (q, position) => m.question q position
  let successPages ← (form.settings.successPages.zipIdx 1).mapM fun (p, position) => m.successPage p position
  return { form with questions, settings := { form.settings with successPages } }

/-- A part of an answer in the names of the choices. -/
def Renaming.renameItem (choices : Renaming) : Json → Json
  | .str s => .str (choices.apply s)
  | v => v

/-- An answer in the names of the choices: a text, and the texts of a list. -/
def Renaming.renameAnswer (choices : Renaming) : Json → Json
  | .arr items => .arr (items.map choices.renameItem)
  | v => choices.renameItem v

/-- Answers under the new names. -/
def Answers.numbered (answers : Answers) (m : IdMap) : Answers :=
  Fields.ofEntries (answers.map fun (id, v) => (m.questions.apply id, (m.choicesOf id).renameAnswer v))

end Questionnaire
