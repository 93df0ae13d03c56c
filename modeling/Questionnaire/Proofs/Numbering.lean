import Questionnaire.Proofs.Renaming
import Questionnaire.Proofs.Visibility

/-!
# What numbering does

Numbering fails exactly if a reference clashes: its id has no new name, yet equals one. Otherwise the
result is the renamed form, in which every element has the name of its position and every reference is
renamed. So what is said of the numbered form is said of `Form.renamed`, which cannot fail.

* `Form.renamed`: the form under its new names.
* `Form.gives_numbered`: when numbering succeeds, and with what.
* `Form.indexOf?_renamed_apply`, `IdMap.choiceIds_renamedQuestion`: what stands where in the renamed form.
-/

namespace Questionnaire

/-! ## Steps that may fail -/

/-- A result is a certain value under a condition, and else an error. -/
def Gives {ε α : Type} (r : Except ε α) (condition : Prop) (a : α) : Prop :=
  ∀ y, r = .ok y ↔ condition ∧ y = a

section Gives

variable {ε α β : Type}

/-- So the failure is told by the condition as well. -/
theorem Gives.error_iff {r : Except ε α} {P : Prop} {a : α} (h : Gives r P a) :
    (∃ e, r = .error e) ↔ ¬ P := by
  cases r with
  | error e =>
    have hP : ¬ P := by
      intro hP
      cases (h a).mpr ⟨hP, rfl⟩
    simp [hP]
  | ok y => simp [((h y).mp rfl).1]

/-- The condition may be said in other words. -/
theorem Gives.of_iff {r : Except ε α} {P Q : Prop} {a : α} (h : Gives r P a) (hPQ : P ↔ Q) :
    Gives r Q a := by
  intro y
  rw [h y, hPQ]

/-- What is given at once takes no condition. -/
theorem Gives.pure (a : α) : Gives (Pure.pure a : Except ε α) True a := by
  intro y
  simp [Pure.pure, Except.pure, eq_comm]

/-- One step after the other. -/
theorem Gives.bind {r : Except ε α} {k : α → Except ε β} {P Q : Prop} {a : α} {b : β}
    (hr : Gives r P a) (hk : Gives (k a) Q b) : Gives (r >>= k) (P ∧ Q) b := by
  intro y
  cases r with
  | error e =>
    have hP : ¬ P := hr.error_iff.mp ⟨e, rfl⟩
    simp [Bind.bind, Except.bind, hP]
  | ok x =>
    obtain ⟨hP, rfl⟩ := (hr x).mp rfl
    simp only [hP, true_and]
    exact hk y

/-- The same step for each element of a list. -/
theorem Gives.mapM {f : α → Except ε β} {P : α → Prop} {g : α → β} (xs : List α)
    (h : ∀ x ∈ xs, Gives (f x) (P x) (g x)) : Gives (xs.mapM f) (∀ x ∈ xs, P x) (xs.map g) := by
  induction xs with
  | nil => exact (Gives.pure []).of_iff (by simp)
  | cons x xs ih =>
    rw [List.mapM_cons, List.map_cons]
    have hx := h x (by simp)
    have hxs := ih fun y hy => h y (List.mem_cons_of_mem _ hy)
    refine Gives.of_iff (hx.bind (hxs.bind (Gives.pure _))) ?_
    simp

/-- A step for what may be missing. -/
theorem Gives.optionMapM {f : α → Except ε β} {P : α → Prop} {g : α → β} (x? : Option α)
    (h : ∀ x, Gives (f x) (P x) (g x)) : Gives (x?.mapM f) (∀ x ∈ x?, P x) (x?.map g) := by
  cases x? with
  | none => exact (Gives.pure none).of_iff (by simp)
  | some x =>
    have hsome : (some x).mapM f = f x >>= fun y => Pure.pure (some y) := by
      cases hf : f x <;> simp [hf, Functor.map, Except.map, Bind.bind, Except.bind, Pure.pure, Except.pure]
    rw [hsome]
    refine Gives.of_iff ((h x).bind (Gives.pure _)) ?_
    simp

end Gives

/-- What holds of the elements of a list with their positions, and does not depend on these. -/
theorem forall_mem_zipIdx {α : Type} (P : α → Prop) (xs : List α) (n : Nat) :
    (∀ e ∈ xs.zipIdx n, P e.1) ↔ ∀ x ∈ xs, P x := by
  conv_rhs => rw [← List.zipIdx_map_fst n xs]
  rw [List.forall_mem_map]

/-! ## The renamed form -/

namespace IdMap

/-- Does the source or a value of a condition clash? -/
def Clashes (m : IdMap) (c : Condition) : Prop :=
  m.questions.Clashes c.source ∨ ∃ v ∈ c.values, (m.choicesOf c.source).Clashes v

/-- A condition under the new names. -/
def renamedCondition (m : IdMap) (owner : Owner) (c : Condition) (position : Nat) : Condition where
  id := conditionName owner.name position
  source := m.questions.apply c.source
  values := c.values.map (m.choicesOf c.source).apply

/-- Conditions under the new names. -/
def renamedConditions (m : IdMap) (owner : Owner) (cs : List Condition) : List Condition :=
  (cs.zipIdx 1).map fun (c, position) => m.renamedCondition owner c position

/-- A question at a position under the new names. -/
def renamedQuestion (m : IdMap) (q : Question) (position : Nat) : Question :=
  { q with
    id := questionName position
    input := q.input.mapChoices (nameChoices (questionName position))
    conditions? := q.conditions?.map (m.renamedConditions (.question position)) }

/-- A success page at a position under the new names. -/
def renamedPage (m : IdMap) (p : SuccessPage) (position : Nat) : SuccessPage :=
  { p with
    id := successPageName position
    conditions := m.renamedConditions (.successPage position) p.conditions }

end IdMap

namespace Form

/-- Every condition of a form. -/
def conditions (form : Form) : List Condition :=
  form.questions.flatMap (·.conditions) ++ form.settings.successPages.flatMap (·.conditions)

/-- The conditions of a question are among those of the form. -/
theorem mem_conditions_of_question {form : Form} {q : Question} {c : Condition} (hq : q ∈ form.questions)
    (hc : c ∈ q.conditions) : c ∈ form.conditions :=
  List.mem_append_left _ (List.mem_flatMap.mpr ⟨q, hq, hc⟩)

/-- So are the conditions of a page. -/
theorem mem_conditions_of_page {form : Form} {p : SuccessPage} {c : Condition}
    (hp : p ∈ form.settings.successPages) (hc : c ∈ p.conditions) : c ∈ form.conditions :=
  List.mem_append_right _ (List.mem_flatMap.mpr ⟨p, hp, hc⟩)

/-- The form under its new names. -/
def renamed (form : Form) : Form :=
  { form with
    questions := (form.questions.zipIdx 1).map fun (q, position) => form.idMap.renamedQuestion q position
    settings := { form.settings with
      successPages := (form.settings.successPages.zipIdx 1).map fun (p, position) =>
        form.idMap.renamedPage p position } }

end Form

/-! ## Numbering succeeds unless a reference clashes -/

namespace IdMap

variable (m : IdMap) (owner : Owner)

/-- A source is renamed unless it clashes with a name that is given. -/
theorem gives_source (id : Text) :
    Gives (m.source owner id) (¬ m.questions.Clashes id) (m.questions.apply id) := by
  intro name
  unfold source Renaming.Clashes Renaming.apply
  cases hfind : m.questions.find? id with
  | some new => simp [eq_comm]
  | none => by_cases hmem : id ∈ m.questions.names <;> simp [hmem, eq_comm]

/-- So is a value, by the choices of its source. -/
theorem gives_value (choices : Renaming) (v : Text) :
    Gives (value choices owner v) (¬ choices.Clashes v) (choices.apply v) := by
  intro name
  unfold value Renaming.Clashes Renaming.apply
  cases hfind : choices.find? v with
  | some new => simp [eq_comm]
  | none => by_cases hmem : v ∈ choices.names <;> simp [hmem, eq_comm]

/-- A condition is renamed if its source and its values can be. -/
theorem gives_condition (c : Condition) (position : Nat) :
    Gives (m.condition owner c position) (¬ m.Clashes c) (m.renamedCondition owner c position) := by
  have hvalues := Gives.mapM c.values fun v _ => gives_value owner (m.choicesOf c.source) v
  refine Gives.of_iff ((m.gives_source owner c.source).bind (hvalues.bind (Gives.pure _))) ?_
  simp [Clashes]

/-- Conditions are renamed if each of them can be. -/
theorem gives_conditions (cs : List Condition) :
    Gives (m.conditions owner cs) (∀ c ∈ cs, ¬ m.Clashes c) (m.renamedConditions owner cs) := by
  refine (Gives.mapM (cs.zipIdx 1) fun e _ => m.gives_condition owner e.1 e.2).of_iff ?_
  exact forall_mem_zipIdx (fun c => ¬ m.Clashes c) cs 1

/-- A question is renamed if its conditions can be. -/
theorem gives_question (q : Question) (position : Nat) :
    Gives (m.question q position) (∀ c ∈ q.conditions, ¬ m.Clashes c) (m.renamedQuestion q position) := by
  have hconditions := Gives.optionMapM q.conditions? (m.gives_conditions (.question position))
  refine Gives.of_iff (hconditions.bind (Gives.pure _)) ?_
  unfold Question.conditions
  cases q.conditions? <;> simp

/-- So is a page. -/
theorem gives_successPage (p : SuccessPage) (position : Nat) :
    Gives (m.successPage p position) (∀ c ∈ p.conditions, ¬ m.Clashes c) (m.renamedPage p position) := by
  refine Gives.of_iff ((m.gives_conditions (.successPage position) p.conditions).bind (Gives.pure _)) ?_
  simp

end IdMap

/-- Numbering gives the renamed form unless a reference clashes. -/
theorem Form.gives_numbered (form : Form) :
    Gives form.numbered (∀ c ∈ form.conditions, ¬ form.idMap.Clashes c) form.renamed := by
  have hquestions := Gives.mapM (form.questions.zipIdx 1) fun e _ => form.idMap.gives_question e.1 e.2
  have hpages := Gives.mapM (form.settings.successPages.zipIdx 1) fun e _ =>
    form.idMap.gives_successPage e.1 e.2
  refine Gives.of_iff (hquestions.bind (hpages.bind (Gives.pure _))) ?_
  rw [forall_mem_zipIdx (fun q : Question => ∀ c ∈ q.conditions, ¬ form.idMap.Clashes c),
    forall_mem_zipIdx (fun p : SuccessPage => ∀ c ∈ p.conditions, ¬ form.idMap.Clashes c)]
  rw [conditions, List.forall_mem_append, List.forall_mem_flatMap, List.forall_mem_flatMap, and_true]

/-! ## The new names are those of positions -/

/-- The ids of the choices of a question, in order. -/
def Question.choiceIds (q : Question) : List Text := q.choices.map (·.id)

/-- Only questions that ask for choices have any. -/
theorem Question.choiceIds_of_not_isChoice {q : Question} (h : ¬ q.isChoice) : q.choiceIds = [] := by
  have hnone : q.input.choices? = none := by
    rw [← Option.not_isSome_iff_eq_none, Input.choices?_isSome]
    exact h
  simp [Question.choiceIds, Question.choices, Input.choices, hnone]

/-- The position of the first choice with an id. -/
def Question.choiceIndex? (q : Question) (id : Text) : Option Nat := q.choices.findIdx? fun c => c.id = id

/-- A choice is found at the first place of its id. -/
theorem Question.choiceIndex?_eq_idxOf? (q : Question) (id : Text) :
    q.choiceIndex? id = q.choiceIds.idxOf? id :=
  findIdx?_id_eq_idxOf? Choice.id q.choices id

namespace Form

variable {form : Form}

/-- Questions are renamed by the place of the first one with their id. -/
theorem idMap_questions (form : Form) :
    form.idMap.questions = .byPosition questionName (questionIds form.questions) := by
  rw [Renaming.byPosition, questionIds, ← firsts_map, List.map_map]
  rfl

/-- The choices of a source are renamed by their positions in the first question with its id. -/
theorem idMap_choicesOf {id : Text} {k : Nat} {q : Question} (hk : indexOf? form.questions id = some k)
    (hq : form.questions[k]? = some q) :
    form.idMap.choicesOf id = .byPosition (choiceName (questionName (k + 1))) q.choiceIds := by
  have h := lookup_firsts (·.id) (fun k (q : Question) => q.choiceNames k) 1 [] form.questions id
  rw [indexOf?] at hk
  rw [IdMap.choicesOf, idMap, firstQuestions, h, hk]
  simp [hq, Question.choiceNames, Question.choiceIds, Nat.add_comm 1]

/-- Where there is no source, nothing is renamed. -/
theorem idMap_choicesOf_of_none {id : Text} (hk : indexOf? form.questions id = none) :
    form.idMap.choicesOf id = ⟨[]⟩ := by
  have h := lookup_firsts (·.id) (fun k (q : Question) => q.choiceNames k) 1 [] form.questions id
  rw [indexOf?] at hk
  rw [IdMap.choicesOf, idMap, firstQuestions, h, hk]
  rfl

/-- A question without choices has nothing to rename. -/
theorem idMap_choicesOf_of_not_isChoice {id : Text} {k : Nat} {q : Question}
    (hk : indexOf? form.questions id = some k) (hq : form.questions[k]? = some q) (h : ¬ q.isChoice) :
    form.idMap.choicesOf id = ⟨[]⟩ := by
  rw [idMap_choicesOf hk hq, Question.choiceIds_of_not_isChoice h]
  rfl

/-- No two ids of questions get one name. -/
theorem injective_questions (form : Form) : form.idMap.questions.Injective := by
  rw [idMap_questions]
  exact Renaming.injective_byPosition questionName_injective _

/-- Nor do two ids of choices of one question. -/
theorem injective_choicesOf (form : Form) (id : Text) : (form.idMap.choicesOf id).Injective := by
  cases hk : indexOf? form.questions id with
  | none =>
    rw [idMap_choicesOf_of_none hk]
    exact Renaming.injective_empty
  | some k =>
    obtain ⟨q, hq, -⟩ := indexOf?_eq_some_iff.mp hk
    rw [idMap_choicesOf hk hq]
    exact Renaming.injective_byPosition (choiceName_injective _) _

/-! ## What stands where in the renamed form -/

/-- The renamed questions stand in the same places. -/
theorem getElem?_renamed_questions (form : Form) (k : Nat) :
    form.renamed.questions[k]? = (form.questions[k]?).map fun q => form.idMap.renamedQuestion q (k + 1) := by
  simp [renamed, Function.comp_def, Nat.add_comm 1]

/-- So do the renamed pages. -/
theorem getElem?_renamed_pages (form : Form) (k : Nat) :
    form.renamed.settings.successPages[k]? =
      (form.settings.successPages[k]?).map fun p => form.idMap.renamedPage p (k + 1) := by
  simp [renamed, Function.comp_def, Nat.add_comm 1]

/-- There are as many questions as before. -/
theorem length_renamed_questions (form : Form) : form.renamed.questions.length = form.questions.length := by
  simp [renamed]

/-- The new ids of the questions are the names of their places. -/
theorem questionIds_renamed (form : Form) :
    questionIds form.renamed.questions = positionNames questionName form.questions.length := by
  apply List.ext_getElem?
  intro k
  rw [questionIds, List.getElem?_map, getElem?_renamed_questions, getElem?_positionNames]
  by_cases hk : k < form.questions.length
  · simp [hk, IdMap.renamedQuestion]
  · simp [hk]

/-- A name of the renamed form stands at its position. -/
theorem indexOf?_renamed_iff {id : Text} {k : Nat} :
    indexOf? form.renamed.questions id = some k ↔ k < form.questions.length ∧ id = questionName (k + 1) := by
  rw [indexOf?_eq_idxOf?, questionIds_renamed, idxOf?_positionNames questionName_injective]

/-- What is found in the renamed form is a name. -/
theorem namesPosition_of_indexOf?_renamed {id : Text} {k : Nat}
    (h : indexOf? form.renamed.questions id = some k) :
    NamesPosition questionName (questionIds form.questions) id := by
  rcases indexOf?_renamed_iff.mp h with ⟨hlt, hname⟩
  exact ⟨k, by simpa [questionIds] using hlt, hname⟩

/-- A source of the form is found where it was. -/
theorem indexOf?_renamed_apply {id : Text} {k : Nat} (hk : indexOf? form.questions id = some k) :
    indexOf? form.renamed.questions (form.idMap.questions.apply id) = some k := by
  rw [indexOf?_eq_idxOf?] at hk
  rw [indexOf?_renamed_iff, idMap_questions, Renaming.apply_byPosition_of_idxOf? _ _ hk]
  exact ⟨by simpa [questionIds] using lt_length_of_idxOf? hk, rfl⟩

/-- What is not the id of a question stays. -/
theorem apply_of_indexOf?_eq_none {id : Text} (hk : indexOf? form.questions id = none) :
    form.idMap.questions.apply id = id := by
  rw [indexOf?_eq_idxOf?, idxOf?_eq_none_iff] at hk
  rw [idMap_questions, Renaming.apply_byPosition_of_notMem _ _ hk]

/-- The source of the renamed form is the renamed source. -/
theorem find?_renamed_apply {id : Text} {k : Nat} {q : Question} (hk : indexOf? form.questions id = some k)
    (hq : form.questions[k]? = some q) :
    find? form.renamed.questions (form.idMap.questions.apply id) =
      some (form.idMap.renamedQuestion q (k + 1)) := by
  rw [find?_eq_bind_indexOf?, indexOf?_renamed_apply hk, Option.bind_some, getElem?_renamed_questions, hq,
    Option.map_some]

end Form

/-- Renaming changes no kind of a question. -/
@[simp] theorem IdMap.kind_renamedQuestion (m : IdMap) (q : Question) (position : Nat) :
    (m.renamedQuestion q position).kind = q.kind :=
  Input.kind_mapChoices _ _

/-- The conditions of a renamed question are its renamed conditions. -/
theorem IdMap.conditions_renamedQuestion (m : IdMap) (q : Question) (position : Nat) :
    (m.renamedQuestion q position).conditions = m.renamedConditions (.question position) q.conditions := by
  unfold Question.conditions renamedQuestion
  cases q.conditions? <;> rfl

/-- The new ids of its choices are the names of their places. -/
theorem IdMap.choiceIds_renamedQuestion (m : IdMap) (q : Question) (position : Nat) :
    (m.renamedQuestion q position).choiceIds =
      positionNames (choiceName (questionName position)) q.choices.length := by
  have hchoices : (m.renamedQuestion q position).choices =
      IdMap.nameChoices (questionName position) q.choices :=
    Input.choices_mapChoices _ q.input rfl
  apply List.ext_getElem?
  intro k
  rw [Question.choiceIds, hchoices, List.getElem?_map, IdMap.nameChoices, getElem?_positionNames]
  by_cases hk : k < q.choices.length
  · simp [hk, Nat.add_comm 1]
  · simp [hk]

end Questionnaire
