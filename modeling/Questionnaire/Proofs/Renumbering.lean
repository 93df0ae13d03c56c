import Questionnaire.Proofs.Numbering

/-!
# Numbering twice

In a numbered form every id is the name of its own position, so no id is repeated and each one's new name
is its own text. A second numbering changes nothing, therefore. In particular nothing clashes in it: a
reference clashes by finding nothing under a text that is a name, but the names are now the ids themselves,
and so such a reference finds one. It does so too if it dangled in the form before and only came to find a
repetition.

* `Renaming.identity`, `IdMap.identity`: ids that have their own text for a name.
* `Form.idMap_renamed`: the names that a second numbering gives.
* `IdMap.renamedQuestion_twice`, `IdMap.renamedPage_twice`: what it writes.
* `numbering_is_idempotent`: it gives the same form.
-/

namespace Questionnaire

/-! ## Ids that keep their text -/

/-- Ids that have their own text for a name. -/
def Renaming.identity (ids : List Text) : Renaming := ⟨ids.map fun id => (id, id)⟩

/-- The questions of a form, and the choices of each, have their own ids for names. -/
def IdMap.identity (form : Form) : IdMap where
  questions := .identity (questionIds form.questions)
  choices := form.questions.map fun q => (q.id, .identity q.choiceIds)

namespace Renaming

/-- The identity gives each id its own name. -/
theorem names_identity (ids : List Text) : (identity ids).names = ids := by
  unfold identity names
  rw [List.map_map]
  exact List.map_id ids

/-- It knows the ids that it is made for. -/
theorem find?_identity (ids : List Text) (id : Text) :
    (identity ids).find? id = if id ∈ ids then some id else none := by
  unfold identity find?
  induction ids with
  | nil => rfl
  | cons t ids ih =>
    rw [List.map_cons, List.lookup_cons, ih]
    by_cases h : id = t
    · simp [h]
    · have hbeq : (id == t) = false := beq_eq_false_iff_ne.mpr h
      simp [h, hbeq]

/-- Every text stays, whether or not it is one of the ids. -/
@[simp] theorem apply_identity (ids : List Text) (id : Text) : (identity ids).apply id = id := by
  unfold apply
  rw [find?_identity]
  by_cases h : id ∈ ids <;> simp [h]

/-- Nothing clashes, since a text that is a name is an id as well. -/
theorem not_clashes_identity (ids : List Text) (id : Text) : ¬ (identity ids).Clashes id := by
  rintro ⟨hfind, hname⟩
  rw [names_identity] at hname
  rw [find?_identity, if_pos hname] at hfind
  cases hfind

end Renaming

namespace IdMap

variable (form : Form) (c : Condition)

/-- Whatever the source, its choices keep their ids. -/
theorem exists_choicesOf_identity (id : Text) : ∃ ids, (identity form).choicesOf id = .identity ids := by
  unfold choicesOf identity
  cases hfound : (form.questions.map fun q => (q.id, Renaming.identity q.choiceIds)).lookup id with
  | none => exact ⟨[], rfl⟩
  | some names =>
    rcases List.lookup_eq_some_iff.mp hfound with ⟨before, after, hsplit, -⟩
    have hmem : (id, names) ∈ form.questions.map fun q => (q.id, Renaming.identity q.choiceIds) := by
      simp [hsplit]
    rcases List.mem_map.mp hmem with ⟨q, -, hentry⟩
    exact ⟨q.choiceIds, (congrArg Prod.snd hentry).symm⟩

/-- Nothing clashes with the identity of a form. -/
theorem not_clashes_identity : ¬ (identity form).Clashes c := by
  rcases exists_choicesOf_identity form c.source with ⟨ids, hchoices⟩
  unfold Clashes
  rw [hchoices]
  rintro (hsource | ⟨v, -, hvalue⟩)
  · exact Renaming.not_clashes_identity _ _ hsource
  · exact Renaming.not_clashes_identity _ _ hvalue

/-- Of a condition nothing is changed but its own id, which is that of its position. -/
theorem renamedCondition_identity (owner : Owner) (position : Nat) :
    (identity form).renamedCondition owner c position =
      { c with id := conditionName owner.name position } := by
  rcases exists_choicesOf_identity form c.source with ⟨ids, hchoices⟩
  unfold renamedCondition
  rw [hchoices]
  have hkept : (Renaming.identity ids).apply = fun v => v := by
    funext v
    exact Renaming.apply_identity ids v
  simp [hkept, identity]

end IdMap

/-! ## Names that are given again -/

/-- Where no id is repeated, every element is the first with its id. -/
theorem firsts_of_nodup {α : Type} (id : α → Text) (p : Nat) (seen : List Text) (xs : List α)
    (hseen : ∀ x ∈ xs, id x ∉ seen) (h : (xs.map id).Nodup) :
    firsts id p seen xs = (xs.zipIdx p).map fun (x, position) => (position, x) := by
  induction xs generalizing p seen with
  | nil => rfl
  | cons x xs ih =>
    rw [List.map_cons, List.nodup_cons] at h
    rw [firsts_cons, if_neg (hseen x (by simp)), List.zipIdx_cons, List.map_cons]
    congr 1
    apply ih
    · -- the id of the head has been seen from now on, and the rest does not have it
      intro y hy hmem
      rcases List.mem_cons.mp hmem with hsame | hold
      · exact h.1 (hsame ▸ List.mem_map_of_mem hy)
      · exact hseen y (List.mem_cons_of_mem x hy) hold
    · exact h.2

/-- Names of different places are different. -/
theorem nodup_positionNames {name : Nat → Text} (hname : Function.Injective name) (n : Nat) :
    (positionNames name n).Nodup := by
  apply List.Nodup.map _ List.nodup_range
  intro j k hsame
  have hsucc : j + 1 = k + 1 := hname hsame
  omega

/-- The names of positions have their own text for a name. -/
theorem Renaming.byPosition_positionNames {name : Nat → Text} (hname : Function.Injective name) (n : Nat) :
    byPosition name (positionNames name n) = identity (positionNames name n) := by
  unfold byPosition identity
  rw [firsts_of_nodup _ _ _ _ (by simp) (by simpa using nodup_positionNames hname n)]
  congr 1
  apply List.ext_getElem?
  intro k
  simp only [List.getElem?_map, List.getElem?_zipIdx, getElem?_positionNames]
  by_cases hk : k < n
  · simp [hk, Nat.add_comm 1]
  · simp [hk]

/-- A second numbering gives every id its own text for a name. -/
theorem Form.idMap_renamed (form : Form) : form.renamed.idMap = .identity form.renamed := by
  have hnodup : (form.renamed.questions.map (·.id)).Nodup := by
    have hids := nodup_positionNames questionName_injective form.questions.length
    rwa [← questionIds_renamed] at hids
  have hquestions : form.renamed.idMap.questions = .identity (questionIds form.renamed.questions) := by
    rw [idMap_questions, questionIds_renamed]
    exact Renaming.byPosition_positionNames questionName_injective _
  have hchoices : form.renamed.idMap.choices =
      form.renamed.questions.map fun q => (q.id, .identity q.choiceIds) := by
    unfold idMap firstQuestions
    rw [firsts_of_nodup _ _ _ _ (by simp) hnodup]
    apply List.ext_getElem?
    intro k
    simp only [List.getElem?_map, List.getElem?_zipIdx, getElem?_renamed_questions]
    cases form.questions[k]? with
    | none => rfl
    | some q =>
      -- the choices of the question at a position are named after the position once more
      have hnames : (form.idMap.renamedQuestion q (k + 1)).choiceNames (k + 1) =
          .identity (form.idMap.renamedQuestion q (k + 1)).choiceIds := by
        have hids := form.idMap.choiceIds_renamedQuestion q (k + 1)
        unfold Question.choiceNames
        unfold Question.choiceIds at hids ⊢
        rw [hids]
        exact Renaming.byPosition_positionNames (choiceName_injective _) _
      simp [hnames, Nat.add_comm 1]
  unfold IdMap.identity
  rw [← hquestions, ← hchoices]

/-! ## What is written again -/

/-- What is written by position over what was written by position is what was there already. -/
theorem map_zipIdx_twice {α : Type} {f g : α → Nat → α} (h : ∀ x k, g (f x k) k = f x k) (xs : List α)
    (n : Nat) :
    ((((xs.zipIdx n).map fun (x, k) => f x k).zipIdx n).map fun (x, k) => g x k) =
      (xs.zipIdx n).map fun (x, k) => f x k := by
  apply List.ext_getElem?
  intro k
  cases hx : xs[k]? with
  | none => simp [hx]
  | some x => simp [hx, h]

/-- Choices that are named by their places have the names that they would get. -/
theorem IdMap.nameChoices_twice (question : Text) (cs : List Choice) :
    nameChoices question (nameChoices question cs) = nameChoices question cs := by
  have htwice := map_zipIdx_twice
    (f := fun (c : Choice) position => { c with id := choiceName question position })
    (g := fun (c : Choice) position => { c with id := choiceName question position })
    (fun _ _ => rfl) cs 1
  exact htwice

namespace IdMap

variable (m : IdMap) (form : Form)

/-- Renamed conditions are renamed to themselves. -/
theorem renamedConditions_twice (owner : Owner) (cs : List Condition) :
    (identity form).renamedConditions owner (m.renamedConditions owner cs) =
      m.renamedConditions owner cs := by
  apply map_zipIdx_twice
  intro c position
  rw [renamedCondition_identity]
  rfl

/-- So are renamed questions. -/
theorem renamedQuestion_twice (q : Question) (position : Nat) :
    (identity form).renamedQuestion (m.renamedQuestion q position) position =
      m.renamedQuestion q position := by
  -- the choices are named by their places a second time
  have hinput : (q.input.mapChoices (nameChoices (questionName position))).mapChoices
      (nameChoices (questionName position)) = q.input.mapChoices (nameChoices (questionName position)) := by
    cases q.input <;> simp [Input.mapChoices, nameChoices_twice]
  have hconditions : (q.conditions?.map (m.renamedConditions (.question position))).map
      ((identity form).renamedConditions (.question position)) =
        q.conditions?.map (m.renamedConditions (.question position)) := by
    cases q.conditions? with
    | none => rfl
    | some cs => exact congrArg some (renamedConditions_twice m form _ cs)
  unfold renamedQuestion
  simp only [hinput, hconditions]

/-- So are renamed pages. -/
theorem renamedPage_twice (p : SuccessPage) (position : Nat) :
    (identity form).renamedPage (m.renamedPage p position) position = m.renamedPage p position := by
  unfold renamedPage
  simp only [renamedConditions_twice]

end IdMap

/-- The renamed form is renamed to itself. -/
theorem Form.renamed_renamed (form : Form) : form.renamed.renamed = form.renamed := by
  have hquestions := map_zipIdx_twice (form.idMap.renamedQuestion_twice form.renamed) form.questions 1
  have hpages := map_zipIdx_twice (form.idMap.renamedPage_twice form.renamed) form.settings.successPages 1
  rw [← idMap_renamed] at hquestions hpages
  calc form.renamed.renamed
      = { form.renamed with
          questions := form.renamed.questions
          settings := form.renamed.settings } := by
        unfold renamed at hquestions hpages ⊢
        simp only [hquestions, hpages]
    _ = form.renamed := rfl

/-- A form that comes out of numbering is numbered to itself. -/
theorem Form.numbered_renamed (form : Form) : form.renamed.numbered = .ok form.renamed := by
  rw [form.renamed.gives_numbered form.renamed]
  constructor
  · intro c _
    rw [idMap_renamed]
    exact IdMap.not_clashes_identity _ c
  · exact form.renamed_renamed.symm

/-- **Numbering twice is numbering once.** Where a form, with repeated ids and references of any kind, is
numbered, the result is numbered again, and to itself; and in that second numbering the name of every
question is its id, and so is the name of every choice of each question. -/
theorem numbering_is_idempotent (form other : Form) (h : form.numbered = .ok other) :
    other.numbered = .ok other ∧ other.idMap = .identity other := by
  have hother : other = form.renamed := ((form.gives_numbered other).mp h).2
  rw [hother]
  exact ⟨form.numbered_renamed, form.idMap_renamed⟩

/-- A form with a repeated question and a repeated choice, and with references that dangle, point forward,
look like names, and come to find the repetitions: it is not the form that it is numbered to, but that one
is numbered to itself. -/
theorem numbering_is_idempotent_of_stray_references :
    let choice : Choice := ⟨"q_3", "", none, none⟩
    let form : Form := {
      title := ""
      description := ""
      questions := [
        .bare "x" (.multipleChoice [choice, choice]) [⟨none, "q_2", ["q_1_opt_1"]⟩, ⟨none, "y", ["q_3"]⟩] .any,
        .bare "x" .textInput [] .all,
        .bare "y" .address [⟨none, "x", ["q_3", "q_1_opt_2", "else"]⟩, ⟨none, "q_4", []⟩] .all]
      settings := { FormSettings.standard with
        successPages := [⟨"success_2", "", "", [⟨"q_1", "q_2", ["q_2_opt_1"]⟩], .all⟩] } }
    form.numbered = .ok form.renamed ∧ form.renamed ≠ form ∧
    form.renamed.numbered = .ok form.renamed ∧
    form.renamed.idMap.questions = .identity ["q_1", "q_2", "q_3"] ∧
    form.renamed.idMap.choicesOf "q_1" = .identity ["q_1_opt_1", "q_1_opt_2"] := by
  intro choice form
  have hok : form.numbered = .ok form.renamed := by rfl
  have htwice := numbering_is_idempotent form form.renamed hok
  refine ⟨hok, by decide, htwice.1, ?_, ?_⟩
  · rw [htwice.2]
    rfl
  · rw [htwice.2]
    rfl

end Questionnaire
