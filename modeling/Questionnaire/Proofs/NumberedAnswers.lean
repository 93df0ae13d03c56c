import Questionnaire.Proofs.References
import Questionnaire.Redirect

/-!
# Answers under the new names

Answers are renamed with the form: their keys as the questions, and what they select as the choices of
the question. The answer to a source stays under the source and is renamed by its choices, provided that
no other key and no other selected text happens to be a name that is written.

* `Form.Accepts`: answers of which that is so.
* `Form.KeepsKeys`: what is asked of the keys alone; `KeepsKeys.given?_numbered` for the answer to a source,
  before and after.
* `Condition.matchedBy_renamed`, `Condition.matchedByAny_renamed`: a renamed condition accepts a renamed
  answer exactly if it did before.
-/

namespace Questionnaire

/-! ## Renamed answers -/

namespace Renaming

/-- A renaming that knows nothing leaves items as they are. -/
@[simp] theorem renameItem_empty (v : Json) : (⟨[]⟩ : Renaming).renameItem v = v := by
  cases v <;> rfl

/-- So it does with answers. -/
@[simp] theorem renameAnswer_empty (v : Json) : (⟨[]⟩ : Renaming).renameAnswer v = v := by
  have hitem : (⟨[]⟩ : Renaming).renameItem = id := funext renameItem_empty
  cases v <;> simp [renameAnswer, hitem]

/-- Renaming makes no null, and leaves none out. -/
theorem renameAnswer_eq_null_iff (r : Renaming) (v : Json) : r.renameAnswer v = .null ↔ v = .null := by
  cases v <;> simp [renameAnswer, renameItem]

/-- What is selected is renamed item by item. -/
theorem selected_renameAnswer (r : Renaming) (v : Json) :
    (r.renameAnswer v).selected = v.selected.map r.renameItem := by
  cases v <;> rfl

end Renaming

/-! ## Answers that a form accepts -/

/-- Is a text the id of a choice, or no name of one? -/
def Question.Admits (q : Question) (position : Nat) (s : Text) : Prop :=
  s ∈ q.choiceIds ∨ ¬ NamesPosition (choiceName (questionName position)) q.choiceIds s

instance (q : Question) (position : Nat) (s : Text) : Decidable (q.Admits position s) :=
  inferInstanceAs (Decidable (_ ∨ _))

/-- Is what an answer selects made up of texts that the question admits? -/
def Question.AcceptsSelection (q : Question) (position : Nat) (answer : Json) : Prop :=
  ∀ v ∈ answer.selected, ∃ s, v = .str s ∧ q.Admits position s

/-- Answers whose meaning does not depend on how a form is numbered. -/
structure Form.Accepts (form : Form) (A : Answers) : Prop where
  /-- No id has two answers. -/
  distinct : (Fields.keys A).Nodup
  /-- What is not the id of a question is no name of one. -/
  keys : ∀ key ∈ Fields.keys A, key ∈ questionIds form.questions ∨
    ¬ NamesPosition questionName (questionIds form.questions) key
  /-- The answer to a choice question is a text or a list of texts, each known or no name of a choice. -/
  selections : ∀ k q, form.questions[k]? = some q → indexOf? form.questions q.id = some k → q.isChoice →
    ∀ v, A.given? q.id = some v → q.AcceptsSelection (k + 1) v

variable {form : Form} {A : Answers}

/-- What is selected is made of texts. -/
theorem Question.AcceptsSelection.exists_text {q : Question} {position : Nat} {answer : Json}
    (h : q.AcceptsSelection position answer) : ∀ v ∈ answer.selected, ∃ s, v = .str s := by
  intro v hv
  obtain ⟨s, hs, -⟩ := h v hv
  exact ⟨s, hs⟩

/-- Each selected text is one that the question admits. -/
theorem Question.AcceptsSelection.admits {q : Question} {position : Nat} {answer : Json}
    (h : q.AcceptsSelection position answer) {s : Text} (hs : .str s ∈ answer.selected) :
    q.Admits position s := by
  obtain ⟨t, ht, hadmits⟩ := h _ hs
  rwa [Json.str.inj ht]

/-- A text that is admitted is no name of a choice that it is not the id of. -/
theorem Question.Admits.not_clashes {q : Question} {id : Text} {k : Nat}
    (hk : indexOf? form.questions id = some k) (hq : form.questions[k]? = some q) {s : Text}
    (h : q.Admits (k + 1) s) : ¬ (form.idMap.choicesOf id).Clashes s := by
  rw [Form.idMap_choicesOf hk hq, Renaming.clashes_byPosition_iff]
  rintro ⟨hnot, hname⟩
  rcases h with hmem | hno
  · exact hnot hmem
  · exact hno hname.namesPosition

/-- A key that is the id of a question, or no name of one, does not clash. -/
theorem Form.not_clashes_of_known_or_unnamed {key : Text} (h : key ∈ questionIds form.questions ∨
    ¬ NamesPosition questionName (questionIds form.questions) key) : ¬ form.idMap.questions.Clashes key := by
  rw [Form.idMap_questions, Renaming.clashes_byPosition_iff]
  rintro ⟨hnot, hname⟩
  rcases h with hmem | hno
  · exact hnot hmem
  · exact hno hname.namesPosition

/-! ## Keys that are kept apart -/

/-- Answers none of whose keys is taken for the new name of a question. -/
structure Form.KeepsKeys (form : Form) (A : Answers) : Prop where
  distinct : (Fields.keys A).Nodup
  apart : ∀ key ∈ Fields.keys A, ¬ form.idMap.questions.Clashes key

/-- Answers to questions of the form keep their keys apart. -/
theorem Form.Accepts.keepsKeys (h : form.Accepts A) : form.KeepsKeys A where
  distinct := h.distinct
  apart := fun key hkey => Form.not_clashes_of_known_or_unnamed (h.keys key hkey)

namespace Form.KeepsKeys

variable (h : form.KeepsKeys A)

include h

/-- Answers are renamed entry by entry, none of them being merged. -/
theorem numbered_eq_map :
    A.numbered form.idMap =
      A.map fun (id, v) => (form.idMap.questions.apply id, (form.idMap.choicesOf id).renameAnswer v) := by
  apply Fields.ofEntries_eq_self
  have hkeys : ((Fields.keys A).map form.idMap.questions.apply).Nodup := by
    refine List.Nodup.map_on ?_ h.distinct
    intro a ha b hb hab
    exact (form.injective_questions.apply_inj (h.apart a ha) (h.apart b hb)).mp hab
  simpa [Fields.keys, Function.comp_def] using hkeys

/-- What is under an id is renamed by the choices of the question with it. -/
theorem get?_numbered {id : Text} (hid : ¬ form.idMap.questions.Clashes id) :
    Fields.get? (A.numbered form.idMap) (form.idMap.questions.apply id) =
      (Fields.get? A id).map (form.idMap.choicesOf id).renameAnswer := by
  rw [h.numbered_eq_map]
  apply Fields.get?_map (g := fun id => (form.idMap.choicesOf id).renameAnswer)
  intro key hkey hsame
  exact (form.injective_questions.apply_inj (h.apart key hkey) hid).mp hsame

/-- So is the answer, a null staying no answer. -/
theorem given?_numbered {id : Text} (hid : ¬ form.idMap.questions.Clashes id) :
    (A.numbered form.idMap).given? (form.idMap.questions.apply id) =
      (A.given? id).map (form.idMap.choicesOf id).renameAnswer := by
  unfold Answers.given?
  rw [h.get?_numbered hid]
  cases Fields.get? A id with
  | none => rfl
  | some v => cases v <;> rfl

end Form.KeepsKeys

/-! ## Renamed conditions on renamed answers -/

namespace Renaming

variable {r : Renaming} (hr : r.Injective) {values : List Text} (hvalues : ∀ v ∈ values, ¬ r.Clashes v)

include hr hvalues

/-- A renamed text is among renamed values exactly if it was among them. -/
theorem contains_map_apply {s : Text} (hs : ¬ r.Clashes s) :
    (values.map r.apply).contains (r.apply s) = values.contains s := by
  rw [Bool.eq_iff_iff, List.contains_iff_mem, List.contains_iff_mem, List.mem_map]
  constructor
  · rintro ⟨v, hv, hsame⟩
    rwa [← (hr.apply_inj (hvalues v hv) hs).mp hsame]
  · intro hmem
    exact ⟨s, hmem, rfl⟩

/-- A renamed answer holds one of the renamed values exactly if it held one before. -/
theorem any_selected_renameAnswer {answer : Json} (ha : ∀ s, .str s ∈ answer.selected → ¬ r.Clashes s) :
    ((values.map r.apply).any fun v => .str v ∈ (r.renameAnswer answer).selected) =
      values.any fun v => .str v ∈ answer.selected := by
  rw [Bool.eq_iff_iff, List.any_map, List.any_eq_true, List.any_eq_true]
  refine exists_congr fun v => and_congr_right fun hv => ?_
  rw [selected_renameAnswer]
  simp only [Function.comp_apply, decide_eq_true_eq, List.mem_map]
  constructor
  · rintro ⟨x, hx, hsame⟩
    cases x with
    | str s =>
      have heq : r.apply s = r.apply v := Json.str.inj hsame
      rwa [← (hr.apply_inj (ha s hx) (hvalues v hv)).mp heq]
    | _ => cases hsame
  · intro hmem
    exact ⟨.str v, hmem, rfl⟩

end Renaming

/-- Texts stand for themselves. -/
theorem mapM_answerText_str [Stack] (texts : List Text) :
    (texts.map Json.str).mapM Json.answerText = .ok texts := by
  induction texts with
  | nil => rfl
  | cons s texts ih =>
    rw [List.map_cons, List.mapM_cons, ih]
    rfl

/-- A list of texts has these texts. -/
theorem exists_texts {items : List Json} (h : ∀ v ∈ items, ∃ s, v = .str s) :
    ∃ texts : List Text, items = texts.map .str := by
  induction items with
  | nil => exact ⟨[], rfl⟩
  | cons v items ih =>
    obtain ⟨s, rfl⟩ := h v (by simp)
    obtain ⟨texts, rfl⟩ := ih fun v hv => h v (List.mem_cons_of_mem _ hv)
    exact ⟨s :: texts, rfl⟩

namespace Condition

variable {c d : Condition} {r : Renaming}

/-- A renamed condition on a choice question accepts a renamed answer exactly if it did before. -/
theorem matchedBy_renamed (hr : r.Injective) (hd : d.values = c.values.map r.apply)
    (hc : ∀ v ∈ c.values, ¬ r.Clashes v) {kind : QuestionKind} (hkind : kind.isChoice) {answer : Json}
    (ha : ∀ s, .str s ∈ answer.selected → ¬ r.Clashes s) :
    d.matchedBy kind (r.renameAnswer answer) = c.matchedBy kind answer := by
  have hany := Renaming.any_selected_renameAnswer hr hc ha
  cases kind with
  | singleChoice | multipleChoice => simpa only [matchedBy, hd] using hany
  | textInput | address | contact => cases hkind

/-- So it does by the rule that ignores kinds, for a text or a list of texts. -/
theorem matchedByAny_renamed [Stack] (hr : r.Injective) (hd : d.values = c.values.map r.apply)
    (hc : ∀ v ∈ c.values, ¬ r.Clashes v) {answer : Json} (htexts : ∀ v ∈ answer.selected, ∃ s, v = .str s)
    (ha : ∀ s, .str s ∈ answer.selected → ¬ r.Clashes s) :
    d.matchedByAny (r.renameAnswer answer) = c.matchedByAny answer := by
  cases answer with
  | str s =>
    have hs := Renaming.contains_map_apply hr hc (ha s (by simp [Json.selected]))
    simp only [Renaming.renameAnswer, Renaming.renameItem, matchedByAny, hd, hs]
  | arr items =>
    obtain ⟨texts, rfl⟩ := exists_texts htexts
    have hrenamed : (texts.map Json.str).map r.renameItem = (texts.map r.apply).map .str := by
      simp [Function.comp_def, Renaming.renameItem]
    have hany : (texts.map r.apply).any (d.values.contains ·) = texts.any (c.values.contains ·) := by
      rw [Bool.eq_iff_iff, List.any_map, List.any_eq_true, List.any_eq_true, hd]
      refine exists_congr fun s => and_congr_right fun hs => ?_
      rw [Function.comp_apply, Renaming.contains_map_apply hr hc (ha s (by simpa [Json.selected] using hs))]
    simp only [Renaming.renameAnswer, matchedByAny, hrenamed, mapM_answerText_str]
    exact congrArg Except.ok hany
  | _ =>
    -- neither a text nor a list of texts
    simp [Json.selected] at htexts

end Condition

end Questionnaire
