import Questionnaire.Proofs.NumberedAnswers

/-!
# Answers that are kept

Answers may have keys that belong to no question, and these pass through. If such a stale key is already
the new name of a question, it cannot be told from the answer to that question any more: of the two the
last remains, and if the question had no answer, it has one now. A condition in the same position has the
form refused; answers are not looked at.

* `Form.KeepsAnswers`: every answer is there under its new name, and no other.
* `Form.StaleName`: a key that is taken for the new name of a question.
* `answers_kept_iff_no_stale_name`: when answers are kept, and what is left of them if not.
-/

namespace Questionnaire

/-- The entries of answers under the new names, one by one. -/
def Answers.renamed (A : Answers) (m : IdMap) : Fields :=
  A.map fun (id, v) => (m.questions.apply id, (m.choicesOf id).renameAnswer v)

/-- Is a key no id of a question, but the new name of one? -/
def Form.StaleName (form : Form) (key : Text) : Prop :=
  key ∉ questionIds form.questions ∧ NamesFirst questionName (questionIds form.questions) key

/-- Is every answer there under its new name, and no other? -/
structure Form.KeepsAnswers (form : Form) (A : Answers) : Prop where
  /-- The entries are the renamed ones, in the same order. -/
  entries : A.numbered form.idMap = A.renamed form.idMap
  /-- A question without an entry has none under its new name. -/
  absent : ∀ id ∈ questionIds form.questions, Fields.get? A id = none →
    Fields.get? (A.numbered form.idMap) (form.idMap.questions.apply id) = none
  /-- A question without an answer, which is what a null is, has none under its new name. -/
  unanswered : ∀ id ∈ questionIds form.questions, A.given? id = none →
    (A.numbered form.idMap).given? (form.idMap.questions.apply id) = none

variable {form : Form} {A : Answers}

/-- The keys of renamed answers are the renamed keys. -/
theorem Answers.keys_renamed (A : Answers) (m : IdMap) :
    Fields.keys (A.renamed m) = (Fields.keys A).map m.questions.apply := by
  simp [Fields.keys, renamed, Function.comp_def]

/-- A key clashes with the renaming of the questions when it is a stale name. -/
theorem Form.clashes_iff_staleName (form : Form) (key : Text) :
    form.idMap.questions.Clashes key ↔ form.StaleName key := by
  rw [idMap_questions, Renaming.clashes_byPosition_iff]
  rfl

/-- A stale name keeps its text, and a question gets it. -/
theorem Form.StaleName.exists_question {key : Text} (h : form.StaleName key) :
    form.idMap.questions.apply key = key ∧
      ∃ id ∈ questionIds form.questions, form.idMap.questions.apply id = key := by
  rcases h with ⟨hnot, old, k, hk, hname⟩
  rw [idMap_questions]
  constructor
  · exact Renaming.apply_byPosition_of_notMem _ _ hnot
  · refine ⟨old, List.mem_of_getElem? (getElem?_of_idxOf? hk), ?_⟩
    rw [hname]
    exact Renaming.apply_byPosition_of_idxOf? _ _ hk

/-- Answers are kept if no key is a stale name. -/
theorem Form.keepsAnswers_of_no_staleName (hkeys : (Fields.keys A).Nodup)
    (h : ∀ key ∈ Fields.keys A, ¬ form.StaleName key) : form.KeepsAnswers A := by
  have hapart : form.KeepsKeys A := {
    distinct := hkeys
    apart := by
      intro key hkey
      rw [form.clashes_iff_staleName]
      exact h key hkey }
  have hknown : ∀ id ∈ questionIds form.questions, ¬ form.idMap.questions.Clashes id := by
    intro id hid
    exact Form.not_clashes_of_known_or_unnamed (.inl hid)
  constructor
  · exact hapart.numbered_eq_map
  · intro id hid hnone
    rw [hapart.get?_numbered (hknown id hid), hnone, Option.map_none]
  · intro id hid hnone
    rw [hapart.given?_numbered (hknown id hid), hnone, Option.map_none]

/-- Where answers are kept, no key is a stale name: the question that gets the name would lose its answer
if it had one, and would come by one if it had none. -/
theorem Form.KeepsAnswers.no_staleName (h : form.KeepsAnswers A) :
    ∀ key ∈ Fields.keys A, ¬ form.StaleName key := by
  intro key hkey hstale
  rcases hstale.exists_question with ⟨hsame, id, hid, hname⟩
  have hkeys : Fields.keys (A.numbered form.idMap) = (Fields.keys A).map form.idMap.questions.apply := by
    rw [h.entries, Answers.keys_renamed]
  by_cases hanswered : id ∈ Fields.keys A
  · -- the two entries would be under one key
    have hnodup : ((Fields.keys A).map form.idMap.questions.apply).Nodup := by
      rw [← hkeys]
      exact Fields.nodup_keys_ofEntries _
    have heq : id = key := List.inj_on_of_nodup_map hnodup hanswered hkey (hname.trans hsame.symm)
    exact hstale.1 (heq ▸ hid)
  · have hnone := h.absent id hid (Fields.get?_eq_none_iff.mpr hanswered)
    rw [hname, Fields.get?_eq_none_iff, hkeys] at hnone
    exact hnone (List.mem_map.mpr ⟨key, hkey, hsame⟩)

/-- **Which answers renaming keeps.** Every answer is there under its new name, in its place, and no
question comes by one, exactly if no key is a stale name. In any case the result has the new names in the
order in which they come up first, each with the value that comes up last under it. -/
theorem answers_kept_iff_no_stale_name (form : Form) (A : Answers) (h : (Fields.keys A).Nodup) :
    (form.KeepsAnswers A ↔ ∀ key ∈ Fields.keys A, ¬ form.StaleName key) ∧
    Fields.keys (A.numbered form.idMap) = ((Fields.keys A).map form.idMap.questions.apply).eraseDups ∧
    ∀ name, Fields.get? (A.numbered form.idMap) name = Fields.get? (A.renamed form.idMap).reverse name := by
  refine ⟨⟨fun hkept => hkept.no_staleName, Form.keepsAnswers_of_no_staleName h⟩, ?_, ?_⟩
  · rw [← Answers.keys_renamed]
    exact Fields.keys_ofEntries _
  · intro name
    exact Fields.get?_ofEntries _ name

/-- A key that is the name of a repetition only, and one that looks like a name, are kept with the answers
to a repeated question and to one whose id is the name of another. -/
theorem answers_kept_beside_name_of_repetition :
    let form : Form := {
      title := ""
      description := ""
      questions := [.bare "x" (.singleChoice [⟨"o", "", none, none⟩]) [] .all, .bare "x" .textInput [] .all,
        .bare "q_1" .textInput [] .all]
      settings := .standard }
    let A : Answers := [("q_2", .str "b"), ("q_1", .str "c"), ("x", .str "o"), ("q_4", .null)]
    form.KeepsAnswers A ∧
    A.numbered form.idMap =
      ([("q_2", .str "b"), ("q_3", .str "c"), ("q_1", .str "q_1_opt_1"), ("q_4", .null)] : Answers) := by
  intro form A
  -- The names of first occurrences are `q_1` and `q_3`: `q_2` names the repetition, `q_1` is an id itself.
  have hstale : ∀ key ∈ Fields.keys A, ¬ form.StaleName key := by
    intro key hkey hstale
    rw [← form.clashes_iff_staleName] at hstale
    rcases hstale with ⟨hfind, hname⟩
    revert hname hfind
    revert key
    decide
  have hkept := (answers_kept_iff_no_stale_name form A (by decide)).1.mpr hstale
  exact ⟨hkept, by rw [hkept.entries]; rfl⟩

/-- A stale key takes the place of the answer to a question, and answers a question that had no answer. -/
theorem stale_key_loses_answer :
    let form : Form := {
      title := ""
      description := ""
      questions := [.bare "x" .textInput [] .all]
      settings := .standard }
    let both : Answers := [("x", .str "a"), ("q_1", .str "b")]
    let stale : Answers := [("q_1", .str "b")]
    both.numbered form.idMap = stale ∧ ¬ form.KeepsAnswers both ∧
    Fields.get? stale "x" = none ∧ form.idMap.questions.apply "x" = "q_1" ∧
    (stale.numbered form.idMap).given? "q_1" = some (.str "b") ∧ ¬ form.KeepsAnswers stale := by
  intro form both stale
  have hname : form.StaleName "q_1" := ⟨by decide, "x", 0, by decide, by decide⟩
  refine ⟨by rfl, ?_, by rfl, by rfl, by rfl, ?_⟩
  · intro hkept
    exact hkept.no_staleName "q_1" (by decide) hname
  · intro hkept
    exact hkept.no_staleName "q_1" (by decide) hname

end Questionnaire
