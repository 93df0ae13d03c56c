import Questionnaire.Proofs.NumberedAnswers
import Questionnaire.Answers.Completion

/-!
# Recording under the new names

A respondent records answers and toggles options one after the other. As long as every one of them is
allowed, to record under the old names and rename is to rename and record under the new ones, and a
question is answered before exactly if it is afterwards.

* `Form.Collects`: answers that are built up so.
* `Form.Collects.put`, `Form.Collects.toggle`: they stay so.
* `Form.Collects.numbered_put`, `Form.Collects.numbered_toggle`: changes before and after renaming.
* `Form.isAnsweredBy_renamed`: what answers a renamed question.
-/

namespace Questionnaire

/-! ## Toggling texts -/

/-- A selection of texts with a text removed if it is in it, else added at the end. -/
def toggledText (s : Text) (texts : List Text) : List Text :=
  if s ∈ texts then texts.erase s else texts ++ [s]

/-- Texts that are selected or no longer make a list of texts again. -/
theorem Answers.toggled_str (s : Text) (texts : List Text) :
    toggled (.str s) (texts.map .str) = (toggledText s texts).map .str := by
  have hequals : (fun v : Json => v.equals (.str s)) ∘ Json.str = fun t => t == s := by
    funext t
    simp [Json.equals]
  have hselected : isSelected (.str s) (texts.map .str) = decide (s ∈ texts) := by
    rw [isSelected, List.any_map, hequals, List.any_beq']
    simp
  rw [toggled, hselected, deselect, List.eraseP_map, hequals, toggledText, List.erase_eq_eraseP']
  by_cases hmem : s ∈ texts <;> simp [hmem]

/-- Only the text itself can be selected anew. -/
theorem mem_of_mem_toggledText {s t : Text} {texts : List Text} (h : t ∈ toggledText s texts) :
    t = s ∨ t ∈ texts := by
  unfold toggledText at h
  split at h
  · exact .inr (List.mem_of_mem_erase h)
  · rcases List.mem_append.mp h with h | h
    · exact .inr h
    · exact .inl (List.mem_singleton.mp h)

/-- A text is removed under its changed name, where no other text is changed to the same. -/
theorem map_erase_of_inj {f : Text → Text} {s : Text} {texts : List Text}
    (h : ∀ t ∈ texts, f t = f s → t = s) : (texts.erase s).map f = (texts.map f).erase (f s) := by
  induction texts with
  | nil => rfl
  | cons t texts ih =>
    have hrest := ih fun t ht => h t (List.mem_cons_of_mem _ ht)
    by_cases ht : t = s
    · simp [ht]
    · have hne : f t ≠ f s := fun e => ht (h t (by simp) e)
      rw [List.erase_cons_tail (by simpa using ht), List.map_cons, List.map_cons,
        List.erase_cons_tail (by simpa using hne), hrest]

/-- A renamed text is toggled as the text was. -/
theorem Renaming.map_toggledText {r : Renaming} (hr : r.Injective) {s : Text} {texts : List Text}
    (hs : ¬ r.Clashes s) (htexts : ∀ t ∈ texts, ¬ r.Clashes t) :
    (toggledText s texts).map r.apply = toggledText (r.apply s) (texts.map r.apply) := by
  have hmem : r.apply s ∈ texts.map r.apply ↔ s ∈ texts := by
    rw [← List.contains_iff_mem, ← List.contains_iff_mem, contains_map_apply hr htexts hs]
  unfold toggledText
  by_cases h : s ∈ texts
  · rw [if_pos h, if_pos (hmem.mpr h)]
    apply map_erase_of_inj
    intro t ht hsame
    exact (hr.apply_inj (htexts t ht) hs).mp hsame
  · rw [if_neg h, if_neg (hmem.not.mpr h), List.map_append]
    rfl

/-! ## Answers that are collected -/

/-- May a respondent record a value under an id? It is that of a question, and if this is a choice
question, the value is null or a selection that it accepts. -/
def Form.AllowsAnswer (form : Form) (id : Text) (v : Json) : Prop :=
  ∃ k q, indexOf? form.questions id = some k ∧ form.questions[k]? = some q ∧
    (q.isChoice → v = .null ∨ q.AcceptsSelection (k + 1) v)

/-- May a respondent toggle an option under an id? It is that of a question with the option. -/
def Form.AllowsOption (form : Form) (id option : Text) : Prop :=
  ∃ k q, indexOf? form.questions id = some k ∧ form.questions[k]? = some q ∧ option ∈ q.choiceIds

/-- Answers to the questions of a form, each of which may be recorded. -/
structure Form.Collects (form : Form) (A : Answers) : Prop where
  distinct : (Fields.keys A).Nodup
  allowed : ∀ entry ∈ A, form.AllowsAnswer entry.1 entry.2

variable {form : Form} {A : Answers}

/-- An answer is allowed for questions of the form alone. -/
theorem Form.AllowsAnswer.mem_questionIds {id : Text} {v : Json} (h : form.AllowsAnswer id v) :
    id ∈ questionIds form.questions := by
  obtain ⟨k, q, hk, -⟩ := h
  obtain ⟨q, hq, rfl, -⟩ := indexOf?_eq_some_iff.mp hk
  exact mem_questionIds_of_getElem? hq

/-- The answer to a choice is one that can be renamed. -/
theorem Form.AllowsAnswer.accepts {id : Text} {v : Json} (h : form.AllowsAnswer id v) {k : Nat}
    {q : Question} (hk : indexOf? form.questions id = some k) (hq : form.questions[k]? = some q)
    (hchoice : q.isChoice) : v = .null ∨ q.AcceptsSelection (k + 1) v := by
  obtain ⟨k', q', hk', hq', hallowed⟩ := h
  obtain rfl : k = k' := Option.some.inj (hk.symm.trans hk')
  obtain rfl : q = q' := Option.some.inj (hq.symm.trans hq')
  exact hallowed hchoice

/-- The id of a question is renamed, so it never clashes. -/
theorem Form.not_clashes_of_mem_questionIds {id : Text} (h : id ∈ questionIds form.questions) :
    ¬ form.idMap.questions.Clashes id :=
  Form.not_clashes_of_known_or_unnamed (.inl h)

/-- To begin with there are no answers. -/
theorem Form.collects_nil (form : Form) : form.Collects [] :=
  ⟨List.nodup_nil, by simp⟩

namespace Form.Collects

variable (h : form.Collects A)

include h

/-- Every answer that is found is allowed. -/
theorem allowed_of_get? {id : Text} {v : Json} (hv : Fields.get? A id = some v) : form.AllowsAnswer id v :=
  h.allowed (id, v) ((lookup_eq_some_iff_mem h.distinct).mp hv)

/-- So all answers are to questions of the form. -/
theorem keys {key : Text} (hkey : key ∈ Fields.keys A) : key ∈ questionIds form.questions := by
  obtain ⟨entry, he, rfl⟩ := List.mem_map.mp hkey
  exact (h.allowed entry he).mem_questionIds

/-- What is collected does not depend on how the form is numbered. -/
theorem accepts : form.Accepts A where
  distinct := h.distinct
  keys := fun _ hkey => .inl (h.keys hkey)
  selections := by
    intro k q hq hk hchoice v hv
    have hget : Fields.get? A q.id = some v ∧ v ≠ .null := by
      unfold Answers.given? at hv
      split at hv
      · cases hv
      · next hnull => exact ⟨hv, fun e => hnull (e ▸ hv)⟩
    rcases (h.allowed_of_get? hget.1).accepts hk hq hchoice with hnull | haccepts
    · exact absurd hnull hget.2
    · exact haccepts

/-- Keys of questions are kept apart. -/
theorem apply_eq_iff {id key : Text} (hid : id ∈ questionIds form.questions) (hkey : key ∈ Fields.keys A) :
    form.idMap.questions.apply key = form.idMap.questions.apply id ↔ key = id :=
  form.injective_questions.apply_inj (Form.not_clashes_of_mem_questionIds (h.keys hkey))
    (Form.not_clashes_of_mem_questionIds hid)

/-! ## Recording -/

/-- With an answer more, or one less, answers are still collected. -/
theorem set {id : Text} {v : Json} (hv : form.AllowsAnswer id v) : form.Collects (Fields.set A id v) where
  distinct := Fields.nodup_keys_set id v h.distinct
  allowed := by
    intro entry he
    rcases Fields.mem_of_mem_set he with rfl | he
    · exact hv
    · exact h.allowed entry he

/-- An answer may be taken back. -/
theorem erase (id : Text) : form.Collects (Fields.erase A id) where
  distinct := Fields.nodup_keys_erase id h.distinct
  allowed := by
    intro entry he
    exact h.allowed entry (List.mem_of_mem_filter he)

/-- An allowed answer may be recorded; to record a null takes the answer back. -/
theorem put {id : Text} {v : Json} (hv : form.AllowsAnswer id v) : form.Collects (A.put id v) := by
  cases v with
  | null => exact h.erase id
  | _ => exact h.set hv

/-- A recorded answer is recorded under its new id, in its new form. -/
theorem numbered_set {id : Text} {v : Json} (hv : form.AllowsAnswer id v) :
    Answers.numbered (Fields.set A id v) form.idMap =
      Fields.set (A.numbered form.idMap) (form.idMap.questions.apply id)
        ((form.idMap.choicesOf id).renameAnswer v) := by
  rw [(h.set hv).accepts.keepsKeys.numbered_eq_map, h.accepts.keepsKeys.numbered_eq_map]
  apply Fields.map_set (g := fun id => (form.idMap.choicesOf id).renameAnswer)
  intro key hkey hsame
  exact (h.apply_eq_iff hv.mem_questionIds hkey).mp hsame

/-- What is taken back is taken back under its new id. -/
theorem numbered_erase {id : Text} (hid : id ∈ questionIds form.questions) :
    Answers.numbered (Fields.erase A id) form.idMap =
      Fields.erase (A.numbered form.idMap) (form.idMap.questions.apply id) := by
  rw [(h.erase id).accepts.keepsKeys.numbered_eq_map, h.accepts.keepsKeys.numbered_eq_map]
  apply Fields.map_erase (g := fun id => (form.idMap.choicesOf id).renameAnswer)
  intro key hkey hsame
  exact (h.apply_eq_iff hid hkey).mp hsame

/-- To record and rename is to rename and record. -/
theorem numbered_put {id : Text} {v : Json} (hv : form.AllowsAnswer id v) :
    (A.put id v).numbered form.idMap =
      (A.numbered form.idMap).put (form.idMap.questions.apply id)
        ((form.idMap.choicesOf id).renameAnswer v) := by
  cases v with
  | null => exact h.numbered_erase hv.mem_questionIds
  | _ => exact h.numbered_set hv

/-! ## Toggling -/

/-- What is selected under the id of a choice question are texts that it admits. -/
theorem exists_selection {id : Text} {k : Nat} {q : Question} (hk : indexOf? form.questions id = some k)
    (hq : form.questions[k]? = some q) (hchoice : q.isChoice) :
    ∃ texts : List Text, Answers.selection (Fields.get? A id) = texts.map .str ∧
      ∀ s ∈ texts, q.Admits (k + 1) s := by
  cases hv : Fields.get? A id with
  | none => exact ⟨[], rfl, by simp⟩
  | some v =>
    cases v with
    | arr items =>
      have haccepts : q.AcceptsSelection (k + 1) (.arr items) := by
        rcases (h.allowed_of_get? hv).accepts hk hq hchoice with hnull | haccepts
        · cases hnull
        · exact haccepts
      obtain ⟨texts, rfl⟩ := exists_texts haccepts.exists_text
      refine ⟨texts, rfl, ?_⟩
      intro s hs
      exact haccepts.admits (List.mem_map_of_mem hs)
    | _ => exact ⟨[], rfl, by simp⟩

/-- Selected options of a question are an allowed answer. -/
theorem allows_toggled {id option : Text} (ho : form.AllowsOption id option) :
    form.AllowsAnswer id (.arr (Answers.toggled (.str option) (Answers.selection (Fields.get? A id)))) := by
  obtain ⟨k, q, hk, hq, hmem⟩ := ho
  refine ⟨k, q, hk, hq, fun hchoice => .inr ?_⟩
  obtain ⟨texts, hselection, hadmits⟩ := h.exists_selection hk hq hchoice
  rw [hselection, Answers.toggled_str]
  intro v hv
  obtain ⟨s, hs, rfl⟩ := List.mem_map.mp hv
  refine ⟨s, rfl, ?_⟩
  rcases mem_of_mem_toggledText hs with rfl | hs
  · exact .inl hmem
  · exact hadmits s hs

/-- So options may be selected and deselected. -/
theorem toggle {id option : Text} (ho : form.AllowsOption id option) :
    form.Collects (A.toggle id (.str option)) :=
  h.set (h.allows_toggled ho)

/-- To toggle and rename is to rename and toggle. -/
theorem numbered_toggle {id option : Text} (ho : form.AllowsOption id option) :
    (A.toggle id (.str option)).numbered form.idMap =
      (A.numbered form.idMap).toggle (form.idMap.questions.apply id)
        (.str ((form.idMap.choicesOf id).apply option)) := by
  have hallowed := h.allows_toggled ho
  have hid := hallowed.mem_questionIds
  obtain ⟨k, q, hk, hq, hmem⟩ := ho
  have hchoice : q.isChoice := by
    by_contra hno
    rw [Question.choiceIds_of_not_isChoice hno] at hmem
    cases hmem
  -- what is selected are texts that the question admits, and these are renamed without clashes
  obtain ⟨texts, hselection, hadmits⟩ := h.exists_selection hk hq hchoice
  have hoption : ¬ (form.idMap.choicesOf id).Clashes option :=
    Question.Admits.not_clashes hk hq (.inl hmem)
  have htexts : ∀ s ∈ texts, ¬ (form.idMap.choicesOf id).Clashes s := by
    intro s hs
    exact (hadmits s hs).not_clashes hk hq
  have hitem : ∀ texts : List Text, (texts.map Json.str).map (form.idMap.choicesOf id).renameItem =
      (texts.map (form.idMap.choicesOf id).apply).map .str := by
    intro texts
    simp [Function.comp_def, Renaming.renameItem]
  have hrenamed : Answers.selection (Fields.get? (A.numbered form.idMap) (form.idMap.questions.apply id)) =
      (texts.map (form.idMap.choicesOf id).apply).map .str := by
    rw [h.accepts.keepsKeys.get?_numbered (Form.not_clashes_of_mem_questionIds hid), ← hitem, ← hselection]
    cases Fields.get? A id with
    | none => rfl
    | some v => cases v <;> rfl
  rw [Answers.toggle, h.numbered_set hallowed, Answers.toggle, hrenamed, hselection, Answers.toggled_str,
    Answers.toggled_str, Renaming.renameAnswer, hitem,
    Renaming.map_toggledText (form.injective_choicesOf id) hoption htexts]

end Form.Collects

/-! ## Answered questions -/

/-- A text is empty under the new names exactly if it was, unless a choice has no id. -/
theorem Form.apply_choicesOf_eq_nil_iff {id : Text} {k : Nat} {q : Question}
    (hk : indexOf? form.questions id = some k) (hq : form.questions[k]? = some q)
    (hempty : [] ∉ q.choiceIds) (s : Text) : (form.idMap.choicesOf id).apply s = [] ↔ s = [] := by
  rw [Form.idMap_choicesOf hk hq]
  cases hs : q.choiceIds.idxOf? s with
  | none => rw [Renaming.apply_byPosition_of_notMem _ _ (idxOf?_eq_none_iff.mp hs)]
  | some j =>
    have hmem : s ∈ q.choiceIds := List.mem_of_getElem? (getElem?_of_idxOf? hs)
    have hne : s ≠ [] := fun e => hempty (e ▸ hmem)
    rw [Renaming.apply_byPosition_of_idxOf? _ _ hs]
    simp [choiceName, Text.ofString, hne]

/-- A renamed answer answers a renamed question exactly if it did before. -/
theorem Form.isAnsweredBy_renamed {id : Text} {k : Nat} {q : Question}
    (hk : indexOf? form.questions id = some k) (hq : form.questions[k]? = some q)
    (hempty : [] ∉ q.choiceIds) (v : Json) :
    (form.idMap.renamedQuestion q (k + 1)).isAnsweredBy ((form.idMap.choicesOf id).renameAnswer v) =
      q.isAnsweredBy v := by
  unfold Question.isAnsweredBy
  rw [IdMap.kind_renamedQuestion]
  by_cases hchoice : q.isChoice
  · cases hq' : q.kind with
    | singleChoice =>
      cases v with
      | str s =>
        have hiff := Form.apply_choicesOf_eq_nil_iff hk hq hempty s
        change ((form.idMap.choicesOf id).apply s != []) = (s != [])
        rw [Bool.eq_iff_iff, bne_iff_ne, bne_iff_ne, ne_eq, ne_eq, hiff]
      | _ => rfl
    | multipleChoice => cases v <;> simp [Renaming.renameAnswer, Renaming.renameItem]
    | _ => simp [Question.isChoice, hq', QuestionKind.isChoice] at hchoice
  · rw [Form.idMap_choicesOf_of_not_isChoice hk hq hchoice, Renaming.renameAnswer_empty]

end Questionnaire
