import Questionnaire.Proofs.NumberedAnswers
import Questionnaire.Proofs.Payload

/-!
# The payload under the new names

A payload reports the texts of questions and choices, not their ids. So the numbered form makes the same
payload of renamed answers, or fails alike, where no key and no selected text comes to mean something. One
kind of answer is an exception: a list given to a question with one choice is not looked through, so the
payload has the ids as they stand in it, and these are renamed.

* `Form.Distinguishes`: answers of which no part comes to mean something.
* `Form.readable_renamed`: one renamed answer in readable words.
* `Form.withReportedIdsNamed`: answers with new names where their ids are reported.
* `numbering_preserves_payload`: the payload of the numbered form.
-/

namespace Questionnaire

/-! ## Answers that are told apart -/

/-- Answers whose keys and selected texts are each known or no name of anything. -/
structure Form.Distinguishes (form : Form) (A : Answers) : Prop where
  /-- No id has two answers. -/
  distinct : (Fields.keys A).Nodup
  /-- What is not the id of a question is no name of one. -/
  keys : ∀ key ∈ Fields.keys A, key ∈ questionIds form.questions ∨
    ¬ NamesPosition questionName (questionIds form.questions) key
  /-- A text in the answer to a choice question is known or no name of a choice. -/
  selections : ∀ id v, (id, v) ∈ A → ∀ k q, indexOf? form.questions id = some k →
    form.questions[k]? = some q → q.isChoice → ∀ s, .str s ∈ v.selected → q.Admits (k + 1) s

/-- Does a question report the ids in an answer? It does if it takes one choice and the answer is a list. -/
def Question.reportsIds (q : Question) : Json → Bool
  | .arr _ => q.kind = .singleChoice
  | _ => false

/-- Answers with new names in place of the ids that are reported. -/
def Form.withReportedIdsNamed (form : Form) (A : Answers) : Answers :=
  A.map fun (id, v) =>
    (id, if (form.question? id).any (·.reportsIds v) then (form.idMap.choicesOf id).renameAnswer v else v)

variable {form : Form} {A : Answers}

/-- Answers that can be told apart have keys that can be. -/
theorem Form.Distinguishes.keepsKeys (h : form.Distinguishes A) : form.KeepsKeys A where
  distinct := h.distinct
  apart := fun key hkey => Form.not_clashes_of_known_or_unnamed (h.keys key hkey)

/-! ## Renamed choices -/

/-- Only a question with one choice ever reports ids. -/
theorem Question.reportsIds_of_ne {q : Question} (h : q.kind ≠ .singleChoice) (v : Json) :
    q.reportsIds v = false := by
  cases v <;> simp [reportsIds, h]

/-- A choice is the one at the first place of its id. -/
theorem Question.choice?_eq_bind_choiceIndex? (q : Question) (id : Text) :
    q.choice? id = (q.choiceIndex? id).bind fun j => q.choices[j]? :=
  List.find?_eq_bind_findIdx?_getElem?

/-- There is none exactly if no choice has the id. -/
theorem Question.choice?_eq_none_iff {q : Question} {id : Text} : q.choice? id = none ↔ id ∉ q.choiceIds := by
  unfold choice? choiceIds
  rw [List.find?_eq_none, List.mem_map]
  simp

/-- A text is reported as the choice that it names, or as it is. -/
theorem Question.readableOption_str (q : Question) (id : Text) :
    q.readableOption (.str id) = .str (((q.choice? id).map (·.text)).getD id) := by
  simp only [readableOption]
  cases q.choice? id <;> rfl

/-- The answer to a question with one choice is reported as one option. -/
theorem Question.readable_of_singleChoice [Stack] {q : Question} (h : q.kind = .singleChoice) (v : Json) :
    q.readable v = .ok (q.readableOption v) := by
  simp only [readable, h]

/-- A question with several choices reports the texts of what is selected. -/
theorem Question.readable_of_multipleChoice [Stack] {q : Question} (h : q.kind = .multipleChoice) (v : Json) :
    q.readable v = (fun texts => .str (Text.intercalate ", " texts)) <$> v.selected.mapM q.optionText := by
  simp only [readable, h, bind_pure_comp]
  cases v <;> rfl

/-- A choice that is renamed keeps its text. -/
theorem IdMap.text_of_renamed_choice (m : IdMap) (q : Question) (position j : Nat) :
    ((m.renamedQuestion q position).choices[j]?).map (·.text) = (q.choices[j]?).map (·.text) := by
  have hchoices : (m.renamedQuestion q position).choices = nameChoices (questionName position) q.choices :=
    Input.choices_mapChoices _ q.input rfl
  rw [hchoices]
  simp [nameChoices, Function.comp_def]

section Readable

variable {id : Text} {k : Nat} {q : Question} (hk : indexOf? form.questions id = some k)
  (hq : form.questions[k]? = some q)

include hk hq

/-- A text that the question admits selects a choice with the same text, or none as before. -/
theorem Form.choice?_renamed_apply {s : Text} (hs : q.Admits (k + 1) s) :
    ((form.idMap.renamedQuestion q (k + 1)).choice? ((form.idMap.choicesOf id).apply s)).map (·.text) =
      (q.choice? s).map (·.text) := by
  have hindex : (form.idMap.renamedQuestion q (k + 1)).choiceIndex? ((form.idMap.choicesOf id).apply s) =
      q.choiceIndex? s := by
    refine (Form.choiceIndex?_renamed_iff hk hq s).mpr ?_
    rintro ⟨hnot, hname⟩
    rcases hs with hmem | hno
    · exact hnot hmem
    · exact hno hname
  rw [Question.choice?_eq_bind_choiceIndex?, Question.choice?_eq_bind_choiceIndex?, hindex]
  cases q.choiceIndex? s with
  | none => rfl
  | some j => exact form.idMap.text_of_renamed_choice q (k + 1) j

/-- What is no list is reported as before. -/
theorem Form.readableOption_renamed {v : Json} (hv : ∀ s, v = .str s → q.Admits (k + 1) s) :
    (form.idMap.renamedQuestion q (k + 1)).readableOption ((form.idMap.choicesOf id).renameItem v) =
      q.readableOption v := by
  cases v with
  | str s =>
    rw [Renaming.renameItem, Question.readableOption_str, Question.readableOption_str,
      form.choice?_renamed_apply hk hq (hv s rfl)]
    cases hold : q.choice? s with
    | some c => rfl
    | none =>
      -- the text is no choice, and so it is not renamed
      have hnot : s ∉ q.choiceIds := Question.choice?_eq_none_iff.mp hold
      rw [Form.idMap_choicesOf hk hq, Renaming.apply_byPosition_of_notMem _ _ hnot]
  | _ => rfl

/-- A renamed answer is reported as before, only that new names stay where ids are reported. -/
theorem Form.readable_renamed [Stack] {v : Json}
    (hv : q.isChoice → ∀ s, .str s ∈ v.selected → q.Admits (k + 1) s) :
    (form.idMap.renamedQuestion q (k + 1)).readable ((form.idMap.choicesOf id).renameAnswer v) =
      q.readable (if q.reportsIds v then (form.idMap.choicesOf id).renameAnswer v else v) := by
  have hsame : (form.idMap.renamedQuestion q (k + 1)).kind = q.kind := IdMap.kind_renamedQuestion _ _ _
  cases hkind : q.kind with
  | singleChoice =>
    -- a text is reported as the label of a choice, and a list, which is none, as it is
    have hadmits := hv (by simp [Question.isChoice, hkind, QuestionKind.isChoice])
    rw [Question.readable_of_singleChoice (hsame.trans hkind), Question.readable_of_singleChoice hkind]
    cases v with
    | str s =>
      have hoption := form.readableOption_renamed hk hq (v := .str s) fun t ht =>
        hadmits t (by simp [Json.selected, ht])
      exact congrArg Except.ok hoption
    | arr items => simp [Question.reportsIds, hkind, Renaming.renameAnswer, Question.readableOption]
    | _ => rfl
  | multipleChoice =>
    have hadmits := hv (by simp [Question.isChoice, hkind, QuestionKind.isChoice])
    -- each item that was selected is reported by its label, if it has one
    rw [Question.reportsIds_of_ne (by simp [hkind]), if_neg (by simp),
      Question.readable_of_multipleChoice (hsame.trans hkind), Question.readable_of_multipleChoice hkind,
      Renaming.selected_renameAnswer, List.mapM_map]
    congr 1
    apply mapM_congr_of_mem
    intro item hitem
    have hoption := form.readableOption_renamed hk hq (v := item) fun s hs => hadmits s (hs ▸ hitem)
    simp only [Function.comp_apply, Question.optionText, hoption]
  | textInput | address | contact =>
    -- without choices nothing is renamed
    have hchoice : ¬ q.isChoice := by simp [Question.isChoice, hkind, QuestionKind.isChoice]
    rw [Question.reportsIds_of_ne (by simp [hkind]), if_neg (by simp),
      Form.idMap_choicesOf_of_not_isChoice hk hq hchoice, Renaming.renameAnswer_empty]
    simp only [Question.readable, hsame, hkind]

end Readable

/-! ## Renamed answers -/

namespace Form

/-- What is no id of a question is no id of a renamed one, unless it is the name of one. -/
theorem question?_renamed_of_indexOf?_eq_none {id : Text} (hk : indexOf? form.questions id = none)
    (hno : ¬ NamesPosition questionName (questionIds form.questions) id) :
    form.renamed.question? (form.idMap.questions.apply id) = none := by
  rw [apply_of_indexOf?_eq_none hk, question?_eq_find?, find?_eq_bind_indexOf?]
  cases hk' : indexOf? form.renamed.questions id with
  | none => rfl
  | some k => exact absurd (namesPosition_of_indexOf?_renamed hk') hno

/-- The entry of a renamed answer is the entry of the answer with the reported ids renamed. -/
theorem Distinguishes.payloadEntry_renamed [Stack] (h : form.Distinguishes A) {id : Text} {v : Json}
    (hmem : (id, v) ∈ A) :
    form.renamed.payloadEntry (form.idMap.questions.apply id) ((form.idMap.choicesOf id).renameAnswer v) =
      form.payloadEntry id
        (if (form.question? id).any (·.reportsIds v) then (form.idMap.choicesOf id).renameAnswer v else v) := by
  cases hk : indexOf? form.questions id with
  | none =>
    -- an answer to no question is left out, and under its new id it is to no question either
    have hold : form.question? id = none := by
      rw [question?_eq_find?, find?_eq_bind_indexOf?, hk, Option.bind_none]
    have hnot : id ∉ questionIds form.questions := by
      rwa [indexOf?_eq_idxOf?, idxOf?_eq_none_iff] at hk
    have hnew := form.question?_renamed_of_indexOf?_eq_none hk
      ((h.keys id (List.mem_map.mpr ⟨(id, v), hmem, rfl⟩)).resolve_left hnot)
    rw [payloadEntry_of_question?_eq_none hold, payloadEntry_of_question?_eq_none hnew]
  | some k =>
    rcases indexOf?_eq_some_iff.mp hk with ⟨q, hq, -⟩
    have hold : form.question? id = some q := by
      rw [question?_eq_find?, find?_eq_bind_indexOf?, hk, Option.bind_some, hq]
    have hnew : form.renamed.question? (form.idMap.questions.apply id) =
        some (form.idMap.renamedQuestion q (k + 1)) := by
      rw [question?_eq_find?, find?_renamed_apply hk hq]
    have hreadable := form.readable_renamed hk hq (h.selections id v hmem k q hk hq)
    rw [payloadEntry_of_question? hold, payloadEntry_of_question? hnew, hold, Option.any_some, hreadable]
    by_cases hnull : v = .null
    · subst hnull
      rfl
    · have hrenamed := Renaming.renameAnswer_eq_null_iff (form.idMap.choicesOf id) v
      have hsome : (if q.reportsIds v then (form.idMap.choicesOf id).renameAnswer v else v) ≠ .null := by
        split <;> simp [hrenamed, hnull]
      rw [if_neg (hrenamed.not.mpr hnull), if_neg hsome]
      rfl

/-- The payload of renamed answers is the payload of the answers with the reported ids renamed. -/
theorem Distinguishes.payload_renamed [Stack] (h : form.Distinguishes A) :
    form.renamed.payload (A.numbered form.idMap) = form.payload (form.withReportedIdsNamed A) := by
  have hentries : (A.numbered form.idMap).mapM (fun (id, v) => form.renamed.payloadEntry id v) =
      (form.withReportedIdsNamed A).mapM fun (id, v) => form.payloadEntry id v := by
    rw [h.keepsKeys.numbered_eq_map, withReportedIdsNamed, List.mapM_map, List.mapM_map]
    apply mapM_congr_of_mem
    rintro ⟨id, v⟩ hmem
    exact h.payloadEntry_renamed hmem
  unfold payload
  rw [hentries]

/-- Where no reported id has another name, there is nothing to rename. -/
theorem withReportedIdsNamed_eq_self (h : ∀ id v, (id, v) ∈ A → (form.question? id).any (·.reportsIds v) →
    (form.idMap.choicesOf id).renameAnswer v = v) : form.withReportedIdsNamed A = A := by
  unfold withReportedIdsNamed
  conv_rhs => rw [← List.map_id A]
  apply List.map_congr_left
  rintro ⟨id, v⟩ hmem
  by_cases hreports : (form.question? id).any (·.reportsIds v)
  · simp [hreports, h id v hmem hreports]
  · simp [hreports]

end Form

/-- **Numbering preserves the payload.** If a form can be numbered and no part of the answers comes to mean
something, the numbered form makes the same payload of the renamed answers as the form does of the answers,
or fails alike; except that a list given to a question with one choice is reported as it stands, and so with
the new names. If no such list has an id with another name, it is the very same payload. -/
theorem numbering_preserves_payload [Stack] (form other : Form) (A : Answers) (h : form.numbered = .ok other)
    (hA : form.Distinguishes A) :
    other.payload (A.numbered form.idMap) = form.payload (form.withReportedIdsNamed A) ∧
    ((∀ id v, (id, v) ∈ A → (form.question? id).any (·.reportsIds v) →
        (form.idMap.choicesOf id).renameAnswer v = v) →
      other.payload (A.numbered form.idMap) = form.payload A) := by
  rcases (form.gives_numbered other).mp h with ⟨-, rfl⟩
  refine ⟨hA.payload_renamed, ?_⟩
  intro hsame
  rw [hA.payload_renamed, Form.withReportedIdsNamed_eq_self hsame]

/-- Ids that look like names, of questions and of choices in the other order, and ids that are repeated; a
selection of known and unknown texts and of what is no text; and a list for one choice, of unknown texts. -/
theorem numbering_preserves_payload_among_lookalikes :
    let swapped : List Choice := [⟨"q_1_opt_2", "A", none, none⟩, ⟨"q_1_opt_1", "B", none, none⟩]
    let repeated : List Choice := [⟨"a", "One", none, none⟩, ⟨"a", "Two", none, none⟩]
    let first : Question := { Question.bare "q_2" (.singleChoice swapped) [] .all with text := "Pick" }
    let second : Question := { Question.bare "q_1" (.multipleChoice repeated) [] .all with text := "Tick" }
    let third : Question := { Question.bare "q_2" .textInput [] .all with text := "Note" }
    let fourth : Question := { Question.bare "x" (.singleChoice repeated) [] .all with text := "List" }
    let form : Form := {
      title := ""
      description := ""
      questions := [first, second, third, fourth]
      settings := .standard }
    let A : Answers := [("q_2", .str "q_1_opt_1"), ("q_1", .arr [.str "b", .int 1, .str "a"]), ("note", .null),
      ("x", .arr [.str "b"])]
    let B : Answers := [("q_1", .str "q_1_opt_2"), ("q_2", .arr [.str "b", .int 1, .str "q_2_opt_1"]),
      ("note", .null), ("q_4", .arr [.str "b"])]
    form.numbered = .ok form.renamed ∧ form.Distinguishes A ∧ A.numbered form.idMap = B ∧
    form.renamed.payload B = form.payload A ∧
    form.payload A =
      .ok [("Pick", .str "B"), ("Tick", .str "b, 1, One"), ("List", .arr [.str "b"])] := by
  intro swapped repeated first second third fourth form A B
  have hok : form.numbered = .ok form.renamed := by rfl
  have hA : form.Distinguishes A := by
    refine ⟨by decide, by decide, ?_⟩
    intro id v hmem k q hk hq hchoice s hs
    simp only [A, List.mem_cons, Prod.mk.injEq, List.not_mem_nil, or_false] at hmem
    rcases hmem with ⟨rfl, rfl⟩ | ⟨rfl, rfl⟩ | ⟨rfl, rfl⟩ | ⟨rfl, rfl⟩
    · obtain rfl : 0 = k := Option.some.inj hk
      obtain rfl : first = q := Option.some.inj hq
      obtain rfl : s = "q_1_opt_1" := by simpa [Json.selected] using hs
      decide
    · obtain rfl : 1 = k := Option.some.inj hk
      obtain rfl : second = q := Option.some.inj hq
      obtain rfl | rfl : s = "b" ∨ s = "a" := by simpa [Json.selected] using hs
      · decide
      · decide
    · cases hk
    · obtain rfl : 3 = k := Option.some.inj hk
      obtain rfl : fourth = q := Option.some.inj hq
      obtain rfl : s = "b" := by simpa [Json.selected] using hs
      decide
  -- the list for the last question, with one choice, holds no id of a choice
  have hsame : ∀ id v, (id, v) ∈ A → (form.question? id).any (·.reportsIds v) →
      (form.idMap.choicesOf id).renameAnswer v = v := by
    intro id v hmem hreports
    simp only [A, List.mem_cons, Prod.mk.injEq, List.not_mem_nil, or_false] at hmem
    rcases hmem with ⟨rfl, rfl⟩ | ⟨rfl, rfl⟩ | ⟨rfl, rfl⟩ | ⟨rfl, rfl⟩
    · cases hreports
    · cases hreports
    · cases hreports
    · rfl
  have hB : A.numbered form.idMap = B := by rfl
  refine ⟨hok, hA, hB, ?_, by rfl⟩
  rw [← hB]
  exact (numbering_preserves_payload form form.renamed A hok hA).2 hsame

/-- A list given to a question with one choice is reported with its ids, which have other names in the
numbered form. -/
theorem list_for_one_choice_reports_new_names :
    let form : Form := {
      title := ""
      description := ""
      questions := [.bare "x" (.singleChoice [⟨"a", "A", none, none⟩]) [] .all]
      settings := .standard }
    let A : Answers := [("x", .arr [.str "a"])]
    form.numbered = .ok form.renamed ∧ form.Distinguishes A ∧
    form.payload A = .ok [("", .arr [.str "a"])] ∧
    form.renamed.payload (A.numbered form.idMap) = .ok [("", .arr [.str "q_1_opt_1"])] ∧
    form.renamed.payload (A.numbered form.idMap) ≠ form.payload A := by
  intro form A
  have hA : form.Distinguishes A := by
    refine ⟨by decide, by decide, ?_⟩
    intro id v hmem k q hk hq _ s hs
    obtain ⟨rfl, rfl⟩ : id = "x" ∧ v = .arr [.str "a"] := by simpa [A] using hmem
    obtain rfl : 0 = k := Option.some.inj hk
    obtain rfl := Option.some.inj hq
    obtain rfl : s = "a" := by simpa [Json.selected] using hs
    decide
  -- a list is reported as it stands, so it is reported with the new name
  have hbefore : form.payload A = .ok [("", .arr [.str "a"])] := by rfl
  have hafter : form.renamed.payload (A.numbered form.idMap) = .ok [("", .arr [.str "q_1_opt_1"])] := by rfl
  refine ⟨by rfl, hA, hbefore, hafter, ?_⟩
  rw [hbefore, hafter]
  decide

end Questionnaire
