import Questionnaire.Proofs.Answers
import Questionnaire.Proofs.Steps
import Questionnaire.Proofs.Visibility
import Questionnaire.Submission

/-!
# The payload of a submission

A payload is made in two steps. The answers to questions are put in readable words one by one, which may
fail, and the results are entered under the texts of the questions. So answers come together under a text
that several questions have, of which the last remains.

* `Form.answered`: the answers that a payload is made of.
* `Form.payload_eq_ok_iff`: which payload is made of them.
* `payload_holds_last_answer_of_each_text`: what is in it, and when it holds every answer.
-/

namespace Questionnaire

/-! ## What a payload is made of -/

namespace Form

/-- The answer under an id with the question, unless there is no such question or no answer. -/
def answeredEntry (form : Form) (id : Text) (v : Json) : Option (Question × Json) :=
  if v = .null then none else (form.question? id).map (·, v)

/-- The answers to questions, each with its question, in order. -/
def answered (form : Form) (A : Answers) : List (Question × Json) :=
  A.filterMap fun (id, v) => form.answeredEntry id v

/-- The last answer to a question with a text. -/
def lastAnswered (form : Form) (A : Answers) (text : Text) : Option (Question × Json) :=
  (form.answered A).reverse.find? fun given => given.1.text = text

end Form

/-- Does an entry hold an answer in readable words, under the text of its question? -/
def Reports [Stack] (given : Question × Json) (entry : Text × Json) : Prop :=
  entry.1 = given.1.text ∧ given.1.readable given.2 = .ok entry.2

variable {form : Form} {A : Answers} {P : Fields}

namespace Form

/-- The question of a payload entry is the first one with its id. -/
theorem question?_eq_find? (form : Form) (id : Text) : form.question? id = find? form.questions id := rfl

/-- A form has a question of an id when the id is one of its own. -/
theorem isSome_question?_iff (form : Form) (id : Text) :
    (form.question? id).isSome ↔ id ∈ questionIds form.questions := by
  unfold question? questionIds
  rw [List.find?_isSome, List.mem_map]
  simp

/-- As many answers go into a payload as keys are ids of questions and have one. -/
theorem length_answered (form : Form) (A : Answers) :
    (form.answered A).length =
      A.countP fun (id, v) => id ∈ questionIds form.questions ∧ v ≠ .null := by
  unfold answered
  rw [List.length_filterMap_eq_countP]
  apply List.countP_congr
  intro entry _
  rw [decide_eq_true_iff, ← form.isSome_question?_iff]
  unfold answeredEntry
  by_cases hnull : entry.2 = .null <;> simp [hnull]

/-- The entry of an answer reports it, if there is one to a question. -/
theorem payloadEntry_eq [Stack] (form : Form) (id : Text) (v : Json) :
    form.payloadEntry id v =
      (form.answeredEntry id v).elim (.ok none) fun given =>
        some <$> (given.1.text, ·) <$> given.1.readable given.2 := by
  unfold payloadEntry answeredEntry
  cases form.question? id with
  | none => cases v <;> rfl
  | some q => cases v <;> simp

/-- An answer to no question of the form is left out of the payload. -/
theorem payloadEntry_of_question?_eq_none [Stack] {id : Text} (h : form.question? id = none) (v : Json) :
    form.payloadEntry id v = .ok none := by
  simp [payloadEntry_eq, answeredEntry, h]

/-- An answer that is not null is entered under the text of its question. -/
theorem payloadEntry_of_question? [Stack] {id : Text} {q : Question} (h : form.question? id = some q) (v : Json) :
    form.payloadEntry id v =
      if v = .null then .ok none else some <$> (q.text, ·) <$> q.readable v := by
  by_cases hnull : v = .null <;> simp [payloadEntry_eq, answeredEntry, h, hnull]

/-- A payload merges what the answers to questions give one by one. -/
theorem payload_eq_mapM [Stack] (form : Form) (A : Answers) :
    form.payload A = Fields.ofEntries <$>
      (form.answered A).mapM fun given => (given.1.text, ·) <$> given.1.readable given.2 := by
  have hsteps := mapM_filterMap_id (f := fun e : Text × Json => form.payloadEntry e.1 e.2)
    (g := fun e => form.answeredEntry e.1 e.2)
    (h := fun given => (given.1.text, ·) <$> given.1.readable given.2)
    (fun e hx => by rw [payloadEntry_eq, hx]; rfl) (fun e _ hx => by rw [payloadEntry_eq, hx]; rfl) A
  unfold answered
  rw [← hsteps]
  unfold payload
  cases A.mapM fun (id, v) => form.payloadEntry id v <;> rfl

end Form

/-- An entry reports an answer when it stands under the question text with the readable form. -/
theorem exists_readable_iff_reports [Stack] {given : Question × Json} {entry : Text × Json} :
    (∃ w, given.1.readable given.2 = .ok w ∧ (given.1.text, w) = entry) ↔ Reports given entry := by
  rcases entry with ⟨text, w⟩
  simp [Reports, eq_comm, and_comm]

/-- A payload is made by merging the reports of the answers. -/
theorem Form.payload_eq_ok_iff [Stack] :
    form.payload A = .ok P ↔
      ∃ entries, List.Forall₂ Reports (form.answered A) entries ∧ Fields.ofEntries entries = P := by
  simp only [payload_eq_mapM, map_eq_ok_iff, mapM_eq_ok_iff, exists_readable_iff_reports]

/-! ## What is in a payload -/

/-- Reports are under the texts of the questions. -/
theorem keys_of_reports [Stack] {givens : List (Question × Json)} {entries : Fields}
    (h : List.Forall₂ Reports givens entries) : Fields.keys entries = givens.map (·.1.text) := by
  induction h with
  | nil => rfl
  | cons hentry _ ih => rw [Fields.keys, List.map_cons, List.map_cons, hentry.1, ← ih]; rfl

/-- What is found under a text reports the first answer to a question with it. -/
theorem get?_of_reports [Stack] {givens : List (Question × Json)} {entries : Fields}
    (h : List.Forall₂ Reports givens entries) (text : Text) :
    Option.Rel (fun given w => given.1.readable given.2 = .ok w)
      (givens.find? fun given => given.1.text = text) (Fields.get? entries text) := by
  induction h with
  | nil => exact .none
  | @cons given entry _ _ hentry _ ih =>
    rcases entry with ⟨key, w⟩
    rcases hentry with ⟨hkey, hreadable⟩
    change key = given.1.text at hkey
    rw [List.find?_cons, Fields.get?_cons, hkey]
    by_cases htext : given.1.text = text
    · simpa [htext] using Option.Rel.some hreadable
    · simpa [htext, Ne.symm htext, eq_comm] using ih

/-- **What a payload holds.** Each text of a question that has an answer is there once, where it comes up
first, with the last answer to a question with it in readable words. So there are as many entries as keys
that are ids of questions and have an answer exactly if the texts of these questions are pairwise distinct,
and then each of them has its own entry, in their order. -/
theorem payload_holds_last_answer_of_each_text [Stack] (form : Form) (A : Answers) (P : Fields)
    (h : form.payload A = .ok P) :
    Fields.keys P = ((form.answered A).map (·.1.text)).eraseDups ∧
    (∀ text, Option.Rel (fun given w => given.1.readable given.2 = .ok w)
      (form.lastAnswered A text) (Fields.get? P text)) ∧
    (P.length = A.countP (fun (id, v) => id ∈ questionIds form.questions ∧ v ≠ .null) ↔
      ((form.answered A).map (·.1.text)).Nodup) ∧
    (((form.answered A).map (·.1.text)).Nodup → List.Forall₂ Reports (form.answered A) P) := by
  rcases Form.payload_eq_ok_iff.mp h with ⟨entries, hentries, rfl⟩
  rw [← keys_of_reports hentries]
  refine ⟨Fields.keys_ofEntries entries, ?_, ?_, ?_⟩
  · intro text
    rw [Fields.get?_ofEntries]
    exact get?_of_reports (List.forall₂_reverse_iff.mpr hentries) text
  · rw [← form.length_answered, hentries.length_eq]
    exact Fields.length_ofEntries_eq_iff
  · intro hdistinct
    rwa [Fields.ofEntries_eq_self hdistinct]

/-- Two questions have one text: the last answer stands in the place of the first, in front of an answer that
was given in between; an answer to no question and a null are left out. -/
theorem payload_holds_last_answer_of_shared_text :
    let form : Form := {
      title := ""
      description := ""
      questions := [.bare "a" .textInput [] .all, .bare "b" .textInput [] .all,
        { Question.bare "c" (.singleChoice [⟨"o", "O", none, none⟩]) [] .all with text := "C" },
        .bare "d" .textInput [] .all]
      settings := .standard }
    let A : Answers := [("a", .str "first"), ("c", .str "o"), ("e", .bool true), ("d", .null), ("b", .str "last")]
    form.payload A = .ok [("", .str "last"), ("C", .str "O")] ∧
    Option.Rel (fun given w => given.1.readable given.2 = .ok w) (form.lastAnswered A "") (some (.str "last")) ∧
    A.countP (fun (id, v) => id ∈ questionIds form.questions ∧ v ≠ .null) = 3 := by
  intro form A
  have hpayload : form.payload A = .ok [("", .str "last"), ("C", .str "O")] := by rfl
  have hlast := (payload_holds_last_answer_of_each_text form A _ hpayload).2.1 ""
  exact ⟨hpayload, hlast, by decide⟩

/-- Two answered questions without a text share an entry. -/
theorem payload_of_untitled_questions_is_shorter :
    let form : Form := {
      title := ""
      description := ""
      questions := [.bare "a" .textInput [] .all, .bare "b" .textInput [] .all]
      settings := .standard }
    let A : Answers := [("a", .str "1"), ("b", .str "2")]
    form.payload A = .ok [("", .str "2")] ∧
    A.countP (fun (id, v) => id ∈ questionIds form.questions ∧ v ≠ .null) = 2 := by
  intro form A
  exact ⟨by rfl, by decide⟩

end Questionnaire
