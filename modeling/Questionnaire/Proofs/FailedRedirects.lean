import Questionnaire.Proofs.AnswerTexts
import Questionnaire.Proofs.Visibility
import Questionnaire.Redirect

/-!
# When redirecting fails

Success pages are tried in order, and each is evaluated as a whole. So where a submission leads is not found
exactly if the first page that is not found to be inapplicable has a condition whose source is answered with a
list or object in which a part has no text. What the other conditions of the page give does not matter, nor does
any page behind the first that applies.

* `Condition.MeetsTextless`: conditions that cannot be evaluated; `Condition.IsMet`: conditions that hold.
* `SuccessPage.applies_fails_iff`, `SuccessPage.applies_eq_true_iff`: the pages that cannot be evaluated, and
  those that apply.
* `redirect_fails_exactly_at_part_without_text`: when there is no address, and which it is otherwise.
* `redirect_fails_without_huge_integer`: it need not be an integer that is too large.
-/

namespace Questionnaire

/-- The items of a list and the values of an object. -/
def Json.parts : Json → List Json
  | .arr items => items
  | .obj fields => fields.map (·.2)
  | _ => []

section Fallible

variable [Stack] {A : Answers} {qs : List Question}

/-! ## Conditions -/

namespace Condition

/-- Is a value a part of the answer to the source of the condition? -/
def Compares (c : Condition) (A : Answers) (qs : List Question) (v : Json) : Prop :=
  ∃ q answer, find? qs c.source = some q ∧ A.given? c.source = some answer ∧ v ∈ answer.parts

/-- Has the condition a source that is answered with a list or object in which a part has no text? -/
def MeetsTextless (c : Condition) (A : Answers) (qs : List Question) : Prop :=
  ∃ v, c.Compares A qs v ∧ v.LacksText

/-- Has the condition a source whose answer is one of the values, or has a part with one of them for its text? -/
def IsMet (c : Condition) (A : Answers) (qs : List Question) : Prop :=
  (∃ q, find? qs c.source = some q ∧ ∃ s ∈ c.values, A.given? c.source = some (.str s)) ∨
    ∃ v, c.Compares A qs v ∧ ∃ t ∈ c.values, v.answerText = .ok t

/-- The texts of all parts are taken before one of them is looked for. -/
theorem matchedByAny_of_isStructured (c : Condition) {answer : Json} (h : answer.isStructured = true) :
    c.matchedByAny answer = (fun texts => texts.any (c.values.contains ·)) <$> answer.parts.mapM Json.answerText := by
  cases answer with
  | arr items => rw [matchedByAny, Json.parts, bind_pure_comp]
  | obj fields => rw [matchedByAny, Json.parts, List.mapM_map, bind_pure_comp, Function.comp_def]
  | _ => cases h

/-- A condition fails on an answer exactly if a part of it has no text. -/
theorem matchedByAny_fails_iff (c : Condition) (answer : Json) :
    (∃ e, c.matchedByAny answer = .error e) ↔ ∃ v ∈ answer.parts, v.LacksText := by
  cases hstructured : answer.isStructured with
  | true =>
    simp only [matchedByAny_of_isStructured c hstructured, map_eq_error_iff, mapM_fails_iff,
      Json.answerText_fails_iff]
  | false => cases answer <;> simp [Json.isStructured, matchedByAny, Json.parts] at hstructured ⊢

/-- The error is that of such a part. -/
theorem matchedByAny_eq_error {c : Condition} {answer : Json} {e : TextError} (h : c.matchedByAny answer = .error e) :
    ∃ v ∈ answer.parts, v.answerText = .error e := by
  cases hstructured : answer.isStructured with
  | true =>
    rw [matchedByAny_of_isStructured c hstructured, map_eq_error_iff] at h
    exact exists_of_mapM_eq_error h
  | false => cases answer <;> simp [Json.isStructured, matchedByAny] at hstructured h

/-- An answer matches exactly if its parts have texts, and one of these or the answer itself is a value. -/
theorem matchedByAny_eq_true_iff (c : Condition) (answer : Json) :
    c.matchedByAny answer = .ok true ↔ (∀ v ∈ answer.parts, ¬ v.LacksText) ∧
      ((∃ s ∈ c.values, answer = .str s) ∨ ∃ v ∈ answer.parts, ∃ t ∈ c.values, v.answerText = .ok t) := by
  cases hstructured : answer.isStructured with
  | true =>
    have hstr : ¬ ∃ s ∈ c.values, answer = .str s := by
      rintro ⟨s, -, rfl⟩
      cases hstructured
    rw [or_iff_right hstr, matchedByAny_of_isStructured c hstructured, map_eq_ok_iff]
    constructor
    · rintro ⟨texts, hparts, hany⟩
      obtain ⟨t, hmem, hvalue⟩ := List.any_eq_true.mp hany
      obtain ⟨v, hv, htext⟩ := (mem_iff_of_mapM_eq_ok hparts).mp hmem
      exact ⟨(Json.mapM_answerText_succeeds_iff _).mp ⟨texts, hparts⟩, v, hv, t, List.contains_iff_mem.mp hvalue, htext⟩
    · rintro ⟨htexts, v, hv, t, hvalue, htext⟩
      obtain ⟨texts, hparts⟩ := (Json.mapM_answerText_succeeds_iff _).mpr htexts
      have hmem : t ∈ texts := (mem_iff_of_mapM_eq_ok hparts).mpr ⟨v, hv, htext⟩
      exact ⟨texts, hparts, List.any_eq_true.mpr ⟨t, hmem, List.contains_iff_mem.mpr hvalue⟩⟩
  | false => cases answer <;> simp [Json.isStructured, matchedByAny, Json.parts] at hstructured ⊢

/-- A condition cannot be evaluated exactly if it meets a part without a text. -/
theorem holdsRelaxed_fails_iff (c : Condition) :
    (∃ e, c.holdsRelaxed A qs = .error e) ↔ c.MeetsTextless A qs := by
  unfold holdsRelaxed MeetsTextless Compares
  cases find? qs c.source with
  | none => simp
  | some q =>
    cases A.given? c.source with
    | none => simp
    | some answer => simp [matchedByAny_fails_iff]

/-- A condition that fails compares a part without a text, and fails with the error of that part. -/
theorem holdsRelaxed_eq_error {c : Condition} {e : TextError} (h : c.holdsRelaxed A qs = .error e) :
    ∃ v, c.Compares A qs v ∧ v.answerText = .error e := by
  unfold holdsRelaxed at h
  cases hq : find? qs c.source with
  | none => simp [hq] at h
  | some q =>
    cases hanswer : A.given? c.source with
    | none => simp [hq, hanswer] at h
    | some answer =>
      simp only [hq, hanswer] at h
      obtain ⟨v, hmem, hv⟩ := matchedByAny_eq_error h
      exact ⟨v, ⟨q, answer, hq, hanswer, hmem⟩, hv⟩

/-- It holds exactly if it meets none and is met. -/
theorem holdsRelaxed_eq_true_iff (c : Condition) :
    c.holdsRelaxed A qs = .ok true ↔ ¬ c.MeetsTextless A qs ∧ c.IsMet A qs := by
  unfold holdsRelaxed MeetsTextless IsMet Compares
  cases find? qs c.source with
  | none => simp
  | some q =>
    cases A.given? c.source with
    | none => simp
    | some answer => simp [matchedByAny_eq_true_iff]

open Classical in
/-- So it is evaluated to whether it is met, unless it cannot be evaluated. -/
theorem holdsRelaxed_eq_decide {c : Condition} (h : ¬ c.MeetsTextless A qs) :
    c.holdsRelaxed A qs = .ok (decide (c.IsMet A qs)) := by
  have htrue : c.holdsRelaxed A qs = .ok true ↔ c.IsMet A qs :=
    c.holdsRelaxed_eq_true_iff.trans (and_iff_right h)
  obtain ⟨b, hb⟩ := exists_eq_ok_iff.mpr (mt c.holdsRelaxed_fails_iff.mp h)
  rw [hb, Except.ok.injEq] at htrue ⊢
  rw [Bool.eq_iff_iff, decide_eq_true_iff, htrue]

end Condition

/-! ## Pages -/

namespace SuccessPage

/-- Are the conditions of the page met, as its rule puts them together? -/
def IsMet (page : SuccessPage) (A : Answers) (qs : List Question) : Prop :=
  page.conditions = [] ∨
    match page.logic with
    | .all => ∀ c ∈ page.conditions, c.IsMet A qs
    | .any => ∃ c ∈ page.conditions, c.IsMet A qs

/-- A page cannot be evaluated exactly if one of its conditions cannot be, whatever the others give. -/
theorem applies_fails_iff (page : SuccessPage) :
    (∃ e, page.applies A qs = .error e) ↔ ∃ c ∈ page.conditions, c.MeetsTextless A qs := by
  unfold applies
  split
  · rename_i hempty
    simp [List.isEmpty_iff.mp hempty]
  · simp only [bind_pure_comp, map_eq_error_iff, mapM_fails_iff, Condition.holdsRelaxed_fails_iff]

/-- A page that fails does so at one of its conditions. -/
theorem applies_eq_error {page : SuccessPage} {e : TextError} (h : page.applies A qs = .error e) :
    ∃ c ∈ page.conditions, ∃ v, c.Compares A qs v ∧ v.answerText = .error e := by
  unfold applies at h
  split at h
  · cases h
  · simp only [bind_pure_comp, map_eq_error_iff] at h
    obtain ⟨c, hmem, hc⟩ := exists_of_mapM_eq_error h
    exact ⟨c, hmem, Condition.holdsRelaxed_eq_error hc⟩

/-- It applies exactly if all of them can be evaluated and are met as its rule asks. -/
theorem applies_eq_true_iff (page : SuccessPage) :
    page.applies A qs = .ok true ↔ (∀ c ∈ page.conditions, ¬ c.MeetsTextless A qs) ∧ page.IsMet A qs := by
  unfold applies IsMet
  split
  · rename_i hempty
    simp [List.isEmpty_iff.mp hempty]
  · rename_i hconditions
    by_cases htexts : ∀ c ∈ page.conditions, ¬ c.MeetsTextless A qs
    · have hresults := mapM_eq_ok_map fun c hc => Condition.holdsRelaxed_eq_decide (htexts c hc)
      rw [hresults, or_iff_right (by simpa using hconditions), and_iff_right htexts]
      cases hlogic : page.logic <;> simp [bind, Except.bind, pure, Except.pure, Logic.combine]
    · have hfails : ∃ e, page.applies A qs = .error e := page.applies_fails_iff.mpr (by simpa using htexts)
      rw [applies, if_neg hconditions] at hfails
      obtain ⟨e, he⟩ := hfails
      rw [he]
      simp [htexts]

end SuccessPage

/-! ## Forms -/

/-- Pages are tried up to the first that is not found to be inapplicable. -/
theorem redirectAmong_eq_error_iff {otherwise : Text} {pages : List SuccessPage} {e : TextError} :
    redirectAmong A qs otherwise pages = .error e ↔
      ∃ page, pages.find? (fun p => p.applies A qs ≠ .ok false) = some page ∧ page.applies A qs = .error e := by
  induction pages with
  | nil => simp [redirectAmong]
  | cons page pages ih =>
    rw [redirectAmong, List.find?_cons]
    cases happlies : page.applies A qs with
    | error e' => simp [bind, Except.bind, happlies]
    | ok applies => cases applies <;> simp [bind, Except.bind, pure, Except.pure, ih, happlies]

/-- Unless that page cannot be evaluated, the first that applies is taken. -/
theorem redirectAmong_eq_ok {otherwise url : Text} {pages : List SuccessPage}
    (h : redirectAmong A qs otherwise pages = .ok url) :
    url = ((pages.find? fun p => p.applies A qs = .ok true).map (·.url)).getD otherwise := by
  induction pages with
  | nil =>
    cases h
    rfl
  | cons page pages ih =>
    rw [redirectAmong] at h
    rw [List.find?_cons]
    -- The pages are asked in order: the first that applies ends the search, and so does the first that fails.
    cases happlies : page.applies A qs with
    | error e =>
      rw [happlies] at h
      cases h
    | ok applies =>
      rw [happlies] at h
      cases applies with
      | true =>
        cases h
        simp
      | false =>
        simp only [Except.ok.injEq, Bool.false_eq_true, decide_false]
        exact ih h

/-- Has the first page that is not found to be inapplicable a condition that meets a part without a text? -/
def Form.MeetsTextless (form : Form) (A : Answers) : Prop :=
  ∃ page, form.settings.successPages.find? (fun p => p.applies A form.questions ≠ .ok false) = some page ∧
    ∃ c ∈ page.conditions, c.MeetsTextless A form.questions

/-- A redirect fails when it meets a part without a text before any page applies. -/
theorem Form.redirect_fails_iff (form : Form) (A : Answers) :
    (∃ e, form.redirect A = .error e) ↔ form.MeetsTextless A := by
  simp only [redirect, redirectAmong_eq_error_iff, MeetsTextless, ← SuccessPage.applies_fails_iff]
  constructor
  · rintro ⟨e, page, hfirst, hpage⟩
    exact ⟨page, hfirst, e, hpage⟩
  · rintro ⟨page, hfirst, e, hpage⟩
    exact ⟨e, page, hfirst, hpage⟩

/-- **Redirecting fails exactly at a part without a text.** A value has no text exactly if it is or holds, at any
depth, an integer from `2 ^ 1024 - 2 ^ 970` on, or if it is a list or object in which more values stand in one
another than the stack has room for, and the error tells which of the two it is. A page cannot be evaluated exactly
if one of its conditions has a source that is answered with a list or object in which a part has no text; it applies
exactly if none has and the conditions are met as its rule asks. Where a submission leads is not found exactly if the
first page that is not found to be inapplicable cannot be evaluated. Otherwise it leads to the first page that
applies, or to the address of the form if none does. -/
theorem redirect_fails_exactly_at_part_without_text (v : Json) (form : Form) (A : Answers) :
    ((∃ e, v.answerText = .error e) ↔ (∃ n : Int, 2 ^ 1024 - 2 ^ 970 ≤ n.natAbs ∧ v.Holds n) ∨ v.IsTooDeep) ∧
    (∀ e, v.answerText = .error e →
      e.message = "int too large to convert to float" ∧ (∃ n : Int, 2 ^ 1024 - 2 ^ 970 ≤ n.natAbs ∧ v.Holds n) ∨
      e.message = Stack.overflow ∧ v.IsTooDeep) ∧
    (∀ page : SuccessPage,
      ((∃ e, page.applies A form.questions = .error e) ↔
        ∃ c ∈ page.conditions, c.MeetsTextless A form.questions) ∧
      (page.applies A form.questions = .ok true ↔
        (∀ c ∈ page.conditions, ¬ c.MeetsTextless A form.questions) ∧ page.IsMet A form.questions)) ∧
    ((∃ e, form.redirect A = .error e) ↔ form.MeetsTextless A) ∧
    (∀ e, form.redirect A = .error e → ∃ page ∈ form.settings.successPages, ∃ c ∈ page.conditions,
      ∃ w, c.Compares A form.questions w ∧ w.answerText = .error e) ∧
    (¬ form.MeetsTextless A → form.redirect A =
      .ok (((form.settings.successPages.find? fun p => p.applies A form.questions = .ok true).map (·.url)).getD
        form.settings.submitUrl)) := by
  refine ⟨v.answerText_fails_iff, ?_, fun page => ⟨page.applies_fails_iff, page.applies_eq_true_iff⟩,
    form.redirect_fails_iff A, ?_, ?_⟩
  · intro e he
    rcases Json.answerText_eq_error he with ⟨rfl, hhuge⟩ | ⟨rfl, hdeep⟩
    · exact .inl ⟨rfl, hhuge⟩
    · exact .inr ⟨rfl, hdeep⟩
  · intro e he
    obtain ⟨page, hfirst, hpage⟩ := redirectAmong_eq_error_iff.mp he
    exact ⟨page, List.mem_of_find?_eq_some hfirst, SuccessPage.applies_eq_error hpage⟩
  · intro hnone
    obtain ⟨url, hurl⟩ := exists_eq_ok_iff.mpr (mt (form.redirect_fails_iff A).mp hnone)
    rw [hurl, redirectAmong_eq_ok hurl]

end Fallible

/-- A condition that holds does not save a page that needs no more than one; an integer by itself does no harm. -/
example :
    let qs := [Question.bare "a" .textInput [] .all, Question.bare "b" .textInput [] .all]
    let page : SuccessPage := ⟨"p", "", "/done", [⟨none, "a", ["x"]⟩, ⟨none, "b", ["y"]⟩], .any⟩
    page.applies [("a", .str "x"), ("b", .arr [.int (2 ^ 1024)])] qs = .error .integerTooLarge ∧
    page.applies [("a", .str "x"), ("b", .int (2 ^ 1024))] qs = .ok true := by
  decide +kernel

/-- Lists that stand in one another hold no integer at all, and yet they have no text from some depth on, nor is it
found where an answer with them leads. -/
theorem redirect_fails_without_huge_integer :
    let v := Json.nested 400
    let page : SuccessPage := ⟨"p", "", "/done", [⟨none, "q", ["x"]⟩], .all⟩
    let form : Form := ⟨"", "", [Question.bare "q" .address [] .all],
      { FormSettings.standard with successPages := [page] }⟩
    (¬ ∃ n : Int, 2 ^ 1024 - 2 ^ 970 ≤ n.natAbs ∧ (Json.arr [v]).Holds n) ∧
    (∃ e, v.answerText = .error e ∧ e.message = Stack.overflow) ∧
    ∃ e, form.redirect [("q", .arr [v])] = .error e ∧ e.message = Stack.overflow := by
  intro v page form
  have hfails : v.answerText = .error .tooDeep := Json.answerText_nested (by decide)
  have hredirect : form.redirect [("q", .arr [v])] = .error .tooDeep := by decide +kernel
  exact ⟨Json.not_overflows_nested 401, ⟨_, hfails, rfl⟩, _, hredirect, rfl⟩

end Questionnaire
