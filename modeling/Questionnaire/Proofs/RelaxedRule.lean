import Questionnaire.Proofs.Branching
import Questionnaire.Proofs.FailedRedirects

/-!
# Two rules for success pages

Whether a success page applies is decided by a rule that ignores the kinds of questions and compares texts. The
rule for questions is stricter: what it lets through, the other one lets through as well, unless it meets a part
of an answer without a text. Where answers are texts, and a text question is compared with one value at most,
the two rules say the same.

* `Condition.matchedByAny_ne_of_matchedBy`: what matches by the stricter rule does not fail to match by the other.
* `Condition.ComparesTexts`: conditions on which the rules agree; `ComparesTexts.holdsRelaxed_eq` that they do.
* `relaxed_rule_extends_strict`: the same for whole pages.
-/

namespace Questionnaire

/-! ## Results taken together -/

/-- What holds together still does when more of it holds. -/
theorem Logic.combine_mono (logic : Logic) {xs ys : List Bool}
    (h : List.Forall₂ (fun x y => x = true → y = true) xs ys) (hxs : logic.combine xs = true) :
    logic.combine ys = true := by
  cases logic with
  | all =>
    simp only [combine, List.all_eq_true, id_eq] at hxs ⊢
    induction h with
    | nil => simp
    | cons hxy _ ih =>
      rw [List.forall_mem_cons] at hxs ⊢
      exact ⟨hxy hxs.1, ih hxs.2⟩
  | any =>
    simp only [combine, List.any_eq_true, id_eq] at hxs ⊢
    induction h with
    | nil => exact hxs
    | cons hxy _ ih =>
      rw [List.exists_mem_cons_iff] at hxs ⊢
      exact hxs.imp hxy ih

/-! ## One answer -/

namespace Condition

variable {c : Condition} {A : Answers} {qs : List Question}

/-- What is chosen by a value does not fail to match by texts. -/
theorem matchedByAny_ne_of_mem_selected [Stack] {value : Text} {answer : Json} (hvalue : value ∈ c.values)
    (hselected : .str value ∈ answer.selected) : c.matchedByAny answer ≠ .ok false := by
  cases answer with
  | arr items =>
    simp only [matchedByAny]
    cases htexts : items.mapM Json.answerText with
    | error e =>
      intro hfalse
      cases hfalse
    | ok texts =>
      -- a text stands for itself, so the value is among the texts that are compared
      have hmem : value ∈ texts := (mem_iff_of_mapM_eq_ok htexts).mpr ⟨_, hselected, rfl⟩
      have hany : texts.any (c.values.contains ·) = true :=
        List.any_eq_true.mpr ⟨value, hmem, List.contains_iff_mem.mpr hvalue⟩
      intro hfalse
      have hfalse : texts.any (c.values.contains ·) = false := Except.ok.inj hfalse
      rw [hany] at hfalse
      cases hfalse
  | str s =>
    obtain rfl : value = s := by simpa [Json.selected] using hselected
    simp [matchedByAny, hvalue]
  | _ => simp [Json.selected] at hselected

/-- What matches by the rule for questions does not fail to match by texts. -/
theorem matchedByAny_ne_of_matchedBy [Stack] {kind : QuestionKind} {answer : Json}
    (h : c.matchedBy kind answer = true) : c.matchedByAny answer ≠ .ok false := by
  cases kind with
  | singleChoice | multipleChoice =>
    obtain ⟨value, hvalue, hselected⟩ := List.any_eq_true.mp h
    exact matchedByAny_ne_of_mem_selected hvalue (of_decide_eq_true hselected)
  | textInput =>
    unfold matchedBy at h
    cases hvalues : c.values with
    | nil => simp [hvalues] at h
    | cons value rest =>
      obtain rfl : answer = .str value := by simpa [hvalues] using h
      simp [matchedByAny, hvalues]
  | address | contact => cases h

/-- A condition that holds for questions is never found not to hold for pages. -/
theorem holdsRelaxed_ne_of_holds [Stack] (h : c.holds A qs = true) : c.holdsRelaxed A qs ≠ .ok false := by
  rw [holds_eq_evidence] at h
  rw [holdsRelaxed_eq_evidence]
  cases hevidence : c.evidence? A qs with
  | none => simp [hevidence] at h
  | some e =>
    rw [hevidence] at h
    exact matchedByAny_ne_of_matchedBy h

/-- Does the condition compare texts with texts by either rule? Its source, if it has one and that has an answer,
offers choices and the answer is a text or a list of texts; or it asks for a text, the answer is one, and the
condition names one value at most. -/
def ComparesTexts (c : Condition) (A : Answers) (qs : List Question) : Prop :=
  ∀ q answer, find? qs c.source = some q → A.given? c.source = some answer →
    q.isChoice = true ∧ (∀ v ∈ answer.selected, ∃ s, v = .str s) ∨
      q.kind = .textInput ∧ (∃ s, answer = .str s) ∧ c.values.length ≤ 1

/-- Among choices a text, or a list of texts, matches alike by both rules. -/
theorem matchedByAny_eq_of_texts [Stack] {kind : QuestionKind} (hkind : kind.isChoice = true) {answer : Json}
    (htexts : ∀ v ∈ answer.selected, ∃ s, v = .str s) :
    c.matchedByAny answer = .ok (c.matchedBy kind answer) := by
  have hchoice : c.matchedBy kind answer = c.values.any fun value => .str value ∈ answer.selected := by
    cases kind with
    | singleChoice | multipleChoice => rfl
    | textInput | address | contact => cases hkind
  rw [hchoice]
  cases answer with
  | str s =>
    simp only [matchedByAny, Json.selected, List.mem_singleton, Json.str.injEq, Except.ok.injEq]
    rw [Bool.eq_iff_iff, List.contains_iff_mem, List.any_eq_true]
    simp
  | arr items =>
    obtain ⟨texts, rfl⟩ := exists_texts htexts
    simp only [matchedByAny, mapM_answerText_str]
    -- one rule looks for the texts among the values, the other for the values among the texts
    have hany : texts.any (c.values.contains ·) = c.values.any fun value => .str value ∈ texts.map Json.str := by
      rw [Bool.eq_iff_iff, List.any_eq_true, List.any_eq_true]
      simp [and_comm]
    exact congrArg Except.ok hany
  | _ => simp [Json.selected] at htexts

/-- A text matches alike by both rules if there is no second value. -/
theorem matchedByAny_eq_of_text [Stack] (s : Text) (hvalues : c.values.length ≤ 1) :
    c.matchedByAny (.str s) = .ok (c.matchedBy .textInput (.str s)) := by
  unfold matchedByAny matchedBy
  cases hc : c.values with
  | nil => rfl
  | cons value rest =>
    obtain rfl : rest = [] := by simpa [hc] using hvalues
    simp

/-- Where texts are compared with texts, the two rules agree on a condition. -/
theorem ComparesTexts.holdsRelaxed_eq [Stack] (h : c.ComparesTexts A qs) :
    c.holdsRelaxed A qs = .ok (c.holds A qs) := by
  unfold holdsRelaxed holds
  cases hq : find? qs c.source with
  | none => rfl
  | some q =>
    cases hanswer : A.given? c.source with
    | none => rfl
    | some answer =>
      rcases h q answer hq hanswer with ⟨hchoice, htexts⟩ | ⟨hkind, ⟨s, rfl⟩, hvalues⟩
      · exact matchedByAny_eq_of_texts hchoice htexts
      · simp only [hkind]
        exact matchedByAny_eq_of_text s hvalues

end Condition

/-! ## Pages -/

namespace SuccessPage

variable {page : SuccessPage} {A : Answers} {qs : List Question}

/-- A page stands at no position, so its conditions may name any question. -/
theorem isVisible_eq (page : SuccessPage) (A : Answers) (qs : List Question) :
    page.isVisible A qs = (page.conditions.isEmpty || page.logic.combine (page.conditions.map (·.holds A qs))) :=
  rfl

/-- A page whose conditions hold for questions is never found not to apply. -/
theorem applies_ne_of_isVisible [Stack] (h : page.isVisible A qs = true) : page.applies A qs ≠ .ok false := by
  rw [isVisible_eq] at h
  unfold applies
  split
  · simp
  · rename_i hconditions
    have hholds : page.logic.combine (page.conditions.map (·.holds A qs)) = true := by simpa [hconditions] using h
    cases hresults : page.conditions.mapM (·.holdsRelaxed A qs) with
    | error e =>
      intro hfalse
      cases hfalse
    | ok results =>
      -- condition by condition, what holds by the strict rule holds by the relaxed one
      have hmore : List.Forall₂ (fun x y => x = true → y = true) (page.conditions.map (·.holds A qs)) results := by
        rw [List.forall₂_map_left_iff]
        refine (mapM_eq_ok_iff.mp hresults).imp fun c result hresult hholds => ?_
        have hne := Condition.holdsRelaxed_ne_of_holds hholds
        rw [hresult] at hne
        simpa using hne
      intro hfalse
      have hfalse : page.logic.combine results = false := Except.ok.inj hfalse
      rw [page.logic.combine_mono hmore hholds] at hfalse
      cases hfalse

/-- Where all conditions compare texts, the two rules agree on a page. -/
theorem applies_eq_of_comparesTexts [Stack] (h : ∀ c ∈ page.conditions, c.ComparesTexts A qs) :
    page.applies A qs = .ok (page.isVisible A qs) := by
  have heach : ∀ c ∈ page.conditions, c.holdsRelaxed A qs = .ok (c.holds A qs) :=
    fun c hc => (h c hc).holdsRelaxed_eq
  rw [isVisible_eq]
  unfold applies
  split
  · rename_i hconditions
    rw [hconditions, Bool.true_or]
  · rename_i hconditions
    rw [mapM_eq_ok_map heach, Bool.eq_false_iff.mpr hconditions, Bool.false_or]
    rfl

end SuccessPage

/-- **The rule for success pages extends the rule for questions.** If the conditions of a page hold by the rule for
questions, then the page applies, or a condition compares a part of an answer that has no text, which the error tells
to be an integer too large or to be too deep; that the page does not apply is never found. And the two rules agree on
a page all of whose conditions, as far as they have a source with an answer, compare a text or a list of texts with
the choices of a question, or a text with the one value for a text question. -/
theorem relaxed_rule_extends_strict [Stack] (page : SuccessPage) (A : Answers) (qs : List Question) :
    (page.isVisible A qs = true →
      page.applies A qs = .ok true ∨
        ∃ e : TextError, page.applies A qs = .error e ∧ ∃ c ∈ page.conditions, ∃ v, c.Compares A qs v ∧
          (e.message = "int too large to convert to float" ∧ v.Overflows ∨
            e.message = Stack.overflow ∧ v.IsTooDeep)) ∧
    ((∀ c ∈ page.conditions, c.ComparesTexts A qs) → page.applies A qs = .ok (page.isVisible A qs)) := by
  refine ⟨fun hvisible => ?_, SuccessPage.applies_eq_of_comparesTexts⟩
  have hne := SuccessPage.applies_ne_of_isVisible hvisible
  cases happlies : page.applies A qs with
  | error e =>
    obtain ⟨c, hc, v, hv, htext⟩ := SuccessPage.applies_eq_error happlies
    refine .inr ⟨e, rfl, c, hc, v, hv, ?_⟩
    -- the error is that of a part that a condition compares
    rcases Json.answerText_eq_error htext with ⟨rfl, hhuge⟩ | ⟨rfl, hdeep⟩
    · exact .inl ⟨rfl, hhuge⟩
    · exact .inr ⟨rfl, hdeep⟩
  | ok applies =>
    rw [happlies] at hne
    left
    simpa using hne

/-- A list that holds a choice, and a text that is the one value, let a page apply by both rules. -/
theorem relaxed_rule_extends_strict_for_choice_and_text :
    let qs := [Question.bare "a" (.multipleChoice []) [] .all, Question.bare "b" .textInput [] .all]
    let A : Answers := [("a", .arr [.str "x", .str "y"]), ("b", .str "z")]
    let page : SuccessPage := ⟨"p", "", "/done", [⟨none, "a", ["w", "y"]⟩, ⟨none, "b", ["z"]⟩], .all⟩
    page.isVisible A qs = true ∧ (∀ c ∈ page.conditions, c.ComparesTexts A qs) ∧ page.applies A qs = .ok true := by
  intro qs A page
  have hvisible : page.isVisible A qs = true := by decide
  have htexts : ∀ c ∈ page.conditions, c.ComparesTexts A qs := by
    intro c hc q answer hq hanswer
    rcases List.mem_cons.mp hc with rfl | hc
    · obtain rfl := Option.some.inj hq
      obtain rfl := Option.some.inj hanswer
      exact .inl ⟨rfl, by simp [Json.selected]⟩
    · obtain rfl := List.mem_singleton.mp hc
      obtain rfl := Option.some.inj hq
      obtain rfl := Option.some.inj hanswer
      exact .inr ⟨rfl, ⟨"z", rfl⟩, by decide⟩
  have hrules := relaxed_rule_extends_strict page A qs
  refine ⟨hvisible, htexts, ?_⟩
  rcases hrules.1 hvisible with happlies | ⟨e, hfails, -⟩
  · exact happlies
  · have happlies := hrules.2 htexts
    rw [hfails] at happlies
    cases happlies

/-- An item that is too deep keeps a page from being evaluated, though the choice that it asks for is selected. -/
theorem relaxed_rule_fails_at_deep_item :
    let qs := [Question.bare "a" (.multipleChoice []) [] .all]
    let A : Answers := [("a", .arr [.str "x", Json.nested 400])]
    let page : SuccessPage := ⟨"p", "", "/done", [⟨none, "a", ["x"]⟩], .all⟩
    page.isVisible A qs = true ∧ page.applies A qs ≠ .ok true ∧
      ∀ e : TextError, page.applies A qs = .error e → e.message ≠ "int too large to convert to float" := by
  intro qs A page
  have hfails : page.applies A qs = .error .tooDeep := by decide +kernel
  refine ⟨by decide, by simp [hfails], ?_⟩
  intro e he
  obtain rfl := Except.error.inj (hfails.symm.trans he)
  decide

/-- Of contact details, and of a text question with two values, the rules say different things. -/
example :
    let qs := [Question.bare "a" .contact [] .all, Question.bare "b" .textInput [] .all]
    let A : Answers := [("a", .obj [("city", .str "x")]), ("b", .str "z")]
    let contact : SuccessPage := ⟨"p", "", "/done", [⟨none, "a", ["x"]⟩], .all⟩
    let second : SuccessPage := ⟨"q", "", "/done", [⟨none, "b", ["y", "z"]⟩], .all⟩
    (contact.isVisible A qs = false ∧ contact.applies A qs = .ok true) ∧
    (second.isVisible A qs = false ∧ second.applies A qs = .ok true) := by decide

end Questionnaire
