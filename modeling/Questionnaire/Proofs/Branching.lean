import Questionnaire.Proofs.NumberedAnswers

/-!
# Numbering preserves branching

A form that can be numbered branches as before: under accepted answers, and these renamed, the same
positions are shown and the same success pages apply, so a submission leads to the same address or fails
alike. Conditions are followed one by one: where one finds its source, the renamed one finds it at the
same position with the renamed answer; where it finds none, the renamed one finds none or no answer.

* `Form.Accepts.holds_renamed`, `Form.Accepts.holdsRelaxed_renamed`: the two rules for one condition.
* `Form.Accepts.visibleFlags_renamed`, `Form.Accepts.redirect_renamed`: what is shown and where it leads.
* `numbering_preserves_branching`: all of it, for the numbered form.
-/

namespace Questionnaire

variable {form : Form} {A : Answers}

/-! ## Sources -/

/-- The relaxed rule looks at the evidence of a condition, and does not hold without any. -/
theorem Condition.holdsRelaxed_eq_evidence [Stack] (c : Condition) (A : Answers) (qs : List Question) :
    c.holdsRelaxed A qs = ((c.evidence? A qs).map fun e => c.matchedByAny e.2).getD (.ok false) := by
  unfold holdsRelaxed evidence?
  cases find? qs c.source with
  | none => rfl
  | some q => cases A.given? c.source <;> rfl

/-- A reference that finds no question finds none under the new names, or one without an answer. -/
theorem Form.Accepts.unanswered_of_indexOf?_eq_none (h : form.Accepts A) {id : Text}
    (hid : ¬ form.idMap.questions.Clashes id) (hk : indexOf? form.questions id = none) :
    indexOf? form.renamed.questions (form.idMap.questions.apply id) = none ∨
      (A.numbered form.idMap).given? (form.idMap.questions.apply id) = none := by
  rw [h.keepsKeys.given?_numbered hid, Form.apply_of_indexOf?_eq_none hk]
  cases hk' : indexOf? form.renamed.questions id with
  | none => exact .inl rfl
  | some k =>
    -- the id is the name of a repetition, and no answer is under such a name
    right
    have hnot : id ∉ questionIds form.questions := by
      rwa [indexOf?_eq_idxOf?, idxOf?_eq_none_iff] at hk
    have hkeys : id ∉ Fields.keys A := by
      intro hmem
      rcases h.keys id hmem with hin | hno
      · exact hnot hin
      · exact hno (Form.namesPosition_of_indexOf?_renamed hk')
    simp [Answers.given?, Fields.get?_eq_none_iff.mpr hkeys]

/-! ## Conditions -/

section Conditions

variable (h : form.Accepts A) {c : Condition} (hc : ¬ form.idMap.Clashes c) (owner : Owner) (position : Nat)

include h hc

/-- A renamed condition accepts the renamed answer to its source exactly if it did before. -/
theorem Form.Accepts.matched_renamed [Stack] {k : Nat} {q : Question} (hk : indexOf? form.questions c.source = some k)
    (hq : form.questions[k]? = some q) {answer : Json} (ha : A.given? c.source = some answer) :
    let d := form.idMap.renamedCondition owner c position
    let renamed := (form.idMap.choicesOf c.source).renameAnswer answer
    d.matchedBy q.kind renamed = c.matchedBy q.kind answer ∧
    d.matchedByAny renamed = c.matchedByAny answer := by
  intro d renamed
  have hvalues : ∀ v ∈ c.values, ¬ (form.idMap.choicesOf c.source).Clashes v := by
    intro v hv hclash
    exact hc (.inr ⟨v, hv, hclash⟩)
  by_cases hchoice : q.isChoice
  · obtain ⟨q', hq', hid, -⟩ := indexOf?_eq_some_iff.mp hk
    obtain rfl : q' = q := Option.some.inj (hq'.symm.trans hq)
    have haccepts := h.selections k q' hq (hid.symm ▸ hk) hchoice answer (hid.symm ▸ ha)
    have hapart : ∀ s, .str s ∈ answer.selected → ¬ (form.idMap.choicesOf c.source).Clashes s := by
      intro s hs
      exact (haccepts.admits hs).not_clashes hk hq
    have hr := form.injective_choicesOf c.source
    exact ⟨Condition.matchedBy_renamed hr rfl hvalues hchoice hapart,
      Condition.matchedByAny_renamed hr rfl hvalues haccepts.exists_text hapart⟩
  · -- neither the values nor the answer are renamed, so the kind does not matter
    have hempty := Form.idMap_choicesOf_of_not_isChoice hk hq hchoice
    have hd : d.values = c.values := by
      have hid : (⟨[]⟩ : Renaming).apply = id := rfl
      simp [d, IdMap.renamedCondition, hempty, hid]
    have hsame : renamed = answer := by simp [renamed, hempty]
    rw [hsame]
    unfold Condition.matchedBy Condition.matchedByAny
    rw [hd]
    exact ⟨rfl, rfl⟩

/-- A renamed condition looks at the same source and the renamed answer, in any front of the form. -/
theorem Form.Accepts.evidence?_renamed (n : Nat) :
    (form.idMap.renamedCondition owner c position).evidence? (A.numbered form.idMap)
        (form.renamed.questions.take n) =
      (c.evidence? A (form.questions.take n)).map fun e =>
        (e.1, (form.idMap.choicesOf c.source).renameAnswer e.2) := by
  have hsource : ¬ form.idMap.questions.Clashes c.source := fun hclash => hc (.inl hclash)
  rw [Condition.evidence?_take, Condition.evidence?_take, IdMap.renamedCondition]
  cases hk : indexOf? form.questions c.source with
  | none =>
    rcases h.unanswered_of_indexOf?_eq_none hsource hk with hnone | hnone
    · simp [hnone]
    · -- the new name finds a repetition, which has no answer
      cases indexOf? form.renamed.questions (form.idMap.questions.apply c.source) <;> simp [hnone]
  | some k =>
    obtain ⟨q, hq, -⟩ := indexOf?_eq_some_iff.mp hk
    rw [Form.indexOf?_renamed_apply hk, Option.bind_some, Option.bind_some, Form.getElem?_renamed_questions,
      hq, Option.map_some, h.keepsKeys.given?_numbered hsource]
    by_cases hlt : k < n
    · simp [hlt, Function.comp_def]
    · simp [hlt]

/-- A renamed condition holds in the front of the renamed form exactly if it did in that of the form. -/
theorem Form.Accepts.holds_renamed (n : Nat) :
    (form.idMap.renamedCondition owner c position).holds (A.numbered form.idMap)
      (form.renamed.questions.take n) = c.holds A (form.questions.take n) := by
  rw [Condition.holds_eq_evidence, Condition.holds_eq_evidence, h.evidence?_renamed hc]
  cases he : c.evidence? A (form.questions.take n) with
  | none => rfl
  | some e =>
    obtain ⟨k, q, hk, hq, hkind, hv⟩ := Condition.evidence?_take_eq_some he
    simp only [Option.map_some, Option.getD_some, hkind]
    exact (h.matched_renamed hc owner position hk hq hv).1

/-- So it does by the rule that ignores kinds, and it fails where that did. -/
theorem Form.Accepts.holdsRelaxed_renamed [Stack] :
    (form.idMap.renamedCondition owner c position).holdsRelaxed (A.numbered form.idMap)
      form.renamed.questions = c.holdsRelaxed A form.questions := by
  have hall : form.renamed.questions.take form.questions.length = form.renamed.questions := by
    rw [← form.length_renamed_questions, List.take_length]
  have hevidence := h.evidence?_renamed hc owner position form.questions.length
  rw [hall, List.take_length] at hevidence
  rw [Condition.holdsRelaxed_eq_evidence, Condition.holdsRelaxed_eq_evidence, hevidence]
  cases he : c.evidence? A form.questions with
  | none => rfl
  | some e =>
    rw [← List.take_length (l := form.questions)] at he
    obtain ⟨k, q, hk, hq, -, hv⟩ := Condition.evidence?_take_eq_some he
    exact (h.matched_renamed hc owner position hk hq hv).2

end Conditions

/-! ## Lists of conditions -/

/-- Steps over a list depend on the single steps alone. -/
theorem mapM_eq_mapM_id {ε α β : Type} (f : α → Except ε β) (xs : List α) :
    xs.mapM f = (xs.map f).mapM id := by
  rw [List.mapM_map]
  rfl

/-- Pages that agree one by one lead to the same address. -/
theorem redirectAmong_congr [Stack] {A B : Answers} {qs rs : List Question} {ps pages : List SuccessPage}
    (h : List.Forall₂ (fun p page => page.url = p.url ∧ page.applies B rs = p.applies A qs) ps pages)
    (otherwise : Text) : redirectAmong B rs otherwise pages = redirectAmong A qs otherwise ps := by
  induction h with
  | nil => rfl
  | cons hpage _ ih => rw [redirectAmong, redirectAmong, hpage.1, hpage.2, ih]

section Lists

variable (h : form.Accepts A) {cs : List Condition} (hcs : ∀ c ∈ cs, ¬ form.idMap.Clashes c) (owner : Owner)

/-- What the renaming of a condition does not change, it does not change for the list. -/
theorem IdMap.map_renamedConditions {β : Type} {m : IdMap} {f g : Condition → β}
    (hfg : ∀ c ∈ cs, ∀ position, f (m.renamedCondition owner c position) = g c) :
    (m.renamedConditions owner cs).map f = cs.map g := by
  have hcs : cs = (cs.zipIdx 1).map Prod.fst := (List.zipIdx_map_fst 1 cs).symm
  rw [IdMap.renamedConditions, List.map_map]
  conv_rhs => rw [hcs, List.map_map]
  apply List.map_congr_left
  intro e he
  exact hfg e.1 (List.fst_mem_of_mem_zipIdx he) e.2

/-- Renaming keeps whether there are conditions. -/
theorem IdMap.isEmpty_renamedConditions (m : IdMap) (owner : Owner) (cs : List Condition) :
    (m.renamedConditions owner cs).isEmpty = cs.isEmpty := by
  cases cs <;> rfl

include h hcs

/-- Renamed conditions hold together in the front of the renamed form exactly if they did before. -/
theorem Form.Accepts.conditionsHold_renamed (logic : Logic) (n : Nat) :
    conditionsHold (form.idMap.renamedConditions owner cs) logic none (A.numbered form.idMap)
      (form.renamed.questions.take n) = conditionsHold cs logic none A (form.questions.take n) := by
  have heach : (form.idMap.renamedConditions owner cs).map
        (fun c => c.holdsBefore none (A.numbered form.idMap) (form.renamed.questions.take n)) =
      cs.map fun c => c.holdsBefore none A (form.questions.take n) := by
    apply IdMap.map_renamedConditions
    intro c hc position
    exact h.holds_renamed (hcs c hc) owner position n
  rw [conditionsHold, conditionsHold, heach, IdMap.isEmpty_renamedConditions]

end Lists

/-! ## The renamed form -/

section Renamed

variable (h : form.Accepts A) (hform : ∀ c ∈ form.conditions, ¬ form.idMap.Clashes c)

include h hform

/-- A renamed question is shown exactly if the question was. -/
theorem Form.Accepts.isVisibleAt_renamed {k : Nat} {q : Question} (hq : form.questions[k]? = some q) :
    (form.idMap.renamedQuestion q (k + 1)).isVisibleAt (some k) (A.numbered form.idMap)
      form.renamed.questions = q.isVisibleAt (some k) A form.questions := by
  have hcs : ∀ c ∈ q.conditions, ¬ form.idMap.Clashes c := by
    intro c hc
    exact hform c (Form.mem_conditions_of_question (List.mem_of_getElem? hq) hc)
  rw [Question.isVisibleAt_eq_take, Question.isVisibleAt_eq_take, Question.isVisibleAt,
    IdMap.conditions_renamedQuestion]
  exact h.conditionsHold_renamed hcs (.question (k + 1)) q.logic k

/-- The same positions are shown. -/
theorem Form.Accepts.visibleFlags_renamed :
    visibleFlags form.renamed.questions (A.numbered form.idMap) = visibleFlags form.questions A := by
  apply List.ext_getElem?
  intro k
  rw [visibleFlags, visibleFlags, List.getElem?_mapIdx, List.getElem?_mapIdx, Form.getElem?_renamed_questions]
  cases hq : form.questions[k]? with
  | none => rfl
  | some q => simp [h.isVisibleAt_renamed hform hq]

/-- A renamed success page applies exactly if the page did, by either rule, and fails where it did. -/
theorem Form.Accepts.page_renamed [Stack] {p : SuccessPage} (hp : p ∈ form.settings.successPages) (position : Nat) :
    let page := form.idMap.renamedPage p position
    page.isVisible (A.numbered form.idMap) form.renamed.questions = p.isVisible A form.questions ∧
    page.applies (A.numbered form.idMap) form.renamed.questions = p.applies A form.questions := by
  have hcs : ∀ c ∈ p.conditions, ¬ form.idMap.Clashes c := by
    intro c hc
    exact hform c (Form.mem_conditions_of_page hp hc)
  constructor
  · have hall := h.conditionsHold_renamed hcs (.successPage position) p.logic form.questions.length
    rw [List.take_length, ← form.length_renamed_questions, List.take_length] at hall
    exact hall
  · have heach : (form.idMap.renamedConditions (.successPage position) p.conditions).map
          (fun c => c.holdsRelaxed (A.numbered form.idMap) form.renamed.questions) =
        p.conditions.map fun c => c.holdsRelaxed A form.questions := by
      apply IdMap.map_renamedConditions
      intro c hc position'
      exact h.holdsRelaxed_renamed (hcs c hc) (.successPage position) position'
    rw [SuccessPage.applies, SuccessPage.applies, IdMap.renamedPage, IdMap.isEmpty_renamedConditions,
      mapM_eq_mapM_id, heach, ← mapM_eq_mapM_id]

/-- A submission leads to the same address, or fails alike. -/
theorem Form.Accepts.redirect_renamed [Stack] :
    form.renamed.redirect (A.numbered form.idMap) = form.redirect A := by
  have hpages : List.Forall₂
      (fun p page => page.url = p.url ∧ SuccessPage.applies page (A.numbered form.idMap)
        form.renamed.questions = p.applies A form.questions)
      form.settings.successPages form.renamed.settings.successPages := by
    rw [Form.renamed, forall₂_map_zipIdx]
    intro e he
    exact ⟨rfl, (h.page_renamed hform (List.fst_mem_of_mem_zipIdx he) e.2).2⟩
  exact redirectAmong_congr hpages _

end Renamed

/-! ## The numbered form -/

/-- What is shown corresponds one by one where all questions do and the same positions are shown. -/
theorem forall₂_activeQuestions {R : Question → Question → Prop} {qs rs : List Question} {A B : Answers}
    (h : List.Forall₂ R qs rs) (hflags : visibleFlags rs B = visibleFlags qs A) :
    List.Forall₂ R (activeQuestions qs A) (activeQuestions rs B) := by
  unfold activeQuestions
  rw [hflags]
  generalize visibleFlags qs A = flags
  clear hflags
  induction h generalizing flags with
  | nil => exact .nil
  | cons hq _ ih =>
    rcases flags with _ | ⟨_ | _, flags⟩
    · exact .nil
    · exact ih flags
    · exact .cons hq (ih flags)

/-- Do two questions stand at the same position, each in its form? -/
def SamePosition (form other : Form) (q r : Question) : Prop :=
  ∃ i : Nat, form.questions[i]? = some q ∧ other.questions[i]? = some r

/-- Every renamed question stands where the question did. -/
theorem Form.forall₂_renamed_questions (form : Form) :
    List.Forall₂ (SamePosition form form.renamed) form.questions form.renamed.questions := by
  have hquestions : form.renamed.questions =
      (form.questions.zipIdx 1).map fun e => form.idMap.renamedQuestion e.1 e.2 := rfl
  rw [hquestions, forall₂_map_zipIdx]
  rintro ⟨q, position⟩ he
  obtain ⟨hle, hq⟩ := List.mk_mem_zipIdx_iff_le_and_getElem?_sub.mp he
  refine ⟨position - 1, hq, ?_⟩
  rw [Form.getElem?_renamed_questions, hq, Option.map_some, Nat.sub_add_cancel hle]

/-- **Numbering preserves branching.** If a form can be numbered and answers are such that their meaning
does not depend on the numbering, then under these answers and their renaming the same positions of the
form are shown, what is shown corresponds one by one, each success page is shown and applies, or fails,
as before, and a submission leads to the same address or fails alike. -/
theorem numbering_preserves_branching [Stack] (form other : Form) (A : Answers) (h : form.numbered = .ok other)
    (hA : form.Accepts A) :
    let B := A.numbered form.idMap
    (∀ i : Nat, (other.questions[i]?).map (fun q => q.isVisibleAt (some i) B other.questions) =
      (form.questions[i]?).map fun q => q.isVisibleAt (some i) A form.questions) ∧
    List.Forall₂ (SamePosition form other) (activeQuestions form.questions A)
      (activeQuestions other.questions B) ∧
    (∀ j : Nat, (other.settings.successPages[j]?).map
        (fun p => (p.isVisible B other.questions, p.applies B other.questions)) =
      (form.settings.successPages[j]?).map
        fun p => (p.isVisible A form.questions, p.applies A form.questions)) ∧
    other.redirect B = form.redirect A := by
  intro B
  -- the form that is numbered is the renamed one, and its questions and pages are compared place by place
  obtain ⟨hform, rfl⟩ := (form.gives_numbered other).mp h
  refine ⟨?_, forall₂_activeQuestions form.forall₂_renamed_questions (hA.visibleFlags_renamed hform), ?_,
    hA.redirect_renamed hform⟩
  · intro i
    rw [Form.getElem?_renamed_questions]
    cases hq : form.questions[i]? with
    | none => rfl
    | some q =>
      have hshown := hA.isVisibleAt_renamed hform hq
      simpa using hshown
  · intro j
    rw [Form.getElem?_renamed_pages]
    cases hp : form.settings.successPages[j]? with
    | none => rfl
    | some p =>
      obtain ⟨hshown, happlies⟩ := hA.page_renamed hform (List.mem_of_getElem? hp) (j + 1)
      simp only [Option.map_some]
      exact congrArg some (Prod.ext hshown happlies)

/-- Ids that look like names, of questions and of choices in the other order, ids that are repeated, and
references to nothing, backward and forward. -/
theorem numbering_preserves_branching_among_lookalikes :
    let swapped : List Choice := [⟨"q_1_opt_2", "", none, none⟩, ⟨"q_1_opt_1", "", none, none⟩]
    let repeated : List Choice := [⟨"a", "", none, none⟩, ⟨"a", "", none, none⟩]
    let first : Question := .bare "q_2" (.singleChoice swapped) [] .all
    let second : Question := .bare "q_1" (.multipleChoice repeated)
      [⟨none, "q_2", ["q_1_opt_1"]⟩, ⟨none, "gone", ["a"]⟩] .any
    let third : Question := .bare "q_2" .textInput
      [⟨none, "q_1", ["a", "b"]⟩, ⟨none, "q_2", ["q_1_opt_1"]⟩] .all
    let page : SuccessPage := ⟨"q_1", "", "/done", [⟨none, "q_1", ["a"]⟩], .all⟩
    let form : Form := {
      title := ""
      description := ""
      questions := [first, second, third]
      settings := { FormSettings.standard with successPages := [page] } }
    let A : Answers := [("q_2", .str "q_1_opt_1"), ("q_1", .arr [.str "b", .str "a"]), ("note", .int 1)]
    let B : Answers :=
      [("q_1", .str "q_1_opt_2"), ("q_2", .arr [.str "b", .str "q_2_opt_1"]), ("note", .int 1)]
    form.numbered = .ok form.renamed ∧ form.Accepts A ∧
    A.numbered form.idMap = B ∧
    visibleFlags form.questions A = [true, true, true] ∧
    activeIds form.renamed.questions B = ["q_1", "q_2", "q_3"] ∧
    form.renamed.redirect B = .ok "/done" ∧
    form.renamed.redirect B = form.redirect A := by
  intro swapped repeated first second third page form A B
  have hok : form.numbered = .ok form.renamed := by rfl
  have hA : form.Accepts A := by
    refine ⟨by decide, by decide, ?_⟩
    -- The three questions in turn; the third is a text input, which asks nothing of its answer.
    intro k q hq hk hchoice v hv
    obtain rfl | rfl | rfl : k = 0 ∨ k = 1 ∨ k = 2 := by
      have hlt : k < 3 := (List.getElem?_eq_some_iff.mp hq).1
      omega
    · obtain rfl : first = q := Option.some.inj hq
      obtain rfl : .str "q_1_opt_1" = v := Option.some.inj hv
      intro x hx
      obtain rfl := List.mem_singleton.mp hx
      exact ⟨"q_1_opt_1", rfl, by decide⟩
    · obtain rfl : second = q := Option.some.inj hq
      obtain rfl : .arr [.str "b", .str "a"] = v := Option.some.inj hv
      intro x hx
      rcases List.mem_pair.mp hx with rfl | rfl
      · exact ⟨"b", rfl, by decide⟩
      · exact ⟨"a", rfl, by decide⟩
    · obtain rfl : third = q := Option.some.inj hq
      cases hchoice
  exact ⟨hok, hA, by decide, by decide, by decide, by decide,
    (numbering_preserves_branching form form.renamed A hok hA).2.2.2⟩

end Questionnaire
