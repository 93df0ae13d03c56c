import Questionnaire.Proofs.NewAnswers
import Questionnaire.Proofs.RelaxedRule
import Questionnaire.Proofs.StoreQueries

/-!
# More answers show more

A condition asks for something to be selected or entered, never for it to be missing. So answers that say all that
others say show all that these show: unanswered questions may be answered, and more may be selected where there are
choices. In particular nothing is hidden when an option is added to a selection. A session then stays where it is,
unless it is in the empty state, where it has no question: it leaves that state when a question is shown.

* `Answers.Within`: answers that say all that others do; `Answers.Within.holds` for one condition.
* `Answers.holds_toggle`: the same where an option is added.
* `conditionsHold_mono`, `activeIds_sublist_of_holds`: from conditions to what is shown.
* `Session.InStep.current?_withAnswers_of_holds`: a session to whose answers something is added.
* `more_answers_show_more`: runs of any length.
-/

namespace Questionnaire

/-! ## Answers that say more -/

/-- Are two values the same, or of equal contents? -/
def Json.Agrees (a b : Json) : Prop := a = b ∨ a.equals b = true

/-- Only the text itself has the contents of a text. -/
theorem Json.Agrees.eq_str {s : Text} {b : Json} (h : Agrees (.str s) b) : b = .str s := by
  rcases h with rfl | h
  · rfl
  · cases b <;> simp_all [equals]

/-- Lists of equal contents hold the same texts. -/
theorem Json.mem_of_equalItems {s : Text} {as bs : List Json} (h : equalItems as bs = true)
    (hs : Json.str s ∈ as) : Json.str s ∈ bs := by
  induction as generalizing bs with
  | nil => cases hs
  | cons a as ih =>
    cases bs with
    | nil => simp [equalItems] at h
    | cons b bs =>
      simp only [equalItems, Bool.and_eq_true] at h
      rcases List.mem_cons.mp hs with rfl | hs
      · rw [Agrees.eq_str (.inr h.1)]
        exact List.mem_cons_self
      · exact List.mem_cons_of_mem b (ih h.2 hs)

/-- Of answers that agree the same texts are selected. -/
theorem Json.Agrees.mem_selected {s : Text} {a b : Json} (h : a.Agrees b) (hs : .str s ∈ a.selected) :
    .str s ∈ b.selected := by
  rcases h with rfl | h
  · exact hs
  · cases a with
    | arr as =>
      cases b with
      | arr bs => exact mem_of_equalItems h hs
      | _ => simp [equals] at h
    | str t =>
      rw [Agrees.eq_str (.inr h)]
      exact hs
    | _ => simp [selected] at hs

namespace Answers

/-- Do other answers say all that the answers say? Under each id of the form there is no answer, or the answers
agree, or the first question with the id is a choice question and what is selected in one is selected in the
other. -/
def Within (A B : Answers) (qs : List Question) : Prop :=
  ∀ id ∈ questionIds qs,
    A.given? id = none ∨
    (∃ a b, A.given? id = some a ∧ B.given? id = some b ∧ a.Agrees b) ∨
    ∃ q, find? qs id = some q ∧ q.isChoice = true ∧
      ∀ x ∈ (A.get id).selected, ∃ y ∈ (B.get id).selected, x.Agrees y

/-- An answer that is given is the value under the id. -/
theorem get_of_given? {A : Answers} {id : Text} {a : Json} (h : A.given? id = some a) : A.get id = a := by
  unfold given? at h
  unfold Fields.get
  split at h
  · cases h
  · rw [h]
    rfl

/-- A text that is selected has been given. -/
theorem given?_of_mem_selected {A : Answers} {id s : Text} (h : .str s ∈ (A.get id).selected) :
    ∃ a, A.given? id = some a ∧ .str s ∈ a.selected := by
  unfold Fields.get at h
  unfold given?
  cases hget : A.get? id with
  | none => simp [hget, Json.selected] at h
  | some a =>
    rw [hget] at h
    cases a with
    | null => simp [Json.selected] at h
    | _ => exact ⟨_, rfl, h⟩

end Answers

/-! ## One condition -/

namespace Condition

variable {c : Condition} {kind : QuestionKind}

/-- What matches for a choice question is a text that is selected. -/
theorem matchedBy_choice_iff (hkind : kind.isChoice = true) (answer : Json) :
    c.matchedBy kind answer = true ↔ ∃ value ∈ c.values, .str value ∈ answer.selected := by
  cases kind <;> simp_all [matchedBy, QuestionKind.isChoice]

/-- Answers that agree match alike. -/
theorem matchedBy_of_agrees {a b : Json} (hab : a.Agrees b) (h : c.matchedBy kind a = true) :
    c.matchedBy kind b = true := by
  cases hkind : kind.isChoice with
  | true =>
    rw [matchedBy_choice_iff hkind] at h ⊢
    rcases h with ⟨value, hvalue, hselected⟩
    exact ⟨value, hvalue, hab.mem_selected hselected⟩
  | false =>
    cases kind with
    | textInput =>
      unfold matchedBy at h ⊢
      cases hvalues : c.values with
      | nil => simp [hvalues] at h
      | cons value rest =>
        simp only [hvalues, decide_eq_true_eq] at h ⊢
        rw [h] at hab
        exact hab.eq_str
    | address | contact => simp [matchedBy] at h
    | singleChoice | multipleChoice => cases hkind

/-- A list matches for no question but a choice question. -/
theorem isChoice_of_matchedBy_arr {items : List Json} (h : c.matchedBy kind (.arr items) = true) :
    kind.isChoice = true := by
  cases kind with
  | singleChoice | multipleChoice => rfl
  | textInput =>
    unfold matchedBy at h
    cases hvalues : c.values <;> simp [hvalues] at h
  | address | contact => simp [matchedBy] at h

/-- A condition holds by the first question it names and an answer that matches. -/
theorem holds_iff {A : Answers} {qs : List Question} :
    c.holds A qs = true ↔ ∃ q a, find? qs c.source = some q ∧ A.given? c.source = some a ∧
      c.matchedBy q.kind a = true := by
  unfold holds
  cases find? qs c.source with
  | none => simp
  | some q => cases A.given? c.source <;> simp

end Condition

section

variable {A B : Answers} {qs : List Question}

/-- What is found in a form is the id of one of its questions. -/
theorem mem_questionIds_of_find? {id : Text} {q : Question} (h : find? qs id = some q) : id ∈ questionIds qs := by
  obtain ⟨hmem, rfl⟩ := find?_eq_some h
  exact List.mem_map_of_mem hmem

/-- A condition that holds by some answers holds by answers that say all that these do. -/
theorem Answers.Within.holds (h : A.Within B qs) {c : Condition} (hc : c.holds A qs = true) :
    c.holds B qs = true := by
  rw [Condition.holds_iff] at hc ⊢
  rcases hc with ⟨q, a, hq, ha, hmatched⟩
  rcases h c.source (mem_questionIds_of_find? hq) with hnone | ⟨a', b, ha', hb, hab⟩ | ⟨q', hq', hchoice, hselects⟩
  · cases hnone.symm.trans ha
  · obtain rfl := Option.some.inj (ha.symm.trans ha')
    exact ⟨q, b, hq, hb, Condition.matchedBy_of_agrees hab hmatched⟩
  · obtain rfl := Option.some.inj (hq.symm.trans hq')
    rw [Condition.matchedBy_choice_iff hchoice] at hmatched
    rcases hmatched with ⟨value, hvalue, hselected⟩
    rw [← Answers.get_of_given? ha] at hselected
    rcases hselects _ hselected with ⟨y, hy, hagrees⟩
    rw [hagrees.eq_str] at hy
    rcases Answers.given?_of_mem_selected hy with ⟨b, hb, hy⟩
    exact ⟨q, b, hq, hb, (Condition.matchedBy_choice_iff hchoice b).mpr ⟨value, hvalue, hy⟩⟩

/-- A condition that holds still does when an option is added to a selection, whatever the kinds of the questions
with that id are. -/
theorem Answers.holds_toggle {id : Text} {option : Json}
    (hlist : A.given? id = none ∨ ∃ items, A.given? id = some (.arr items))
    (hnew : isSelected option (selection (A.get? id)) = false) {c : Condition} (hc : c.holds A qs = true) :
    c.holds (A.toggle id option) qs = true := by
  rw [Condition.holds_iff] at hc ⊢
  rcases hc with ⟨q, a, hq, ha, hmatched⟩
  by_cases hid : c.source = id
  · rw [hid] at hq ha ⊢
    rcases hlist with hnone | ⟨items, hitems⟩
    · cases hnone.symm.trans ha
    · obtain rfl := Option.some.inj (hitems.symm.trans ha)
      -- a list was there, to which the option is added
      have hget : A.get? id = some (.arr items) := by
        unfold given? at hitems
        split at hitems
        · cases hitems
        · exact hitems
      have htoggled : (A.toggle id option).given? id = some (.arr (items ++ [option])) := by
        rw [hget] at hnew
        have hnew' : isSelected option items = false := hnew
        unfold toggle given?
        rw [Fields.get?_set, if_pos rfl, hget]
        simp [selection, toggled, hnew']
      have hchoice := Condition.isChoice_of_matchedBy_arr hmatched
      rw [Condition.matchedBy_choice_iff hchoice] at hmatched
      rcases hmatched with ⟨value, hvalue, hselected⟩
      refine ⟨q, _, hq, htoggled, (Condition.matchedBy_choice_iff hchoice _).mpr ⟨value, hvalue, ?_⟩⟩
      exact List.mem_append_left _ hselected
  · refine ⟨q, a, hq, ?_, hmatched⟩
    rw [(Answers.agreeBut_toggle A id option).given? hid, ha]

/-! ## What is shown -/

/-- What is shown by some conditions stays shown if each that holds goes on holding. -/
theorem conditionsHold_mono (h : ∀ c : Condition, c.holds A qs = true → c.holds B qs = true)
    {conditions : List Condition} {logic : Logic} {position : Option Nat}
    (hA : conditionsHold conditions logic position A qs = true) :
    conditionsHold conditions logic position B qs = true := by
  have heach : ∀ c : Condition, c.holdsBefore position A qs = true → c.holdsBefore position B qs = true := by
    intro c hc
    unfold Condition.holdsBefore at hc ⊢
    split at hc
    · split at hc
      · cases hc
      · next hown =>
        rw [if_neg hown]
        exact h c hc
    · exact h c hc
  unfold conditionsHold at hA ⊢
  rw [Bool.or_eq_true] at hA ⊢
  refine hA.imp_right fun hA => logic.combine_mono ?_ hA
  rw [List.forall₂_map_left_iff, List.forall₂_map_right_iff, List.forall₂_same]
  exact fun c _ => heach c

/-- A question stays visible when no condition ceases to hold. -/
theorem Question.isVisibleAt_mono (h : ∀ c : Condition, c.holds A qs = true → c.holds B qs = true)
    {q : Question} {position : Option Nat} (hA : q.isVisibleAt position A qs = true) :
    q.isVisibleAt position B qs = true :=
  conditionsHold_mono h hA

/-- What is kept of a list by flags is also kept by more of them. -/
theorem filterMap_zip_sublist_filterMap_zip {α : Type} (xs : List α) {flags more : List Bool}
    (h : List.Forall₂ (fun f g => f = true → g = true) flags more) :
    ((xs.zip flags).filterMap fun (x, keep) => if keep then some x else none).Sublist
      ((xs.zip more).filterMap fun (x, keep) => if keep then some x else none) := by
  induction h generalizing xs with
  | nil => simp
  | @cons f g _ _ hfg _ ih =>
    cases xs with
    | nil => simp
    | cons x xs =>
      cases f with
      | true =>
        rw [hfg rfl]
        exact (ih xs).cons_cons x
      | false =>
        cases g with
        | true => exact (ih xs).cons x
        | false => exact ih xs

/-- The active sequence keeps all its ids, in their order, if each condition that holds goes on holding. -/
theorem activeIds_sublist_of_holds (h : ∀ c : Condition, c.holds A qs = true → c.holds B qs = true) :
    (activeIds qs A).Sublist (activeIds qs B) := by
  refine (filterMap_zip_sublist_filterMap_zip qs ?_).map _
  unfold visibleFlags
  rw [List.forall₂_iff_get]
  refine ⟨by simp, fun i hi hi' => ?_⟩
  simp only [List.get_eq_getElem, List.getElem_mapIdx]
  exact Question.isVisibleAt_mono h

end

/-! ## Where a session stands -/

namespace Session

variable {s : Session}

/-- A session at a question stays there if every condition that holds goes on holding. In the empty state it goes to
the first question that is shown, if there is one now. -/
theorem InStep.current?_withAnswers_of_holds (h : s.InStep) (hids : (questionIds s.form.questions).Nodup) {B : Answers}
    (hB : ∀ c : Condition, c.holds s.answers s.form.questions = true → c.holds B s.form.questions = true) :
    (∀ i, s.current? = some i → (s.withAnswers B).current? = some i) ∧
    (s.current? = none → s.activeIds = [] ∧
      (s.withAnswers B).current? = (visibleFlags s.form.questions B).findIdx? fun visible => visible) := by
  constructor
  · intro i hi
    rcases h.shown hids hi with ⟨q, hq, hshown⟩
    rw [current?_withAnswers_iff hids hi hq]
    exact Question.isVisibleAt_mono hB hshown
  · intro hnone
    rcases h.standing_cases with ⟨hempty, -, hstanding⟩ | ⟨i, q, hcurrent, -⟩
    · refine ⟨hempty, current?_withAnswers_of_hidden hids ?_⟩
      intro q hq
      cases hstanding.symm.trans hq
    · cases hnone.symm.trans hcurrent

end Session

/-- **More answers show more.** Where other answers say all that some answers say, they show every question, at any
position, and every success page that these show. And in any state that can be reached, let an option be added to
the answer under an id, which is a list or missing. Then every question that was shown is shown, the active sequence
keeps its ids in their order, and in a form whose questions have distinct ids a session at a question stays there.
In the empty state, where no question is shown, it goes to the first question that is shown now, if there is one. -/
theorem more_answers_show_more (form : Form) :
    (∀ A B : Answers, A.Within B form.questions →
      (∀ (q : Question) (position : Option Nat), q.isVisibleAt position A form.questions = true →
        q.isVisibleAt position B form.questions = true) ∧
      ∀ page : SuccessPage, page.isVisible A form.questions = true → page.isVisible B form.questions = true) ∧
    ∀ (A : Answers) (currentId : Option Text) (submitted : Bool) (ops : List Session.Op) (id : Text) (option : Json),
      let s := (Session.start form A currentId submitted).run ops
      let t := s.toggle id option
      (s.answers.given? id = none ∨ ∃ items, s.answers.given? id = some (.arr items)) →
      Answers.isSelected option (Answers.selection (s.answers.get? id)) = false →
      (∀ (i : Nat) (q : Question), form.questions[i]? = some q →
        q.isVisibleAt (some i) s.answers form.questions = true →
        q.isVisibleAt (some i) t.answers form.questions = true) ∧
      s.activeIds.Sublist t.activeIds ∧
      ((questionIds form.questions).Nodup →
        (∀ i, s.current? = some i → t.current? = some i) ∧
        (s.current? = none → s.activeIds = [] ∧
          t.current? = (visibleFlags form.questions t.answers).findIdx? fun visible => visible)) := by
  refine ⟨fun A B h => ⟨fun q position => Question.isVisibleAt_mono fun c => h.holds,
    fun page => conditionsHold_mono fun c => h.holds⟩, ?_⟩
  intro A currentId submitted ops id option s t hlist hnew
  have hin : s.InStep := (Session.inStep_start form A currentId submitted).run ops
  have hform : s.form = form := by simp [s]
  rcases s.withAnswers_eq (s.answers.toggle id option) with ⟨c, hc⟩
  have ht : t = s.withAnswers (s.answers.toggle id option) := rfl
  have hanswers : t.answers = s.answers.toggle id option := by simp [ht, hc]
  have hactive : t.activeIds = activeIds form.questions t.answers := by
    rw [hanswers, ← hform]
    simp [ht, hc]
  -- all the rest follows from the conditions: one that held still holds after the option is added
  have hholds : ∀ c : Condition,
      c.holds s.answers form.questions = true → c.holds t.answers form.questions = true := by
    intro c
    rw [hanswers]
    exact Answers.holds_toggle hlist hnew
  refine ⟨fun i q _ => Question.isVisibleAt_mono hholds, ?_, ?_⟩
  · rw [hactive, hin.activeIds, hform]
    exact activeIds_sublist_of_holds hholds
  · rw [hanswers] at hholds ⊢
    rw [← hform] at hholds ⊢
    exact fun hids => hin.current?_withAnswers_of_holds hids hholds

/-- A choice by itself is among several, a text is the same, and a question has no answer in the first place; later an
option is added to an answer in front of the current question, which shows a question between the two. -/
theorem more_answers_show_more_between :
    let form : Form := {
      title := ""
      description := ""
      questions := [.bare "a" (.multipleChoice []) [] .all, .bare "b" .textInput [⟨none, "a", ["y"]⟩] .all,
        .bare "c" .textInput [⟨none, "a", ["x", "z"]⟩] .any]
      settings := .standard }
    let A : Answers := [("a", .str "x"), ("c", .str "t")]
    let B : Answers := [("c", .str "t"), ("b", .bool true), ("a", .arr [.str "y", .str "x"])]
    let page : SuccessPage := ⟨"p", "", "/done", [⟨none, "a", ["x"]⟩, ⟨none, "c", ["t"]⟩], .all⟩
    let s := (Session.start form [] none false).run [.toggle "a" "x", .next]
    let t := s.toggle "a" (.str "y")
    A.Within B form.questions ∧ page.isVisible A form.questions = true ∧ page.isVisible B form.questions = true ∧
    s.activeIds = ["a", "c"] ∧ s.current? = some 2 ∧ t.activeIds = ["a", "b", "c"] ∧ t.current? = some 2 := by
  intro form A B page s t
  have hids : (questionIds form.questions).Nodup := by decide
  -- A text is within a list that holds it, as the answer of `a` shows.
  have hwithin : A.Within B form.questions := by
    intro id hid
    simp only [questionIds, List.map_cons, List.map_nil, form, List.mem_cons, List.not_mem_nil, or_false] at hid
    rcases hid with rfl | rfl | rfl
    · refine .inr (.inr ⟨_, rfl, rfl, fun x hx => ⟨x, ?_, .inl rfl⟩⟩)
      rw [List.mem_singleton.mp hx]
      exact List.mem_cons_of_mem _ List.mem_cons_self
    · exact .inl rfl
    · exact .inr (.inl ⟨_, _, rfl, rfl, .inl rfl⟩)
  have hpage : page.isVisible A form.questions = true := by decide
  have hcurrent : s.current? = some 2 := by decide
  have hlist : s.answers.given? "a" = none ∨ ∃ items, s.answers.given? "a" = some (.arr items) :=
    .inr ⟨[.str "x"], by decide⟩
  have hmore := more_answers_show_more form
  have hadded := hmore.2 [] none false [.toggle "a" "x", .next] "a" (.str "y") hlist (by decide)
  exact ⟨hwithin, hpage, (hmore.1 A B hwithin).2 page hpage, by decide, hcurrent, by decide,
    (hadded.2.2 hids).1 2 hcurrent⟩

/-- A session without a question does move: the first question refers to itself and is never shown, but an option
that is added to its answer shows the second one, and the session, which was nowhere, is there. -/
theorem option_leads_out_of_empty_state :
    let form : Form := {
      title := ""
      description := ""
      questions := [.bare "a" (.multipleChoice []) [⟨none, "a", ["x"]⟩] .all,
        .bare "b" .textInput [⟨none, "a", ["x"]⟩] .all]
      settings := .standard }
    let s := Session.start form [] none false
    let t := s.toggle "a" (.str "x")
    (questionIds form.questions).Nodup ∧ s.answers.given? "a" = none ∧
    Answers.isSelected (.str "x") (Answers.selection (s.answers.get? "a")) = false ∧
    s.current? = none ∧ t.current? = some 1 ∧ t.current? ≠ s.current? := by
  decide

end Questionnaire
