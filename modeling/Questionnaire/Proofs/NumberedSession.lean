import Questionnaire.Proofs.Branching
import Questionnaire.Proofs.Recording
import Questionnaire.Proofs.SessionInvariant

/-!
# Numbering preserves sessions

A respondent who fills in the numbered form, giving the renamed answers, goes through the same positions
as one who fills in the form itself. The two sessions are at the same position with the same answers up
to their names. A step keeps this so, since all that it looks at is the same in both: which positions are
shown, whether the current question is answered, and where the submission leads.

* `Session.Numbers`: two sessions in step, and `Session.Numbers.perform` that they stay so.
* `Session.SeenAlike`: all that can be seen of two sessions is the same up to names.
* `numbering_preserves_sessions`: runs of any length.
-/

namespace Questionnaire

namespace Session

/-! ## Sessions under the old and the new names -/

/-- A step under the new names. -/
def Op.numbered (m : IdMap) : Op → Op
  | .setAnswer id value => .setAnswer (m.questions.apply id) ((m.choicesOf id).renameAnswer value)
  | .toggle id option => .toggle (m.questions.apply id) ((m.choicesOf id).apply option)
  | .next => .next
  | .back => .back
  | .reset => .reset

/-- Steps that record or toggle nothing but what the form allows. -/
def Op.Allowed (form : Form) : Op → Prop
  | .setAnswer id value => form.AllowsAnswer id value
  | .toggle id option => form.AllowsOption id option
  | .next | .back | .reset => True

/-- What can be seen of two sessions is the same up to names. -/
structure SeenAlike [Stack] (m : IdMap) (s t : Session) : Prop where
  answers : t.answers = s.answers.numbered m
  activeIds : t.activeIds = s.activeIds.map m.questions.apply
  currentId : t.question?.map (·.id) = (s.question?.map (·.id)).map m.questions.apply
  current : t.current? = s.current?
  submitted : t.submitted = s.submitted
  progress : t.progress = s.progress
  isLast : t.isLast = s.isLast
  canGoBack : t.canGoBack = s.canGoBack
  canAdvance : t.canAdvance = s.canAdvance
  redirect : t.redirect = s.redirect

/-- Two sessions in step: the second fills in the numbered form of the first. -/
structure Numbers (form : Form) (s t : Session) : Prop where
  source : s.form = form
  target : t.form = form.renamed
  collects : form.Collects s.answers
  answers : t.answers = s.answers.numbered form.idMap
  /-- Both hold the sequence of their answers. -/
  shown : s.activeIds = Questionnaire.activeIds form.questions s.answers
  shownRenamed : t.activeIds = Questionnaire.activeIds form.renamed.questions t.answers
  current : t.current? = s.current?
  submitted : t.submitted = s.submitted

end Session

/-! ## Distinct ids -/

/-- A form whose questions have distinct ids and whose choices have some id, and which can be numbered. -/
structure Form.Numberable (form : Form) : Prop where
  distinct : (questionIds form.questions).Nodup
  named : ∀ q ∈ form.questions, [] ∉ q.choiceIds
  /-- No reference clashes, so that numbering succeeds. -/
  apart : ∀ c ∈ form.conditions, ¬ form.idMap.Clashes c

variable {form : Form}

/-- Each id is found where it stands. -/
theorem Form.Numberable.indexOf? (hform : form.Numberable) {k : Nat} {q : Question}
    (hq : form.questions[k]? = some q) : indexOf? form.questions q.id = some k :=
  indexOf?_of_nodup hform.distinct hq

/-- So its new name is that of its position. -/
theorem Form.Numberable.apply_id (hform : form.Numberable) {k : Nat} {q : Question}
    (hq : form.questions[k]? = some q) : form.idMap.questions.apply q.id = questionName (k + 1) := by
  have hk := hform.indexOf? hq
  rw [indexOf?_eq_idxOf?] at hk
  rw [Form.idMap_questions, Renaming.apply_byPosition_of_idxOf? _ _ hk]

/-- A renamed id is found at the place where the id itself is found. -/
theorem Form.indexOf?_renamed_of_mem {id : Text} (hid : id ∈ questionIds form.questions) :
    Questionnaire.indexOf? form.renamed.questions (form.idMap.questions.apply id) =
      Questionnaire.indexOf? form.questions id := by
  cases hk : Questionnaire.indexOf? form.questions id with
  | some k => exact Form.indexOf?_renamed_apply hk
  | none =>
    rw [indexOf?_eq_idxOf?, idxOf?_eq_none_iff] at hk
    exact absurd hid hk

/-- What is shown of the renamed form are the renamed ids of what is shown of the form. -/
theorem Form.Numberable.activeIds_renamed (hform : form.Numberable) {A : Answers} (hA : form.Accepts A) :
    activeIds form.renamed.questions (A.numbered form.idMap) =
      (activeIds form.questions A).map form.idMap.questions.apply := by
  have hshown := forall₂_activeQuestions form.forall₂_renamed_questions (hA.visibleFlags_renamed hform.apart)
  have hids : List.Forall₂ (fun q r => r.id = form.idMap.questions.apply q.id)
      (activeQuestions form.questions A)
      (activeQuestions form.renamed.questions (A.numbered form.idMap)) := by
    apply hshown.imp
    rintro q r ⟨k, hq, hr⟩
    rw [Form.getElem?_renamed_questions, hq] at hr
    obtain rfl := Option.some.inj hr
    exact (hform.apply_id hq).symm
  rw [activeIds, activeIds, List.map_map, ← List.forall₂_eq_eq_eq, List.forall₂_map_left_iff,
    List.forall₂_map_right_iff]
  exact hids.flip

/-! ## Two sessions in step -/

namespace Session.Numbers

variable {s t : Session} (h : Numbers form s t)

include h

/-- Active questions are questions of the form. -/
theorem mem_questionIds {id : Text} (hid : id ∈ s.activeIds) : id ∈ questionIds form.questions := by
  rw [h.shown] at hid
  exact (activeIds_sublist _ _).subset hid

/-- Both are at no question, or at the same one. -/
theorem standing_cases : (s.standing? = none ∧ t.standing? = none) ∨
    ∃ k q, form.questions[k]? = some q ∧ s.standing? = some q ∧
      t.standing? = some (form.idMap.renamedQuestion q (k + 1)) := by
  unfold Session.standing?
  rw [h.source, h.target, h.current]
  cases s.current? with
  | none => exact .inl ⟨rfl, rfl⟩
  | some k =>
    rw [Option.bind_some, Option.bind_some, Form.getElem?_renamed_questions]
    cases hq : form.questions[k]? with
    | none => exact .inl ⟨rfl, rfl⟩
    | some q => exact .inr ⟨k, q, hq, rfl, rfl⟩

/-- Both sessions stand at no question, or at questions in the same place. -/
theorem question_cases : (s.question? = none ∧ t.question? = none) ∨
    ∃ k q, form.questions[k]? = some q ∧ s.question? = some q ∧
      t.question? = some (form.idMap.renamedQuestion q (k + 1)) := by
  unfold Session.question?
  rw [h.submitted]
  cases s.submitted with
  | true => exact .inl ⟨rfl, rfl⟩
  | false => exact h.standing_cases

/-- Moving both to one place keeps what they have in common. -/
theorem moved {c d : Option Nat} (hsame : d = c) :
    Numbers form { s with current? := c } { t with current? := d } :=
  { h with current := hsame }

/-- Answers that correspond to each other may be recorded in both. -/
theorem recorded {A B : Answers} (hA : form.Collects A) (hB : B = A.numbered form.idMap) :
    Numbers form (recompute { s with answers := A }) (recompute { t with answers := B }) :=
  { h with
    collects := hA
    answers := hB
    shown := congrArg (fun f : Form => Questionnaire.activeIds f.questions A) h.source
    shownRenamed := congrArg (fun f : Form => Questionnaire.activeIds f.questions B) h.target }

/-- Both may be submitted. -/
theorem submit : Numbers form { s with submitted := true } { t with submitted := true } :=
  { h with submitted := rfl }

variable (hform : form.Numberable)

include hform

/-- The active questions are the same, under their new ids. -/
theorem activeIds : t.activeIds = s.activeIds.map form.idMap.questions.apply := by
  rw [h.shown, h.shownRenamed, h.answers]
  exact hform.activeIds_renamed h.collects.accepts

/-- So both start at the same place. -/
theorem firstActive? : t.firstActive? = s.firstActive? := by
  unfold Session.firstActive?
  rw [h.activeIds hform, h.source, h.target, List.head?_map]
  cases hid : s.activeIds.head? with
  | none => rfl
  | some id => exact Form.indexOf?_renamed_of_mem (h.mem_questionIds (List.mem_of_head? hid))

/-- A question has the same place in the active sequence. -/
theorem idxOf?_activeIds {k : Nat} {q : Question} (hq : form.questions[k]? = some q) :
    t.activeIds.idxOf? (form.idMap.renamedQuestion q (k + 1)).id = s.activeIds.idxOf? q.id := by
  have hid : (form.idMap.renamedQuestion q (k + 1)).id = form.idMap.questions.apply q.id :=
    (hform.apply_id hq).symm
  have hclash := Form.not_clashes_of_mem_questionIds (mem_questionIds_of_getElem? hq)
  rw [hid, h.activeIds hform]
  apply idxOf?_map_of_inj
  intro id hactive hsame
  have hother := Form.not_clashes_of_mem_questionIds (h.mem_questionIds hactive)
  exact (form.injective_questions.apply_inj hother hclash).mp hsame

/-- A question is active in both or in none. -/
theorem mem_activeIds_iff {k : Nat} {q : Question} (hq : form.questions[k]? = some q) :
    (form.idMap.renamedQuestion q (k + 1)).id ∈ t.activeIds ↔ q.id ∈ s.activeIds := by
  rw [← not_iff_not, ← idxOf?_eq_none_iff, ← idxOf?_eq_none_iff, h.idxOf?_activeIds hform hq]

/-- Both stand at the same position among the active questions. -/
theorem position? : t.position? = s.position? := by
  unfold Session.position?
  rcases h.question_cases with ⟨hs, ht⟩ | ⟨k, q, hq, hs, ht⟩
  · rw [hs, ht]
    rfl
  · rw [hs, ht]
    exact h.idxOf?_activeIds hform hq

/-- There are as many active questions in both. -/
theorem length_activeIds : t.activeIds.length = s.activeIds.length := by
  rw [h.activeIds hform, List.length_map]

/-! ## What is seen -/

/-- The answer to the current question satisfies it in both or in neither. -/
theorem canAdvance : t.canAdvance = s.canAdvance := by
  unfold Session.canAdvance
  rw [h.submitted]
  rcases h.question_cases with ⟨hs, ht⟩ | ⟨k, q, hq, hs, ht⟩
  · rw [hs, ht]
  · have hk := hform.indexOf? hq
    have hclash := Form.not_clashes_of_mem_questionIds (mem_questionIds_of_getElem? hq)
    have hget : t.answers.get (form.idMap.questions.apply q.id) =
        (form.idMap.choicesOf q.id).renameAnswer (s.answers.get q.id) := by
      rw [Fields.get, Fields.get, h.answers, h.collects.accepts.keepsKeys.get?_numbered hclash]
      cases Fields.get? s.answers q.id <;> rfl
    have hanswered := Form.isAnsweredBy_renamed hk hq (hform.named q (List.mem_of_getElem? hq))
      (s.answers.get q.id)
    -- the answer is looked up under the name of the position
    rw [← hget, hform.apply_id hq] at hanswered
    rw [hs, ht]
    simp only
    rw [← hanswered]
    rfl

/-- Two sessions in step look alike. -/
theorem seenAlike [Stack] : SeenAlike form.idMap s t where
  answers := h.answers
  activeIds := h.activeIds hform
  currentId := by
    -- the id that is shown is that of the question at the place, renamed
    rcases h.question_cases with ⟨hs, ht⟩ | ⟨k, q, hq, hs, ht⟩
    · rw [hs, ht]
      rfl
    · rw [hs, ht]
      exact congrArg some (hform.apply_id hq).symm
  current := h.current
  submitted := h.submitted
  progress := by
    unfold Session.progress
    rw [h.submitted, h.position? hform, h.length_activeIds hform]
  isLast := by
    unfold Session.isLast
    rw [h.position? hform, h.length_activeIds hform]
  canGoBack := by
    unfold Session.canGoBack
    rw [h.position? hform]
  canAdvance := h.canAdvance hform
  redirect := by
    unfold Session.redirect
    rw [h.submitted, h.source, h.target, h.answers, h.collects.accepts.redirect_renamed hform.apart]

/-! ## Steps -/

/-- When answers change, both stay or move to the same place. -/
theorem settle : Numbers form s.settle t.settle := by
  unfold Session.settle
  rcases h.standing_cases with ⟨hs, ht⟩ | ⟨k, q, hq, hs, ht⟩
  · rw [hs, ht]
    exact h.moved (h.firstActive? hform)
  · rw [hs, ht]
    by_cases hmem : q.id ∈ s.activeIds
    · simp only [hmem, (h.mem_activeIds_iff hform hq).mpr hmem, if_true]
      exact h
    · -- the current question is hidden from both
      have hmem' := (h.mem_activeIds_iff hform hq).not.mpr hmem
      simp only [hmem, hmem', if_false]
      exact h.moved (h.firstActive? hform)

/-- An answer and its renamed form are recorded alike. -/
theorem setAnswer {id : Text} {v : Json} (hv : form.AllowsAnswer id v) :
    Numbers form (s.setAnswer id v)
      (t.setAnswer (form.idMap.questions.apply id) ((form.idMap.choicesOf id).renameAnswer v)) := by
  refine (h.recorded (h.collects.put hv) ?_).settle hform
  rw [h.collects.numbered_put hv, h.answers]

/-- So is an option that is selected, or no longer. -/
theorem toggle {id option : Text} (ho : form.AllowsOption id option) :
    Numbers form (s.toggle id (.str option))
      (t.toggle (form.idMap.questions.apply id) (.str ((form.idMap.choicesOf id).apply option))) := by
  refine (h.recorded (h.collects.toggle ho) ?_).settle hform
  rw [h.collects.numbered_toggle ho, h.answers]

/-- The question at a position among the active ones has the same place in both forms. -/
theorem moveTo (place : Nat) : Numbers form (s.moveTo place) (t.moveTo place) := by
  apply h.moved
  rw [h.activeIds hform, h.source, h.target, List.getElem?_map]
  cases hid : s.activeIds[place]? with
  | none => rfl
  | some id => exact Form.indexOf?_renamed_of_mem (h.mem_questionIds (List.mem_of_getElem? hid))

/-- Both go on alike, or stay alike. -/
theorem next : t.next.1 = s.next.1 ∧ Numbers form s.next.2 t.next.2 := by
  -- whether there is a question to go on from is the same in both
  have hnone : t.question?.isNone = s.question?.isNone := by
    rcases h.question_cases with ⟨hs, ht⟩ | ⟨k, q, -, hs, ht⟩
    · rw [hs, ht]
    · rw [hs, ht]
      rfl
  unfold Session.next
  rw [h.submitted, hnone, h.canAdvance hform, h.position? hform, h.length_activeIds hform]
  split
  · -- submitted before
    exact ⟨rfl, h⟩
  · split
    · -- at no question
      exact ⟨rfl, h.submit⟩
    · split
      · -- held up
        exact ⟨rfl, h⟩
      · dsimp only
        split
        · exact ⟨rfl, h.moveTo hform _⟩
        · exact ⟨rfl, h.submit⟩

/-- Both go back alike. -/
theorem back : t.back.1 = s.back.1 ∧ Numbers form s.back.2 t.back.2 := by
  unfold Session.back
  rw [h.position? hform]
  split
  · exact ⟨rfl, h.moveTo hform _⟩
  · exact ⟨rfl, h⟩

omit h in
/-- Both start alike from answers that correspond to each other. -/
theorem start {A : Answers} (hA : form.Collects A) :
    Numbers form (Session.start form A none false)
      (Session.start form.renamed (A.numbered form.idMap) none false) := by
  have h : Numbers form (recompute ⟨form, A, [], none, false⟩)
      (recompute ⟨form.renamed, A.numbered form.idMap, [], none, false⟩) :=
    ⟨rfl, rfl, hA, rfl, rfl, rfl, rfl, rfl⟩
  exact h.moved (h.firstActive? hform)

/-- Starting over leaves both without answers. -/
theorem reset : Numbers form s.reset t.reset := by
  unfold Session.reset
  rw [h.source, h.target]
  exact start hform form.collects_nil

/-- A step tells the same in both sessions and keeps them in step. -/
theorem perform {op : Op} (hop : op.Allowed form) :
    (t.perform (op.numbered form.idMap)).1 = (s.perform op).1 ∧
      Numbers form (s.perform op).2 (t.perform (op.numbered form.idMap)).2 := by
  cases op with
  | setAnswer id v => exact ⟨rfl, h.setAnswer hform hop⟩
  | toggle id option => exact ⟨rfl, h.toggle hform hop⟩
  | next => exact ⟨congrArg some (h.next hform).1, (h.next hform).2⟩
  | back => exact ⟨congrArg some (h.back hform).1, (h.back hform).2⟩
  | reset => exact ⟨rfl, h.reset hform⟩

/-- So does a run, step by step. -/
theorem trace [Stack] {ops : List Op} (hops : ∀ op ∈ ops, op.Allowed form) :
    List.Forall₂ (fun e e' => e'.1 = e.1 ∧ SeenAlike form.idMap e.2 e'.2) (s.trace ops)
      (t.trace (ops.map (Op.numbered form.idMap))) := by
  induction ops generalizing s t with
  | nil => exact .nil
  | cons op ops ih =>
    obtain ⟨htold, hnext⟩ := h.perform hform (hops op (by simp))
    refine .cons ⟨htold, hnext.seenAlike hform⟩ ?_
    exact ih hnext fun op hop => hops op (List.mem_cons_of_mem _ hop)

end Session.Numbers

/-- **Numbering preserves sessions.** A form with distinct ids of questions and no empty ids of choices is
numbered. Two respondents start, one with answers to the form and the other with these renamed in the
numbered form, and do the same things up to names, as long as answers to choice questions are selections
that do not depend on the numbering. Then moving on and back tells the same to both after every step, and
all that can be seen of their sessions is the same up to names. -/
theorem numbering_preserves_sessions [Stack] (form other : Form) (A : Answers) (ops : List Session.Op)
    (h : form.numbered = .ok other) (hids : (questionIds form.questions).Nodup)
    (hchoices : ∀ q ∈ form.questions, [] ∉ q.choiceIds) (hA : form.Collects A)
    (hops : ∀ op ∈ ops, op.Allowed form) :
    let m := form.idMap
    let s := Session.start form A none false
    let t := Session.start other (A.numbered m) none false
    Session.SeenAlike m s t ∧
    List.Forall₂ (fun e e' => e'.1 = e.1 ∧ Session.SeenAlike m e.2 e'.2) (s.trace ops)
      (t.trace (ops.map (Session.Op.numbered m))) := by
  intro m s t
  obtain ⟨hapart, rfl⟩ := (form.gives_numbered other).mp h
  have hform : form.Numberable := ⟨hids, hchoices, hapart⟩
  have hstart : Session.Numbers form s t := Session.Numbers.start hform hA
  exact ⟨hstart.seenAlike hform, hstart.trace hform hops⟩

/-- A run that is held up by a required question, toggles, loses the question it is at, goes back, submits
and starts over, in a form whose ids are the names of other questions and choices. -/
theorem numbering_preserves_sessions_among_lookalikes :
    let swapped : List Choice := [⟨"q_1_opt_2", "", none, none⟩, ⟨"q_1_opt_1", "", none, none⟩]
    let first : Question := { Question.bare "q_2" (.singleChoice swapped) [] .all with required := true }
    let second : Question := .bare "q_1" (.multipleChoice [⟨"a", "", none, none⟩, ⟨"b", "", none, none⟩])
      [⟨none, "q_2", ["q_1_opt_1"]⟩] .all
    let third : Question := .bare "c" .textInput [] .all
    let form : Form := {
      title := ""
      description := ""
      questions := [first, second, third]
      settings := .standard }
    let ops : List Session.Op := [.next, .setAnswer "q_2" (.str "q_1_opt_1"), .next, .toggle "q_1" "a",
      .toggle "q_1" "b", .toggle "q_1" "a", .setAnswer "q_2" (.str "q_1_opt_2"), .next, .back, .next, .next,
      .reset]
    let m := form.idMap
    let s := Session.start form [("c", .int 1)] none false
    let t := Session.start form.renamed [("q_3", .int 1)] none false
    let run := t.trace (ops.map (Session.Op.numbered m))
    let B : Answers := [("q_3", .int 1), ("q_1", .str "q_1_opt_1"), ("q_2", .arr [.str "q_2_opt_2"])]
    form.numbered = .ok form.renamed ∧ (questionIds form.questions).Nodup ∧
    run.map (·.1) = [some false, none, some true, none, none, none, none, some true, some true, some true,
      some true, none] ∧
    run.map (·.2.current?) = [some 0, some 0, some 1, some 1, some 1, some 1, some 0, some 2, some 0, some 2,
      some 2, some 0] ∧
    run[6]?.map (·.2.answers) = some B ∧
    List.Forall₂ (fun e e' => e'.1 = e.1 ∧ Session.SeenAlike m e.2 e'.2) (s.trace ops) run := by
  intro swapped first second third form ops m s t run B
  have hok : form.numbered = .ok form.renamed := by rfl
  have hids : (questionIds form.questions).Nodup := by decide
  have hA : form.Collects [("c", .int 1)] := by
    refine ⟨by decide, ?_⟩
    intro entry he
    obtain rfl := List.mem_singleton.mp he
    exact ⟨2, third, by decide, rfl, fun hchoice => by cases hchoice⟩
  -- both choices of the first question have the names that the other one is to get
  have hanswer : ∀ s, first.Admits 1 s → form.AllowsAnswer "q_2" (.str s) := by
    intro s hs
    refine ⟨0, first, by decide, rfl, fun _ => .inr ?_⟩
    intro v hv
    exact ⟨s, List.mem_singleton.mp hv, hs⟩
  have hoption : ∀ o, o ∈ second.choiceIds → form.AllowsOption "q_1" o := by
    intro o ho
    exact ⟨1, second, by decide, rfl, ho⟩
  have hops : ∀ op ∈ ops, op.Allowed form := by
    simp only [ops, List.forall_mem_cons]
    exact ⟨trivial, hanswer _ (by decide), trivial, hoption _ (by decide), hoption _ (by decide),
      hoption _ (by decide), hanswer _ (by decide), trivial, trivial, trivial, trivial, trivial, by simp⟩
  exact ⟨hok, hids, by decide, by decide, by decide,
    (numbering_preserves_sessions form form.renamed [("c", .int 1)] ops hok hids (by decide) hA hops).2⟩

end Questionnaire
