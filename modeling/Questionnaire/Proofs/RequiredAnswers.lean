import Questionnaire.Proofs.NewAnswers

/-!
# Required questions are not passed

A respondent who answers only the question that is current passes no required question without an answer
that satisfies it, and does not submit without it either. Going on looks at the current question alone, so
this rests on an invariant of all questions in front of it. A new answer to the current question does not
touch the invariant: which questions stand in front of it, and whether it is shown itself, is decided by
answers in front of it.

* `Session.AnswersCurrent`: runs that answer only the question that is current.
* `Session.Passed`: the invariant; `Passed.perform` that a step keeps it.
* `required_questions_answered`: runs of any length.
-/

namespace Questionnaire

namespace Session

/-! ## Runs that answer what is current -/

/-- Does a step answer no question but the current one? -/
def Op.OnCurrent (s : Session) : Op → Prop
  | .setAnswer id _ | .toggle id _ => s.question?.map (·.id) = some id
  | .next | .back | .reset => True

instance (s : Session) : (op : Op) → Decidable (op.OnCurrent s)
  | .setAnswer id _ | .toggle id _ => inferInstanceAs (Decidable (s.question?.map (·.id) = some id))
  | .next | .back | .reset => inferInstanceAs (Decidable True)

/-- Does each step of a run answer no question but the one that is current then? -/
def AnswersCurrent (s : Session) : List Op → Prop
  | [] => True
  | op :: ops => op.OnCurrent s ∧ (s.perform op).2.AnswersCurrent ops

/-- Decided step by step. -/
def decAnswersCurrent (s : Session) : (ops : List Op) → Decidable (s.AnswersCurrent ops)
  | [] => inferInstanceAs (Decidable True)
  | op :: ops =>
    haveI := decAnswersCurrent (s.perform op).2 ops
    inferInstanceAs (Decidable (op.OnCurrent s ∧ (s.perform op).2.AnswersCurrent ops))

instance (s : Session) (ops : List Op) : Decidable (s.AnswersCurrent ops) := decAnswersCurrent s ops

/-! ## The invariant -/

/-- Do the answers satisfy every required question with one of the ids? -/
def Satisfies (s : Session) (ids : List Text) : Prop :=
  ∀ q ∈ s.form.questions, q.id ∈ ids → q.required = true → q.isAnsweredBy (s.answers.get q.id) = true

/-- Every required question is satisfied that stands in front of the current one, or is shown at all once
the session has submitted. -/
structure Passed (s : Session) : Prop where
  inFront : ∀ p, s.position? = some p → s.Satisfies (s.activeIds.take p)
  atEnd : s.submitted = true → s.Satisfies s.activeIds

variable {s : Session}

/-- Who has submitted stands nowhere. -/
theorem position?_of_submitted (hsub : s.submitted = true) : s.position? = none := by
  simp [position?, question?, hsub]

/-- After the submission all active questions count. -/
theorem passed_of_submitted (hsub : s.submitted = true) (h : s.Satisfies s.activeIds) : s.Passed where
  inFront p hp := by
    rw [position?_of_submitted hsub] at hp
    cases hp
  atEnd _ := h

/-- Before that, those in front of the position do. -/
theorem passed_of_position {p : Nat} (hsub : s.submitted = false) (hp : s.position? = some p)
    (h : s.Satisfies (s.activeIds.take p)) : s.Passed where
  inFront p' hp' := by
    obtain rfl : p = p' := Option.some.inj (hp.symm.trans hp')
    exact h
  atEnd hsub' := by
    rw [hsub] at hsub'
    cases hsub'

theorem satisfies_nil (s : Session) : s.Satisfies [] := fun _ _ hid => by cases hid

/-- Fewer questions ask for no more answers. -/
theorem Satisfies.mono {ids more : List Text} (h : s.Satisfies more) (hsub : ids ⊆ more) : s.Satisfies ids :=
  fun q hq hid => h q hq (hsub hid)

/-- Whoever can advance from a question has satisfied it. -/
theorem satisfies_of_canAdvance (hids : (questionIds s.form.questions).Nodup) {q : Question}
    (hq : s.question? = some q) (hmem : q ∈ s.form.questions) (hadvance : s.canAdvance = true) :
    s.Satisfies [q.id] := by
  intro p hp hid hrequired
  obtain rfl : p = q := List.inj_on_of_nodup_map hids hp hmem (List.mem_singleton.mp hid)
  unfold canAdvance at hadvance
  cases hsub : s.submitted with
  | true => simp [hsub] at hadvance
  | false => simpa [hsub, hq, hrequired] using hadvance

/-! ## The start -/

/-- A session at its first question, or with none, has passed nothing. -/
theorem passed_moveTo_zero (h : s.InStep) (hids : (questionIds s.form.questions).Nodup)
    (hsub : s.submitted = false) : (s.moveTo 0).Passed := by
  by_cases hplace : 0 < s.activeIds.length
  · exact passed_of_position hsub (h.position?_moveTo hids hsub hplace) (satisfies_nil _)
  · have hnil : s.activeIds = [] := List.eq_nil_of_length_eq_zero (by omega)
    constructor
    · intro p hp
      rw [activeIds_moveTo, hnil, List.take_nil]
      exact satisfies_nil _
    · intro hsub'
      cases hsub.symm.trans hsub'

/-- Starting leads to the first place. -/
theorem start_eq_moveTo_zero (form : Form) (A : Answers) :
    start form A none false = (start form A none false).moveTo 0 := by
  unfold start moveTo firstActive? recompute
  simp only [List.head?_eq_getElem?]

/-- At the start no question is in front. -/
theorem passed_start {form : Form} (hids : (questionIds form.questions).Nodup) (A : Answers) :
    (start form A none false).Passed := by
  rw [start_eq_moveTo_zero]
  apply passed_moveTo_zero (inStep_start form A none false)
  · rwa [form_start]
  · rfl

/-! ## A new answer to the current question -/

/-- A new answer to the current question leaves those in front of it as they were. -/
theorem Passed.withAnswers (h : s.Passed) (hin : s.InStep) (hids : (questionIds s.form.questions).Nodup)
    {q : Question} (hq : s.question? = some q) {B : Answers} (hAB : Answers.AgreeBut q.id s.answers B) :
    (s.withAnswers B).Passed := by
  rcases hin.question_cases with ⟨-, hnone, -⟩ | ⟨-, -, hnone, -⟩ | ⟨i, q', p, hat⟩
  · cases hnone.symm.trans hq
  · cases hnone.symm.trans hq
  obtain rfl : q' = q := Option.some.inj (hat.question.symm.trans hq)
  have hstanding : s.standing? = some q' := by
    unfold question? at hq
    simpa [hat.submitted] using hq
  -- by the new answers the question is shown again, at some place behind the same others
  have hold := hat.place
  rw [hin.activeIds] at hold
  have hshown := hAB.mem_activeIds hids hat.inForm (List.mem_of_getElem? hold)
  obtain ⟨l, hnew⟩ := List.mem_iff_getElem?.mp hshown
  rw [withAnswers_of_shown hstanding hshown]
  have hposition :
      { s with answers := B, activeIds := Questionnaire.activeIds s.form.questions B }.position? = some l :=
    position?_of_place (s := { s with answers := B, activeIds := Questionnaire.activeIds s.form.questions B })
      hq (Questionnaire.nodup_activeIds hids) hnew
  refine passed_of_position hat.submitted hposition ?_
  intro r hr hid hrequired
  rw [hAB.mem_take_activeIds_iff hids hat.inForm hold hnew, ← hin.activeIds] at hid
  have hne : r.id ≠ q'.id := ne_of_mem_take (hin.nodup_activeIds hids) hat.place hid
  have hanswered := h.inFront p hat.position r hr hid hrequired
  rw [← hAB.get hne] at hanswered
  exact hanswered

/-! ## Moves -/

/-- Whoever can go on from a question has satisfied all up to it. -/
theorem Passed.satisfies_upTo (h : s.Passed) (hids : (questionIds s.form.questions).Nodup) {i p : Nat}
    {q : Question} (hat : s.At i q p) (hadvance : s.canAdvance = true) :
    s.Satisfies (s.activeIds.take (p + 1)) := by
  intro r hr hid
  rw [List.take_add_one, hat.place, Option.toList_some, List.mem_append] at hid
  rcases hid with hid | hid
  · exact h.inFront p hat.position r hr hid
  · exact satisfies_of_canAdvance hids hat.question (List.mem_of_getElem? hat.inForm) hadvance r hr hid

/-- Going on passes the current question, which is answered if it has to be. -/
theorem Passed.next (h : s.Passed) (hin : s.InStep) (hids : (questionIds s.form.questions).Nodup) :
    s.next.2.Passed := by
  rcases hin.next_cases with
    ⟨-, hn⟩ | ⟨-, hnone, hn⟩ | ⟨i, q, p, hat, ⟨-, hn⟩ | ⟨hadvance, hlt, hn⟩ | ⟨hadvance, hlast, hn⟩⟩
  · rw [hn]
    exact h
  · -- where nothing is shown there is nothing to satisfy
    rw [hn]
    apply passed_of_submitted rfl
    have hnil : { s with submitted := true }.activeIds = [] := hnone
    rw [hnil]
    exact satisfies_nil _
  · rw [hn]
    exact h
  · rw [hn]
    exact passed_of_position hat.submitted (hin.position?_moveTo hids hat.submitted hlt)
      (h.satisfies_upTo hids hat hadvance)
  · -- all that is shown stands up to the last question
    have hall := h.satisfies_upTo hids hat hadvance
    rw [List.take_of_length_le (Nat.le_of_eq hlast.symm)] at hall
    rw [hn]
    exact passed_of_submitted rfl hall

/-- Going back leaves fewer questions in front. -/
theorem Passed.back (h : s.Passed) (hin : s.InStep) (hids : (questionIds s.form.questions).Nodup) :
    s.back.2.Passed := by
  rcases hin.back_cases with ⟨i, q, p, hat, hb⟩ | hb
  · have hplace : p < s.activeIds.length := Nat.lt_of_succ_lt hat.lt_length
    rw [hb]
    refine passed_of_position hat.submitted (hin.position?_moveTo hids hat.submitted hplace) ?_
    exact (h.inFront (p + 1) hat.position).mono (List.take_subset_take_left _ (Nat.le_succ p))
  · rw [hb]
    exact h

/-- So every operation on the current question keeps what has been passed answered. -/
theorem Passed.perform (h : s.Passed) (hin : s.InStep) (hids : (questionIds s.form.questions).Nodup)
    {op : Op} (hop : op.OnCurrent s) : (s.perform op).2.Passed := by
  cases op with
  | setAnswer id v =>
    obtain ⟨q, hq, rfl⟩ := Option.map_eq_some_iff.mp hop
    exact h.withAnswers hin hids hq (Answers.agreeBut_put s.answers q.id v)
  | toggle id option =>
    obtain ⟨q, hq, rfl⟩ := Option.map_eq_some_iff.mp hop
    exact h.withAnswers hin hids hq (Answers.agreeBut_toggle s.answers q.id (.str option))
  | next => exact h.next hin hids
  | back => exact h.back hin hids
  | reset => exact passed_start hids []

/-- So does every sequence of them. -/
theorem Passed.run (h : s.Passed) (hin : s.InStep) (hids : (questionIds s.form.questions).Nodup)
    {ops : List Op} (hops : s.AnswersCurrent ops) : (s.run ops).Passed := by
  induction ops generalizing s with
  | nil => exact h
  | cons op ops ih =>
    apply ih (h.perform hin hids hops.1) (hin.perform op) ?_ hops.2
    rwa [form_perform]

end Session

/-- **No required question is passed unanswered.** In a form whose questions have distinct ids, a respondent
starts with any answers, moves on and back, starts over, and answers only the question that is current, with
any value or option. Then every required question in front of the current one in the active sequence has an
answer that satisfies it, and once the respondent has submitted, so has every required question that is
shown. -/
theorem required_questions_answered (form : Form) (A : Answers) (ops : List Session.Op)
    (hids : (questionIds form.questions).Nodup)
    (hops : (Session.start form A none false).AnswersCurrent ops) :
    let s := (Session.start form A none false).run ops
    (∀ p, s.position? = some p → ∀ q ∈ form.questions, q.id ∈ s.activeIds.take p → q.required = true →
      q.isAnsweredBy (s.answers.get q.id) = true) ∧
    (s.submitted = true → ∀ q ∈ form.questions, q.id ∈ s.activeIds → q.required = true →
      q.isAnsweredBy (s.answers.get q.id) = true) := by
  intro s
  have hin := Session.inStep_start form A none false
  have hform : s.form = form := by simp [s]
  have h : s.Passed := (Session.passed_start hids A).run hin (by rwa [Session.form_start]) hops
  rw [← hform]
  exact ⟨h.inFront, h.atEnd⟩

/-- A run that is held up twice, passes over a required question that is hidden, goes back, and brings it up
by another answer to the question in front of it. -/
theorem required_questions_answered_when_brought_up :
    let first : Question := { Question.bare "a" .textInput [] .all with required := true }
    let second : Question :=
      { Question.bare "b" (.multipleChoice [⟨"x", "", none, none⟩]) [⟨none, "a", ["yes"]⟩] .all with
        required := true }
    let third : Question := .bare "c" .address [] .all
    let form : Form := {
      title := ""
      description := ""
      questions := [first, second, third]
      settings := .standard }
    let ops : List Session.Op := [.reset, .next, .setAnswer "a" (.str "no"), .next, .back,
      .setAnswer "a" (.str "yes"), .next, .next, .toggle "b" "x", .next, .next]
    let start := Session.start form [("b", .null)] none false
    let s := start.run ops
    (questionIds form.questions).Nodup ∧ start.AnswersCurrent ops ∧
    (start.trace ops).map (·.1) = [none, some false, none, some true, some true, none, some true, some false,
      none, some true, some true] ∧
    s.submitted = true ∧ s.activeIds = ["a", "b", "c"] ∧ first.isAnsweredBy (s.answers.get "a") = true ∧
    second.isAnsweredBy (s.answers.get "b") = true := by
  intro first second third form ops start s
  have hids : (questionIds form.questions).Nodup := by decide
  -- each answer is to the question that is current when it is given
  have hops : start.AnswersCurrent ops := by decide
  have hsub : s.submitted = true := by decide
  have hanswered := (required_questions_answered form [("b", .null)] ops hids hops).2 hsub
  exact ⟨hids, hops, by decide, hsub, by decide, hanswered first (by simp [form]) (by decide) rfl,
    hanswered second (by simp [form]) (by decide) rfl⟩

end Questionnaire
