import Mathlib.Algebra.Order.Field.Rat
import Mathlib.Algebra.Order.Field.Basic
import Mathlib.Data.Nat.Cast.Order.Ring
import Questionnaire.Proofs.ActiveSequence
import Questionnaire.Session

/-!
# What a session holds

A session holds its active sequence and its position beside the answers. Whatever a respondent does,
with any ids and values, both stay in step with the answers: the sequence is that of the present answers,
and the position is that of an active question, or there is none because nothing is shown. From this what
the session tells of itself can be read off: whether it can go on or back, whether it is at the end, and
how far it has come.

* `Session.Op`, `Session.perform`, `Session.run`, `Session.trace`: steps and runs of a session.
* `Session.InStep`: the sequence and the position fit the answers; `InStep.perform` that they keep to.
* `InStep.question_cases`: a session in step has submitted, shows nothing, or is at a question
  (`Session.At`); `InStep.next_cases` and `InStep.back_cases` for what its moves do.
* `session_keeps_in_step`: runs of any length from any start.
-/

namespace Questionnaire

namespace Session

/-! ## Runs -/

/-- What a respondent can do. -/
inductive Op where
  | setAnswer (id : Text) (value : Json)
  | toggle (id option : Text)
  | next
  | back
  | reset

/-- The session after it, and what moves on and back tell. -/
def perform (s : Session) : Op → Option Bool × Session
  | .setAnswer id value => (none, s.setAnswer id value)
  | .toggle id option => (none, s.toggle id (.str option))
  | .next => (some s.next.1, s.next.2)
  | .back => (some s.back.1, s.back.2)
  | .reset => (none, s.reset)

/-- What is told and the session, after each step of a run. -/
def trace (s : Session) : List Op → List (Option Bool × Session)
  | [] => []
  | op :: ops => s.perform op :: (s.perform op).2.trace ops

/-- The session after a run. -/
def run (s : Session) : List Op → Session
  | [] => s
  | op :: ops => (s.perform op).2.run ops

/-- A run is a step and then a run, so what every step keeps is kept by every run. -/
theorem run_induction {P : Session → Prop} (hstep : ∀ s op, P s → P (s.perform op).2) {s : Session}
    (hs : P s) (ops : List Op) : P (s.run ops) := by
  induction ops generalizing s with
  | nil => exact hs
  | cons op ops ih => exact ih (hstep s op hs)

/-! ## What a step leaves as it is -/

/-- Settling changes nothing but the position. -/
theorem settle_eq (s : Session) : ∃ c, s.settle = { s with current? := c } := by
  unfold settle
  split
  · split
    · exact ⟨s.current?, rfl⟩
    · exact ⟨s.firstActive?, rfl⟩
  · exact ⟨s.firstActive?, rfl⟩

/-- New answers change nothing but the answers, what is active, and where the session stands. -/
theorem withAnswers_eq (s : Session) (A : Answers) :
    ∃ c, s.withAnswers A = { s.recompute with
      answers := A, activeIds := Questionnaire.activeIds s.form.questions A, current? := c } :=
  settle_eq _

/-- A start differs from one elsewhere in nothing but the position. -/
theorem start_eq (form : Form) (A : Answers) (currentId : Option Text) (submitted : Bool) :
    ∃ c, start form A currentId submitted =
      ⟨form, A, Questionnaire.activeIds form.questions A, c, submitted⟩ := by
  unfold start
  cases currentId with
  | none => exact ⟨_, rfl⟩
  | some id =>
    dsimp only
    split
    · exact ⟨_, rfl⟩
    · exact ⟨_, rfl⟩

/-- A session never leaves its form: not at the start, nor by any of its operations. -/
@[simp] theorem form_start (form : Form) (A : Answers) (currentId : Option Text) (submitted : Bool) :
    (start form A currentId submitted).form = form := by
  obtain ⟨c, h⟩ := start_eq form A currentId submitted
  rw [h]

@[simp] theorem form_withAnswers (s : Session) (A : Answers) : (s.withAnswers A).form = s.form := by
  obtain ⟨c, h⟩ := s.withAnswers_eq A
  rw [h]
  rfl

@[simp] theorem answers_moveTo (s : Session) (place : Nat) : (s.moveTo place).answers = s.answers := rfl

@[simp] theorem activeIds_moveTo (s : Session) (place : Nat) : (s.moveTo place).activeIds = s.activeIds := rfl

/-- Going on stays, moves to a place of the active sequence, or submits. -/
theorem next_cases (s : Session) :
    (s.submitted = true ∧ s.next = (false, s)) ∨
    (s.submitted = false ∧ s.question? = none ∧ s.next = (true, { s with submitted := true })) ∨
    (s.submitted = false ∧ s.question? ≠ none ∧ s.canAdvance = false ∧ s.next = (false, s)) ∨
    (s.submitted = false ∧ s.question? ≠ none ∧ s.canAdvance = true ∧
      ∃ place, place = (s.position?.map (· + 1)).getD 0 ∧
        (place < s.activeIds.length ∧ s.next = (true, s.moveTo place) ∨
          s.activeIds.length ≤ place ∧ s.next = (true, { s with submitted := true }))) := by
  unfold next
  -- in the order of the checks: submitted, no question, not answered, and a place to go to or none
  cases hsub : s.submitted with
  | true => simp
  | false =>
    cases hq : s.question? with
    | none => simp
    | some q =>
      cases hadvance : s.canAdvance with
      | false => simp
      | true =>
        by_cases hplace : (s.position?.map (· + 1)).getD 0 < s.activeIds.length
        · simp [hplace]
        · simp [hplace, Nat.le_of_not_lt hplace]

/-- Going back moves one place, or stays. -/
theorem back_cases (s : Session) :
    (∃ p, s.position? = some (p + 1) ∧ s.back = (true, s.moveTo p)) ∨
    (s.position? = none ∨ s.position? = some 0) ∧ s.back = (false, s) := by
  unfold back
  rcases s.position? with _ | _ | p
  · simp
  · simp
  · simp

@[simp] theorem form_next (s : Session) : s.next.2.form = s.form := by
  rcases s.next_cases with ⟨-, h⟩ | ⟨-, -, h⟩ | ⟨-, -, -, h⟩ | ⟨-, -, -, place, -, ⟨-, h⟩ | ⟨-, h⟩⟩
  all_goals simp [h, moveTo]

@[simp] theorem form_back (s : Session) : s.back.2.form = s.form := by
  rcases s.back_cases with ⟨p, -, h⟩ | ⟨-, h⟩
  all_goals simp [h, moveTo]

@[simp] theorem form_perform (s : Session) (op : Op) : (s.perform op).2.form = s.form := by
  cases op with
  | setAnswer id v => exact s.form_withAnswers _
  | toggle id option => exact s.form_withAnswers _
  | next => exact s.form_next
  | back => exact s.form_back
  | reset => exact form_start s.form [] none false

@[simp] theorem form_run (s : Session) (ops : List Op) : (s.run ops).form = s.form :=
  run_induction (P := fun t => t.form = s.form) (fun t op ht => (t.form_perform op).trans ht) rfl ops

/-! ## The invariant -/

/-- The active sequence is that of the answers, and the position is that of an active question, or there is
none because nothing is shown. -/
structure InStep (s : Session) : Prop where
  activeIds : s.activeIds = Questionnaire.activeIds s.form.questions s.answers
  placed : s.activeIds = [] ∧ s.current? = none ∨
    ∃ id ∈ s.activeIds, s.current? = indexOf? s.form.questions id

variable {s : Session}

/-- At the first active question a session is placed. -/
theorem placed_firstActive? (s : Session) :
    s.activeIds = [] ∧ s.firstActive? = none ∨
      ∃ id ∈ s.activeIds, s.firstActive? = indexOf? s.form.questions id := by
  unfold firstActive?
  cases s.activeIds with
  | nil => exact .inl ⟨rfl, rfl⟩
  | cons id ids => exact .inr ⟨id, by simp, rfl⟩

/-- A session starts in step, wherever it is asked to start. -/
theorem inStep_start (form : Form) (A : Answers) (currentId : Option Text) (submitted : Bool) :
    (start form A currentId submitted).InStep := by
  unfold start
  cases currentId with
  | none => exact ⟨rfl, placed_firstActive? _⟩
  | some id =>
    dsimp only
    split
    · next hactive => exact ⟨rfl, .inr ⟨id, hactive, rfl⟩⟩
    · exact ⟨rfl, placed_firstActive? _⟩

/-- The session is at a question: where it stands in the form, and its place in the active sequence. -/
structure At (s : Session) (i : Nat) (q : Question) (p : Nat) : Prop where
  submitted : s.submitted = false
  current : s.current? = some i
  inForm : s.form.questions[i]? = some q
  question : s.question? = some q
  first : indexOf? s.form.questions q.id = some i
  position : s.position? = some p
  place : s.activeIds[p]? = some q.id

/-- The position is one of the active questions. -/
theorem At.lt_length {i p : Nat} {q : Question} (h : s.At i q p) : p < s.activeIds.length :=
  (List.getElem?_eq_some_iff.mp h.place).1

/-- The place is the first that the id of the question has. -/
theorem At.firstPlace {i p : Nat} {q : Question} (h : s.At i q p) : s.activeIds.idxOf? q.id = some p := by
  have hposition := h.position
  unfold position? at hposition
  rwa [h.question] at hposition

/-- The question that is stood at is the first with its id. -/
theorem At.find? {i p : Nat} {q : Question} (h : s.At i q p) :
    Questionnaire.find? s.form.questions q.id = some q := by
  rw [find?_eq_bind_indexOf?, h.first, Option.bind_some, h.inForm]

/-- Who stands at a question stands at an active one. -/
theorem At.activeIds_ne_nil {i p : Nat} {q : Question} (h : s.At i q p) : s.activeIds ≠ [] :=
  List.ne_nil_of_length_pos (Nat.lt_of_le_of_lt (Nat.zero_le p) h.lt_length)

namespace InStep

/-- Every active id is found in the form. -/
theorem exists_indexOf? (h : s.InStep) {id : Text} (hid : id ∈ s.activeIds) :
    ∃ i, indexOf? s.form.questions id = some i := by
  rw [h.activeIds] at hid
  exact exists_indexOf?_of_mem_activeIds hid

/-- A session in step is at no question, since none is shown, or at the first with an id that is shown. -/
theorem standing_cases (h : s.InStep) :
    (s.activeIds = [] ∧ s.current? = none ∧ s.standing? = none) ∨
    ∃ i q, s.current? = some i ∧ s.form.questions[i]? = some q ∧ s.standing? = some q ∧
      q.id ∈ s.activeIds ∧ indexOf? s.form.questions q.id = some i := by
  unfold standing?
  rcases h.placed with ⟨hnone, hcurrent⟩ | ⟨id, hid, hcurrent⟩
  · left
    rw [hcurrent]
    exact ⟨hnone, rfl, rfl⟩
  · right
    obtain ⟨i, hi⟩ := h.exists_indexOf? hid
    obtain ⟨q, hq, rfl, -⟩ := indexOf?_eq_some_iff.mp hi
    rw [hcurrent, hi]
    exact ⟨i, q, rfl, hq, hq, hid, hi⟩

/-- A session in step has submitted, shows nothing, or is at a question. -/
theorem question_cases (h : s.InStep) :
    (s.submitted = true ∧ s.question? = none ∧ s.position? = none) ∨
    (s.submitted = false ∧ s.activeIds = [] ∧ s.question? = none ∧ s.position? = none) ∨
    ∃ i q p, s.At i q p := by
  cases hsub : s.submitted with
  | true => exact .inl (by simp [position?, question?, hsub])
  | false =>
    right
    have hquestion : s.question? = s.standing? := by simp [question?, hsub]
    -- in step, the place stood at is that of an active question, if there is one
    rcases h.standing_cases with ⟨hnone, -, hstanding⟩ | ⟨i, q, hcurrent, hq, hstanding, hactive, hi⟩
    · left
      simp [position?, hquestion, hstanding, hnone]
    · right
      rw [hstanding] at hquestion
      cases hp : s.activeIds.idxOf? q.id with
      | none => exact absurd hactive (idxOf?_eq_none_iff.mp hp)
      | some p =>
        refine ⟨i, q, p, hsub, hcurrent, hq, hquestion, hi, ?_, getElem?_of_idxOf? hp⟩
        simp [position?, hquestion, hp]

/-- Going on from a question is held up, moves one place, or submits from the last. -/
theorem next_cases (h : s.InStep) :
    (s.submitted = true ∧ s.next = (false, s)) ∨
    (s.submitted = false ∧ s.activeIds = [] ∧ s.next = (true, { s with submitted := true })) ∨
    ∃ i q p, s.At i q p ∧
      (s.canAdvance = false ∧ s.next = (false, s) ∨
        s.canAdvance = true ∧ p + 1 < s.activeIds.length ∧ s.next = (true, s.moveTo (p + 1)) ∨
        s.canAdvance = true ∧ p + 1 = s.activeIds.length ∧ s.next = (true, { s with submitted := true })) := by
  rcases h.question_cases with ⟨hsub, -, -⟩ | ⟨hsub, hnone, hq, -⟩ | ⟨i, q, p, hat⟩
  · exact .inl ⟨hsub, by simp [Session.next, hsub]⟩
  · exact .inr (.inl ⟨hsub, hnone, by simp [Session.next, hsub, hq]⟩)
  · refine .inr (.inr ⟨i, q, p, hat, ?_⟩)
    rcases s.next_cases with ⟨hsub, -⟩ | ⟨-, hq, -⟩ | ⟨-, -, hadvance, hn⟩ | ⟨-, -, hadvance, place, hplace, hcase⟩
    · cases hsub.symm.trans hat.submitted
    · cases hq.symm.trans hat.question
    · exact .inl ⟨hadvance, hn⟩
    -- the position is known, so the place to go to is the one behind it
    · obtain rfl : place = p + 1 := by simpa [hat.position] using hplace
      rcases hcase with ⟨hlt, hn⟩ | ⟨hle, hn⟩
      · exact .inr (.inl ⟨hadvance, hlt, hn⟩)
      · have hlast := hat.lt_length
        exact .inr (.inr ⟨hadvance, by omega, hn⟩)

/-- Going back moves one place, or stays. -/
theorem back_cases (h : s.InStep) :
    (∃ i q p, s.At i q (p + 1) ∧ s.back = (true, s.moveTo p)) ∨ s.back = (false, s) := by
  rcases s.back_cases with ⟨p, hp, hb⟩ | ⟨-, hb⟩
  · rcases h.question_cases with ⟨-, -, hnone⟩ | ⟨-, -, -, hnone⟩ | ⟨i, q, p', hat⟩
    · cases hnone.symm.trans hp
    · cases hnone.symm.trans hp
    · obtain rfl : p' = p + 1 := Option.some.inj (hat.position.symm.trans hp)
      exact .inl ⟨i, q, p, hat, hb⟩
  · exact .inr hb

/-! ## Steps keep to it -/

/-- Settling finds a place if the sequence is that of the answers, whatever the place was among the first
questions of their ids. -/
theorem settle_of_recomputed {t : Session}
    (hactive : t.activeIds = Questionnaire.activeIds t.form.questions t.answers)
    (hfirst : ∀ q, t.standing? = some q → t.current? = indexOf? t.form.questions q.id) :
    t.settle.InStep := by
  unfold settle
  split
  · next q hq =>
    split
    · next hshown => exact ⟨hactive, .inr ⟨q.id, hshown, hfirst q hq⟩⟩
    · exact ⟨hactive, placed_firstActive? t⟩
  · exact ⟨hactive, placed_firstActive? t⟩

/-- New answers keep the session in step. -/
theorem withAnswers (h : s.InStep) (A : Answers) : (s.withAnswers A).InStep := by
  apply settle_of_recomputed
  · rfl
  · intro q hq
    rcases h.standing_cases with ⟨-, -, hnone⟩ | ⟨i, p, hcurrent, -, hp, -, hi⟩
    · cases hnone.symm.trans hq
    · obtain rfl : p = q := Option.some.inj (hp.symm.trans hq)
      exact hcurrent.trans hi.symm

/-- So does a move to the position of an active question. -/
theorem moveTo (h : s.InStep) {place : Nat} (hplace : place < s.activeIds.length) :
    (s.moveTo place).InStep := by
  refine ⟨h.activeIds, .inr ⟨s.activeIds[place], List.getElem_mem hplace, ?_⟩⟩
  unfold Session.moveTo
  rw [List.getElem?_eq_getElem hplace]
  rfl

/-- A session that moves to a place comes to the first question with the id there. -/
theorem at_moveTo (h : s.InStep) (hsub : s.submitted = false) {place : Nat}
    (hplace : place < s.activeIds.length) :
    ∃ i q p, (s.moveTo place).At i q p ∧ s.activeIds[place]? = some q.id := by
  have hget : s.activeIds[place]? = some s.activeIds[place] := List.getElem?_eq_getElem hplace
  have hmoved : (s.moveTo place).current? = indexOf? s.form.questions s.activeIds[place] := by
    simp [Session.moveTo, hget]
  rcases (h.moveTo hplace).question_cases with ⟨hsub', -⟩ | ⟨-, hnone, -⟩ | ⟨i, q, p, hat⟩
  · cases hsub.symm.trans hsub'
  · have hnil : s.activeIds = [] := hnone
    simp [hnil] at hplace
  · -- the question with the id at that place is the one that the session is at
    rcases indexOf?_eq_some_iff.mp (hmoved.symm.trans hat.current) with ⟨q', hi, hid, -⟩
    have hsame : q' = q := Option.some.inj (hi.symm.trans hat.inForm)
    refine ⟨i, q, p, hat, ?_⟩
    rw [hget, ← hid, hsame]

/-- Submitting moves nothing. -/
theorem submit (h : s.InStep) : { s with submitted := true }.InStep := ⟨h.activeIds, h.placed⟩

/-- Going on keeps the session in step, for it moves to an active question or submits. -/
theorem next (h : s.InStep) : s.next.2.InStep := by
  rcases h.next_cases with
    ⟨-, hn⟩ | ⟨-, -, hn⟩ | ⟨i, q, p, -, ⟨-, hn⟩ | ⟨-, hplace, hn⟩ | ⟨-, -, hn⟩⟩
  · rw [hn]
    exact h
  · rw [hn]
    exact h.submit
  · rw [hn]
    exact h
  · rw [hn]
    exact h.moveTo hplace
  · rw [hn]
    exact h.submit

/-- Going back moves to an active question, too. -/
theorem back (h : s.InStep) : s.back.2.InStep := by
  rcases h.back_cases with ⟨i, q, p, hat, hb⟩ | hb
  · rw [hb]
    exact h.moveTo (Nat.lt_of_succ_lt hat.lt_length)
  · rw [hb]
    exact h

/-- Every operation keeps the session in step. -/
theorem perform (h : s.InStep) (op : Op) : (s.perform op).2.InStep := by
  cases op with
  | setAnswer id v => exact h.withAnswers _
  | toggle id option => exact h.withAnswers _
  | next => exact h.next
  | back => exact h.back
  | reset => exact inStep_start s.form [] none false

/-- So does every sequence of operations. -/
theorem run (h : s.InStep) (ops : List Op) : (s.run ops).InStep :=
  run_induction (fun _ op h => h.perform op) h ops

end InStep

/-! ## What a session tells of itself -/

/-- Going on succeeds exactly if the session says that it can. -/
theorem next_tells_canAdvance (s : Session) : s.next.1 = s.canAdvance := by
  rcases s.next_cases with
    ⟨hsub, h⟩ | ⟨hsub, hq, h⟩ | ⟨-, -, hadvance, h⟩ | ⟨-, -, hadvance, place, -, ⟨-, h⟩ | ⟨-, h⟩⟩
  · simp [h, canAdvance, hsub]
  · simp [h, canAdvance, hsub, hq]
  · rw [h, hadvance]
  · rw [h, hadvance]
  · rw [h, hadvance]

/-- Going back succeeds exactly if the session says that it can. -/
theorem back_tells_canGoBack (s : Session) : s.back.1 = s.canGoBack := by
  unfold canGoBack
  rcases s.back_cases with ⟨p, hp, h⟩ | ⟨hp | hp, h⟩
  · simp [h, hp]
  · simp [h, hp]
  · simp [h, hp]

namespace InStep

/-- Going on submits from the last question and where nothing is shown. -/
theorem next_submits_iff (h : s.InStep) (htold : s.next.1 = true) :
    s.next.2.submitted = true ↔ s.isLast = true ∨ s.activeIds = [] := by
  rcases h.next_cases with
    ⟨-, hn⟩ | ⟨-, hnone, hn⟩ | ⟨i, q, p, hat, ⟨-, hn⟩ | ⟨-, hlt, hn⟩ | ⟨-, hlast, hn⟩⟩
  · simp [hn] at htold
  · simp [hn, hnone]
  · simp [hn] at htold
  · -- there is a place after the current one
    have hnotLast : p + 1 ≠ s.activeIds.length := Nat.ne_of_lt hlt
    simp [hn, Session.moveTo, isLast, hat.submitted, hat.position, hat.activeIds_ne_nil, hnotLast]
  · simp [hn, isLast, hat.position, hlast]

/-- The progress of a session in step: all of it, none, or the part of the active sequence that is done. -/
theorem progress_cases (h : s.InStep) :
    (s.submitted = true ∧ s.progress = 1) ∨
    (s.submitted = false ∧ s.activeIds = [] ∧ s.progress = 0) ∨
    (s.submitted = false ∧ s.activeIds ≠ [] ∧ ∃ p < s.activeIds.length, s.position? = some p ∧
      s.progress = ((p + 1 : Nat) : Rat) / (s.activeIds.length : Rat) ∧ 0 < s.progress ∧ s.progress ≤ 1) := by
  unfold progress
  rcases h.question_cases with ⟨hsub, -, -⟩ | ⟨hsub, hnone, -, hp⟩ | ⟨i, q, p, hat⟩
  · left
    simp [hsub]
  · right
    left
    simp [hsub, hnone, hp]
  · right
    right
    -- at a question, its place lies within the active sequence
    have hlength : (0 : Rat) < (s.activeIds.length : Rat) := by
      exact_mod_cast Nat.lt_of_le_of_lt (Nat.zero_le p) hat.lt_length
    have hdone : (0 : Rat) < ((p + 1 : Nat) : Rat) := by
      exact_mod_cast Nat.succ_pos p
    have hpart : ((p + 1 : Nat) : Rat) ≤ (s.activeIds.length : Rat) := by
      exact_mod_cast hat.lt_length
    refine ⟨hat.submitted, hat.activeIds_ne_nil, p, hat.lt_length, hat.position, ?_⟩
    simp only [hat.submitted, hat.position, Bool.false_eq_true, if_false]
    exact ⟨trivial, div_pos hdone hlength, (div_le_one hlength).mpr hpart⟩

end InStep
end Session

/-- **A session keeps in step with its answers**, from any start and through any run, with repeated ids and
arbitrary answers. The active sequence is that of the answers. There is no position exactly if nothing is
shown, and else it is the first of an id that is shown. What the session tells of itself comes true: it goes
on exactly if it can advance, and back exactly if it can go back; going on submits exactly from the last
question or where nothing is shown; and the progress is the part of the active sequence that is done. -/
theorem session_keeps_in_step (form : Form) (A : Answers) (currentId : Option Text) (submitted : Bool)
    (ops : List Session.Op) :
    let s := (Session.start form A currentId submitted).run ops
    s.activeIds = activeIds form.questions s.answers ∧
    (s.current? = none ↔ s.activeIds = []) ∧
    (∀ i, s.current? = some i → ∃ id ∈ s.activeIds, indexOf? form.questions id = some i) ∧
    s.next.1 = s.canAdvance ∧
    s.back.1 = s.canGoBack ∧
    (s.next.1 = true → (s.next.2.submitted = true ↔ s.isLast = true ∨ s.activeIds = [])) ∧
    (s.submitted = true → s.progress = 1) ∧
    (s.progress = 0 ↔ s.submitted = false ∧ s.activeIds = []) ∧
    (s.submitted = false → s.activeIds ≠ [] → ∃ p < s.activeIds.length, s.position? = some p ∧
      s.progress = ((p + 1 : Nat) : Rat) / (s.activeIds.length : Rat) ∧ 0 < s.progress ∧ s.progress ≤ 1) := by
  intro s
  have h : s.InStep := (Session.inStep_start form A currentId submitted).run ops
  have hform : s.form = form := by simp [s]
  have hactive := h.activeIds
  rw [hform] at hactive
  refine ⟨hactive, ?_, ?_, s.next_tells_canAdvance, s.back_tells_canGoBack, h.next_submits_iff, ?_⟩
  · rcases h.standing_cases with ⟨hnone, hcurrent, -⟩ | ⟨i, q, hcurrent, -, -, hshown, -⟩
    · simp [hnone, hcurrent]
    · simp [hcurrent, List.ne_nil_of_mem hshown]
  -- the place stood at is the first of an active id
  · intro i hi
    rcases h.standing_cases with ⟨-, hcurrent, -⟩ | ⟨k, q, hcurrent, -, -, hshown, hk⟩
    · cases hcurrent.symm.trans hi
    · obtain rfl : k = i := Option.some.inj (hcurrent.symm.trans hi)
      rw [hform] at hk
      exact ⟨q.id, hshown, hk⟩
  -- submitted, empty, or at a position of which the progress tells
  · rcases h.progress_cases with
      ⟨hsub, hone⟩ | ⟨hsub, hnone, hzero⟩ | ⟨hsub, hshown, p, hp, hplace, hpart, hpos, hle⟩
    · simp [hsub, hone]
    · simp [hsub, hnone, hzero]
    · refine ⟨by simp [hsub], ?_, fun _ _ => ⟨p, hp, hplace, hpart, hpos, hle⟩⟩
      simp [hpos.ne', hshown]

end Questionnaire
