import Questionnaire.Proofs.Moves

/-!
# A new answer to one question

Whether a question is shown is decided by answers in front of it. So where no id is repeated, a new answer
to a question changes nothing up to that question: the same is shown there, in the same order, and a session
that stands there stays. A session behind it stays if its question is still shown, and is else taken to the
first question that is.

* `Answers.AgreeBut`: answers that differ under one id.
* `Answers.AgreeBut.isVisibleAt`, `Answers.AgreeBut.activeIds_upTo`: what such answers show up to the question.
* `Session.current?_withAnswers`: where a session stands after its answers changed in any way.
* `Session.InStep.stays`: an answer to its question or to a later one leaves it there.
* `new_answer_moves_only_from_hidden`: in any state that can be reached.
-/

namespace Questionnaire

/-! ## Answers that differ under one id -/

namespace Answers

/-- Do answers agree under every id but one? -/
def AgreeBut (id : Text) (A B : Answers) : Prop := ∀ key, key ≠ id → B.get? key = A.get? key

/-- Writing an answer leaves the answers under other keys. -/
theorem agreeBut_put (A : Answers) (id : Text) (v : Json) : AgreeBut id A (A.put id v) := by
  intro key hne
  unfold put
  split
  · rw [Fields.get?_erase, if_neg hne]
  · rw [Fields.get?_set, if_neg hne]

/-- Toggling an option leaves the answers under other keys. -/
theorem agreeBut_toggle (A : Answers) (id : Text) (option : Json) : AgreeBut id A (A.toggle id option) := by
  intro key hne
  unfold toggle
  rw [Fields.get?_set, if_neg hne]

variable {id key : Text} {A B : Answers}

/-- What counts as given under another key is unchanged. -/
theorem AgreeBut.given? (h : AgreeBut id A B) (hne : key ≠ id) : B.given? key = A.given? key := by
  unfold Answers.given?
  rw [h key hne]

/-- What is read under another key is unchanged. -/
theorem AgreeBut.get (h : AgreeBut id A B) (hne : key ≠ id) : B.get key = A.get key := by
  unfold Fields.get
  rw [h key hne]

end Answers

section

variable {qs : List Question} {A B : Answers} {i : Nat} {q : Question} (hids : (questionIds qs).Nodup)
  (hq : qs[i]? = some q) (hAB : Answers.AgreeBut q.id A B)

include hids hq hAB

/-- An answer to a question decides neither about the question itself nor about those in front of it. -/
theorem Answers.AgreeBut.isVisibleAt {j : Nat} (hj : j ≤ i) (p : Question) :
    p.isVisibleAt (some j) B qs = p.isVisibleAt (some j) A qs := by
  apply p.isVisibleAt_congr rfl
  intro r hr
  rcases mem_take_iff_getElem?.mp hr with ⟨k, hkj, hk⟩
  apply hAB.given?
  intro hsame
  have hki : some k = some i := by
    rw [← indexOf?_of_nodup hids hk, ← indexOf?_of_nodup hids hq, hsame]
  have hki' : k = i := Option.some.inj hki
  omega

/-- So the question is shown as before. -/
theorem Answers.AgreeBut.mem_activeIds (hactive : q.id ∈ activeIds qs A) : q.id ∈ activeIds qs B := by
  rw [id_mem_activeIds_iff hids hq] at hactive ⊢
  rw [hAB.isVisibleAt hids hq (Nat.le_refl i), hactive]

/-- And the same stands in front of it in the active sequence. -/
theorem Answers.AgreeBut.mem_take_activeIds_iff {k l : Nat} (hk : (activeIds qs A)[k]? = some q.id)
    (hl : (activeIds qs B)[l]? = some q.id) (id : Text) :
    id ∈ (activeIds qs B).take l ↔ id ∈ (activeIds qs A).take k := by
  have hi := indexOf?_of_nodup hids hq
  rw [Questionnaire.mem_take_activeIds_iff hids hk hi, Questionnaire.mem_take_activeIds_iff hids hl hi]
  refine exists_congr fun j => exists_congr fun p => and_congr_right fun hji => ?_
  rw [hAB.isVisibleAt hids hq (by omega)]

/-- Up to the question itself the active sequence is the same, in the same order. -/
theorem Answers.AgreeBut.activeIds_upTo :
    (activeIds qs B).filter (· ∈ questionIds (qs.take (i + 1))) =
      (activeIds qs A).filter (· ∈ questionIds (qs.take (i + 1))) := by
  have hB := filter_mem_of_sublist (activeIds_sublist qs B) hids
  have hA := filter_mem_of_sublist (activeIds_sublist qs A) hids
  rw [← hB, ← hA, List.filter_filter, List.filter_filter]
  apply List.filter_congr
  intro id _
  by_cases hid : id ∈ questionIds (qs.take (i + 1))
  · -- what carries the id stands up to the question, and so is shown in both or in neither
    rcases List.mem_map.mp hid with ⟨p, hp, rfl⟩
    rcases mem_take_iff_getElem?.mp hp with ⟨k, hki, hk⟩
    have hsame : p.id ∈ activeIds qs B ↔ p.id ∈ activeIds qs A := by
      rw [id_mem_activeIds_iff hids hk, id_mem_activeIds_iff hids hk,
        hAB.isVisibleAt hids hq (by omega)]
    simp [hsame]
  · simp [hid]

end

/-! ## Where a session stands once its answers have changed -/

namespace Session

variable {s : Session}

/-- The current question stays if it is shown by the new answers. -/
theorem withAnswers_of_shown {q : Question} (hq : s.standing? = some q) {B : Answers}
    (hshown : q.id ∈ Questionnaire.activeIds s.form.questions B) :
    s.withAnswers B = { s with answers := B, activeIds := Questionnaire.activeIds s.form.questions B } := by
  have hq' : (recompute { s with answers := B }).standing? = some q := hq
  have hshown' : q.id ∈ (recompute { s with answers := B }).activeIds := hshown
  unfold withAnswers settle
  rw [hq']
  simp only [hshown', if_true]
  rfl

/-- Where it is hidden, or there is none, the first question that is shown takes its place. -/
theorem current?_withAnswers_of_hidden (hids : (questionIds s.form.questions).Nodup) {B : Answers}
    (hhidden : ∀ q, s.standing? = some q → q.id ∉ Questionnaire.activeIds s.form.questions B) :
    (s.withAnswers B).current? = (visibleFlags s.form.questions B).findIdx? fun visible => visible := by
  rw [← head?_activeIds_bind_indexOf? hids]
  unfold withAnswers settle
  cases hq : s.standing? with
  | none =>
    have hq' : (recompute { s with answers := B }).standing? = none := hq
    rw [hq']
    rfl
  | some q =>
    have hq' : (recompute { s with answers := B }).standing? = some q := hq
    have hnot : q.id ∉ (recompute { s with answers := B }).activeIds := hhidden q hq
    rw [hq']
    simp only [hnot, if_false]
    rfl

/-- A session stays at a question that is still shown, and else goes to the first that is. -/
theorem current?_withAnswers (hids : (questionIds s.form.questions).Nodup) (B : Answers) {i : Nat}
    {q : Question} (hi : s.current? = some i) (hq : s.form.questions[i]? = some q) :
    (s.withAnswers B).current? =
      if q.isVisibleAt (some i) B s.form.questions = true then some i
      else (visibleFlags s.form.questions B).findIdx? fun visible => visible := by
  have hstanding : s.standing? = some q := by
    unfold standing?
    rw [hi, Option.bind_some, hq]
  by_cases hshown : q.isVisibleAt (some i) B s.form.questions = true
  · rw [if_pos hshown, withAnswers_of_shown hstanding ((id_mem_activeIds_iff hids hq).mpr hshown)]
    exact hi
  · rw [if_neg hshown]
    apply current?_withAnswers_of_hidden hids
    intro p hp
    have hsame : p = q := Option.some.inj (hp.symm.trans hstanding)
    rw [hsame, id_mem_activeIds_iff hids hq]
    exact hshown

/-- It stays exactly at a question that is still shown. -/
theorem current?_withAnswers_iff (hids : (questionIds s.form.questions).Nodup) {B : Answers} {i : Nat}
    {q : Question} (hi : s.current? = some i) (hq : s.form.questions[i]? = some q) :
    (s.withAnswers B).current? = some i ↔ q.isVisibleAt (some i) B s.form.questions = true := by
  rw [current?_withAnswers hids B hi hq]
  constructor
  · intro hsame
    by_contra hhidden
    -- the first question that is shown is shown
    rw [if_neg hhidden, List.findIdx?_eq_some_iff_getElem] at hsame
    rcases hsame with ⟨_, hflag, -⟩
    rcases List.getElem?_eq_some_iff.mp (getElem?_visibleFlags hq) with ⟨_, hvalue⟩
    exact hhidden (hvalue.symm.trans hflag)
  · intro hshown
    rw [if_pos hshown]

/-- A new answer to the current question or to a later one leaves the session where it is. -/
theorem InStep.stays (h : s.InStep) (hids : (questionIds s.form.questions).Nodup) {i j : Nat} {q : Question}
    (hq : s.form.questions[j]? = some q) {B : Answers} (hAB : Answers.AgreeBut q.id s.answers B)
    (hi : s.current? = some i) (hij : i ≤ j) : (s.withAnswers B).current? = some i := by
  rcases h.shown hids hi with ⟨p, hp, hshown⟩
  rw [current?_withAnswers_iff hids hi hp, hAB.isVisibleAt hids hq hij, hshown]

/-! ## Steps that answer -/

/-- The question that a step answers, if it answers one. -/
def Op.answered? : Op → Option Text
  | .setAnswer id _ | .toggle id _ => some id
  | .next | .back | .reset => none

/-- A step that answers a question changes the answer to that question and settles. -/
theorem perform_of_answered (s : Session) {op : Op} {id : Text} (hop : op.answered? = some id) :
    ∃ B, Answers.AgreeBut id s.answers B ∧ (s.perform op).2 = s.withAnswers B := by
  cases op with
  | setAnswer key v =>
    have hkey : key = id := Option.some.inj hop
    rw [← hkey]
    exact ⟨_, Answers.agreeBut_put s.answers key v, rfl⟩
  | toggle key option =>
    have hkey : key = id := Option.some.inj hop
    rw [← hkey]
    exact ⟨_, Answers.agreeBut_toggle s.answers key (.str option), rfl⟩
  | next => cases hop
  | back => cases hop
  | reset => cases hop

end Session

/-- **A new answer moves a session only from a hidden question.** In a form whose questions have distinct
ids, and in any state that can be reached, a question is answered with any value, or an option of it is
toggled. Then the active sequence is the same up to that question, in the same order. A session at that
question or in front of it stays where it is. Wherever it is, it stays exactly if its question is still
shown; if it is not, the session is at the first question that is shown, or at none if none is. -/
theorem new_answer_moves_only_from_hidden (form : Form) (A : Answers) (currentId : Option Text)
    (submitted : Bool) (ops : List Session.Op) (hids : (questionIds form.questions).Nodup) (j : Nat)
    (q : Question) (hq : form.questions[j]? = some q) (op : Session.Op) (hop : op.answered? = some q.id) :
    let s := (Session.start form A currentId submitted).run ops
    let t := (s.perform op).2
    let upTo := questionIds (form.questions.take (j + 1))
    t.activeIds.filter (· ∈ upTo) = s.activeIds.filter (· ∈ upTo) ∧
    (∀ i, s.current? = some i → i ≤ j → t.current? = some i) ∧
    (∀ i, s.current? = some i → ∃ p, form.questions[i]? = some p ∧
      (t.current? = some i ↔ p.isVisibleAt (some i) t.answers form.questions = true) ∧
      (p.isVisibleAt (some i) t.answers form.questions = false →
        t.current? = (visibleFlags form.questions t.answers).findIdx? fun visible => visible)) := by
  intro s t upTo
  have h : s.InStep := (Session.inStep_start form A currentId submitted).run ops
  have hform : s.form = form := by simp [s]
  -- from here on the step is a change of the answers, which settles
  rcases s.perform_of_answered hop with ⟨B, hAB, ht⟩
  rcases s.withAnswers_eq B with ⟨c, hc⟩
  have hactive : t.activeIds = activeIds form.questions B := by
    rw [← hform]
    simp [t, ht, hc]
  have hanswers : t.answers = B := by simp [t, ht, hc]
  have hcurrent : t.current? = (s.withAnswers B).current? := congrArg Session.current? ht
  rw [hactive, hanswers, hcurrent]
  refine ⟨?_, ?_, ?_⟩
  · rw [h.activeIds, hform]
    exact hAB.activeIds_upTo hids hq
  · intro i hi hij
    rw [← hform] at hids hq
    exact h.stays hids hq hAB hi hij
  · -- in the form of the state, which is the form of the start
    rw [← hform] at hids ⊢
    intro i hi
    rcases h.shown hids hi with ⟨p, hp, -⟩
    refine ⟨p, hp, Session.current?_withAnswers_iff hids hi hp, ?_⟩
    intro hhidden
    rw [Session.current?_withAnswers hids B hi hp, if_neg (by simp [hhidden])]

/-- In one state, a new answer to a later question leaves the session where it is, and one to a question in
front of it hides it: the session goes to the first question that is shown, which is not the first of the
form. -/
theorem new_answer_moves_only_from_hidden_behind :
    let form : Form := {
      title := ""
      description := ""
      questions := [.bare "a" .address [⟨none, "b", ["no"]⟩] .all, .bare "b" (.multipleChoice []) [] .all,
        .bare "c" .textInput [⟨none, "b", ["x", "y"]⟩] .all, .bare "d" (.singleChoice []) [] .all,
        .bare "e" .contact [⟨none, "d", ["z"]⟩, ⟨none, "b", ["y"]⟩] .any]
      settings := .standard }
    let ops : List Session.Op := [.toggle "b" "x", .next]
    let s := (Session.start form [] none false).run ops
    let later := (s.perform (.setAnswer "d" (.str "z"))).2
    let before := (s.perform (.toggle "b" "x")).2
    (questionIds form.questions).Nodup ∧ s.activeIds = ["b", "c", "d"] ∧ s.current? = some 2 ∧
    later.activeIds = ["b", "c", "d", "e"] ∧ later.current? = some 2 ∧
    before.activeIds = ["b", "d"] ∧ before.current? = some 1 := by
  intro form ops s later before
  have hids : (questionIds form.questions).Nodup := by decide
  have hcurrent : s.current? = some 2 := by decide
  have hlater := new_answer_moves_only_from_hidden form [] none false ops hids 3
    (.bare "d" (.singleChoice []) [] .all) rfl (.setAnswer "d" (.str "z")) rfl
  have hbefore := new_answer_moves_only_from_hidden form [] none false ops hids 1
    (.bare "b" (.multipleChoice []) [] .all) rfl (.toggle "b" "x") rfl
  -- The toggle hides the current question, which has to be checked before the jump applies.
  rcases hbefore.2.2 2 hcurrent with ⟨p, hp, -, hjump⟩
  have hhidden : p.isVisibleAt (some 2) before.answers form.questions = false := by
    rw [← Option.some.inj hp]
    decide
  exact ⟨hids, by decide, hcurrent, by decide, hlater.2.1 2 hcurrent (by decide), by decide,
    (hjump hhidden).trans (by decide)⟩

end Questionnaire
