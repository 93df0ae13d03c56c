import Questionnaire.Proofs.SessionInvariant

/-!
# Moves without repeated ids

A session stores the position of its question in the form, but moves along the active sequence, and finds
its place there by the id of the question. Where no id is repeated the position and the place belong to
each other, however many hidden questions lie between two places. So a move goes by one place, a move back
undoes a move on and the other way round, and what a session stands at is shown.

* `Session.InStep.position?_moveTo`, `Session.At.moveTo_back`: where a move leads, and where the one after it.
* `Session.InStep.shown`: the current question is shown.
* `next_and_back_are_inverse`: in any state that can be reached.
-/

namespace Questionnaire

namespace Session

variable {s : Session} {i p : Nat} {q : Question}

/-! ## Places -/

/-- The place of the current question, where no id is repeated in the active sequence. -/
theorem position?_of_place (hq : s.question? = some q) (hnodup : s.activeIds.Nodup)
    (hplace : s.activeIds[p]? = some q.id) : s.position? = some p := by
  unfold position?
  rw [hq]
  exact idxOf?_of_nodup hnodup hplace

/-- Whoever was at a question, and moves to its place from another one, is where they were. -/
theorem At.moveTo_back (h : s.At i q p) (place : Nat) : (s.moveTo place).moveTo p = s := by
  have hcurrent : (s.activeIds[p]?).bind (indexOf? s.form.questions) = s.current? := by
    rw [h.place, Option.bind_some, h.first, h.current]
  unfold moveTo
  simp only [hcurrent]

namespace InStep

/-- Where ids are distinct, those of the active sequence are. -/
theorem nodup_activeIds (h : s.InStep) (hids : (questionIds s.form.questions).Nodup) :
    s.activeIds.Nodup := by
  rw [h.activeIds]
  exact Questionnaire.nodup_activeIds hids

/-- Where no id is repeated, a session that moves to a place stands there. -/
theorem position?_moveTo (h : s.InStep) (hids : (questionIds s.form.questions).Nodup)
    (hsub : s.submitted = false) {place : Nat} (hplace : place < s.activeIds.length) :
    (s.moveTo place).position? = some place := by
  rcases h.at_moveTo hsub hplace with ⟨j, r, l, hat, hid⟩
  exact position?_of_place hat.question (h.nodup_activeIds hids) hid

/-- Where no id is repeated, the question at the current position is shown. With repeated ids it need not
be: the first question with an id may be hidden while a later one is shown. -/
theorem shown (h : s.InStep) (hids : (questionIds s.form.questions).Nodup) (hi : s.current? = some i) :
    ∃ q, s.form.questions[i]? = some q ∧ q.isVisibleAt (some i) s.answers s.form.questions = true := by
  rcases h.standing_cases with ⟨-, hcurrent, -⟩ | ⟨k, q, hcurrent, hq, -, hactive, hk⟩
  · cases hcurrent.symm.trans hi
  · rw [h.activeIds] at hactive
    rcases mem_activeIds_iff.mp hactive with ⟨j, r, hj, hid, hshown⟩
    -- the question that is shown under the id is found where the session stands
    have hjk : j = k := Option.some.inj ((indexOf?_of_nodup hids hj).symm.trans (hid ▸ hk))
    have hki : k = i := Option.some.inj (hcurrent.symm.trans hi)
    rw [hjk, hki] at hj hshown
    exact ⟨r, hj, hshown⟩

/-! ## Moves -/

/-- A step on that does not submit goes one place on, and a step back undoes it. -/
theorem back_next (h : s.InStep) (hids : (questionIds s.form.questions).Nodup) (hsub : s.submitted = false)
    (htold : s.next.1 = true) (hstays : s.next.2.submitted = false) :
    ∃ p, s.position? = some p ∧ s.next = (true, s.moveTo (p + 1)) ∧
      s.next.2.position? = some (p + 1) ∧ s.next.2.back = (true, s) := by
  rcases h.next_cases with
    ⟨hsub', -⟩ | ⟨-, -, hn⟩ | ⟨i, q, p, hat, ⟨-, hn⟩ | ⟨-, hlt, hn⟩ | ⟨-, -, hn⟩⟩
  · cases hsub.symm.trans hsub'
  · rw [hn] at hstays
    cases hstays
  · rw [hn] at htold
    cases htold
  · -- the only step that is told to be done and does not submit
    have hplace : (s.moveTo (p + 1)).position? = some (p + 1) := h.position?_moveTo hids hsub hlt
    refine ⟨p, hat.position, hn, ?_, ?_⟩
    · rw [hn]
      exact hplace
    · rw [hn]
      unfold Session.back
      rw [hplace]
      exact congrArg (Prod.mk true) (hat.moveTo_back (p + 1))
  · rw [hn] at hstays
    cases hstays

/-- A step back goes one place back, and a step on undoes it unless it is held up. -/
theorem next_back (h : s.InStep) (hids : (questionIds s.form.questions).Nodup) (htold : s.back.1 = true) :
    ∃ p, s.position? = some (p + 1) ∧ s.back = (true, s.moveTo p) ∧ s.back.2.position? = some p ∧
      (s.back.2.canAdvance = true → s.back.2.next = (true, s)) := by
  rcases h.back_cases with ⟨i, q, p, hat, hb⟩ | hb
  · have hlt := hat.lt_length
    have hplace : (s.moveTo p).position? = some p := h.position?_moveTo hids hat.submitted (by omega)
    refine ⟨p, hat.position, hb, ?_, ?_⟩
    · rw [hb]
      exact hplace
    · rw [hb]
      intro hadvance
      have hin : (s.moveTo p).InStep := h.moveTo (by omega)
      rcases hin.next_cases with ⟨hsub, -⟩ | ⟨-, hnone, -⟩ | ⟨j, r, l, hat', hcase⟩
      · cases hat.submitted.symm.trans hsub
      · exact absurd hnone hat.activeIds_ne_nil
      · have hl : l = p := Option.some.inj (hat'.position.symm.trans hplace)
        rw [hl, activeIds_moveTo] at hcase
        -- there is a place behind the one that was come to: the one that was left
        rcases hcase with ⟨hheld, -⟩ | ⟨-, -, hn⟩ | ⟨-, hlast, -⟩
        · cases hheld.symm.trans hadvance
        · exact hn.trans (congrArg (Prod.mk true) (hat.moveTo_back p))
        · omega
  · rw [hb] at htold
    cases htold

end InStep
end Session

/-- **Going on and going back undo each other.** In a form whose questions have distinct ids, and in any
state that can be reached, the current question is shown. Before the submission, a step on that does not
submit goes exactly one place on, leaves the answers and the active sequence as they are, and a step back
then leads to the very state before. Likewise a step back goes exactly one place back, leaves the rest as
it is, and if one can advance then a step on leads to the very state before. -/
theorem next_and_back_are_inverse (form : Form) (A : Answers) (currentId : Option Text) (submitted : Bool)
    (ops : List Session.Op) (hids : (questionIds form.questions).Nodup) :
    let s := (Session.start form A currentId submitted).run ops
    (∀ i, s.current? = some i → ∃ q, form.questions[i]? = some q ∧
      q.isVisibleAt (some i) s.answers form.questions = true) ∧
    (s.submitted = false →
      (s.next.1 = true → s.next.2.submitted = false → ∃ p, s.position? = some p ∧
        s.next.2.position? = some (p + 1) ∧ s.next.2.answers = s.answers ∧
        s.next.2.activeIds = s.activeIds ∧ s.next.2.back = (true, s)) ∧
      (s.back.1 = true → ∃ p, s.position? = some (p + 1) ∧ s.back.2.position? = some p ∧
        s.back.2.answers = s.answers ∧ s.back.2.activeIds = s.activeIds ∧
        (s.back.2.canAdvance = true → s.back.2.next = (true, s)))) := by
  intro s
  have h : s.InStep := (Session.inStep_start form A currentId submitted).run ops
  have hform : s.form = form := by simp [s]
  rw [← hform] at hids
  refine ⟨?_, ?_⟩
  · intro i hi
    rw [← hform]
    exact h.shown hids hi
  · intro hsub
    constructor
    -- A step forward that does not submit goes to the next place of the sequence, which back undoes.
    · intro htold hstays
      rcases h.back_next hids hsub htold hstays with ⟨p, hp, hn, hplace, hback⟩
      refine ⟨p, hp, hplace, ?_, ?_, hback⟩
      · rw [hn, Session.answers_moveTo]
      · rw [hn, Session.activeIds_moveTo]
    · intro htold
      rcases h.next_back hids htold with ⟨p, hp, hb, hplace, hnext⟩
      refine ⟨p, hp, hplace, ?_, ?_, hnext⟩
      · rw [hb, Session.answers_moveTo]
      · rw [hb, Session.activeIds_moveTo]

/-- A session in the middle of three places, with a hidden question on either side of it. -/
theorem next_and_back_are_inverse_between_hidden :
    let form : Form := {
      title := ""
      description := ""
      questions := [.bare "a" (.singleChoice []) [] .all, .bare "b" .address [⟨none, "a", ["no"]⟩] .all,
        { Question.bare "c" .textInput [] .all with required := true },
        .bare "d" .textInput [⟨none, "c", ["else"]⟩] .all, .bare "e" .contact [⟨none, "a", ["yes"]⟩] .all]
      settings := .standard }
    let ops : List Session.Op := [.setAnswer "a" (.str "yes"), .next, .setAnswer "c" (.str "this")]
    let s := (Session.start form [] none false).run ops
    (questionIds form.questions).Nodup ∧ s.submitted = false ∧ s.activeIds = ["a", "c", "e"] ∧
    s.current? = some 2 ∧ s.position? = some 1 ∧
    (s.next.1 = true ∧ s.next.2.current? = some 4 ∧ s.next.2.back = (true, s)) ∧
    (s.back.1 = true ∧ s.back.2.current? = some 0 ∧ s.back.2.next = (true, s)) := by
  intro form ops s
  have hids : (questionIds form.questions).Nodup := by decide
  have hsub : s.submitted = false := by decide
  have hon : s.next.1 = true := by decide
  have hback : s.back.1 = true := by decide
  have hmoves := (next_and_back_are_inverse form [] none false ops hids).2 hsub
  rcases hmoves.1 hon (by decide) with ⟨p, -, -, -, -, hundone⟩
  rcases hmoves.2 hback with ⟨p', -, -, -, -, hredone⟩
  exact ⟨hids, hsub, by decide, by decide, by decide, ⟨hon, by decide, hundone⟩,
    ⟨hback, by decide, hredone (by decide)⟩⟩

end Questionnaire
