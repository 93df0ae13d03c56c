import Questionnaire.Proofs.Moves

/-!
# Reaching the end

A respondent who keeps going on submits after as many steps as there are places from the current one to the
end of the active sequence, if the way is clear: every question come to lets one pass, and no id ahead is
carried in front of it too. A session knows its place by the id of its question alone. So where an id comes
a second time it is thrown back to the first, and it stands at the first question with the id even if only
the second is shown. Where the way is not clear, the session never gets past the obstacle.

* `Session.SubmitsAfter`: going on submits after a number of steps, each of which is told to be done.
* `Session.ClearAhead`: the way is clear; `InStep.submitsAfter` that it is gone to its end.
* `Session.HeldUp`: there is an obstacle ahead; `HeldUp.next` that a step stays in front of it.
* `submits_iff_clear_ahead`: runs from any state that can be reached.
-/

namespace Questionnaire

namespace Session

/-! ## Going on -/

/-- Is the session submitted after a number of steps on and no sooner, where each step is told to be done? -/
def SubmitsAfter (s : Session) : Nat → Prop
  | 0 => s.submitted = true
  | n + 1 => s.submitted = false ∧ s.next.1 = true ∧ s.next.2.SubmitsAfter n

/-- Decided step by step. -/
def decSubmitsAfter (s : Session) : (n : Nat) → Decidable (s.SubmitsAfter n)
  | 0 => inferInstanceAs (Decidable (s.submitted = true))
  | n + 1 =>
    haveI := decSubmitsAfter s.next.2 n
    inferInstanceAs (Decidable (s.submitted = false ∧ s.next.1 = true ∧ s.next.2.SubmitsAfter n))

instance (s : Session) (n : Nat) : Decidable (s.SubmitsAfter n) := decSubmitsAfter s n

/-- The session after a number of steps on. -/
def advanced (s : Session) (n : Nat) : Session := s.run (List.replicate n .next)

/-- The places from the current one to the end of the active sequence; one if there is none. -/
def stepsLeft (s : Session) : Nat :=
  match s.position? with
  | some p => s.activeIds.length - p
  | none => 1

/-- Is every required question that is shown answered? -/
def Complete (s : Session) : Prop :=
  ∀ q ∈ activeQuestions s.form.questions s.answers, q.required = true →
    q.isAnsweredBy (s.answers.get q.id) = true

instance (s : Session) : Decidable s.Complete :=
  inferInstanceAs (Decidable (∀ q ∈ activeQuestions s.form.questions s.answers, q.required = true →
    q.isAnsweredBy (s.answers.get q.id) = true))

/-- Does the first question with an id let one pass? -/
def Passable (s : Session) (id : Text) : Prop :=
  ∀ q, find? s.form.questions id = some q → q.required = true → q.isAnsweredBy (s.answers.get id) = true

/-- The way from a place of the active sequence to its end is clear. -/
structure ClearFrom (s : Session) (p : Nat) : Prop where
  /-- What is carried behind the place is carried nowhere in front of where it is. -/
  fresh : ∀ k id, p < k → s.activeIds[k]? = some id → id ∉ s.activeIds.take k
  passable : ∀ k id, p ≤ k → s.activeIds[k]? = some id → s.Passable id

/-- Is the way from the current place clear, if there is one? -/
def ClearAhead (s : Session) : Prop := ∀ p, s.position? = some p → s.ClearFrom p

variable {s : Session} {i p : Nat} {q : Question}

/-- Advancing once more starts with one step forward. -/
theorem advanced_succ (s : Session) (n : Nat) : s.advanced (n + 1) = s.next.2.advanced n := rfl

/-- A session that submits after `n` steps is submitted when advanced so often. -/
theorem SubmitsAfter.advanced {n : Nat} (h : s.SubmitsAfter n) : (s.advanced n).submitted = true := by
  induction n generalizing s with
  | zero => exact h
  | succ n ih =>
    rw [advanced_succ]
    exact ih h.2.2

/-- The way forward is open when the first question of the current id is answered or need not be. -/
theorem At.canAdvance_iff (h : s.At i q p) : s.canAdvance = true ↔ s.Passable q.id := by
  unfold canAdvance Passable
  rw [h.submitted, h.question]
  constructor
  · intro hadvance r hr hrequired
    have hsame : r = q := Option.some.inj (hr.symm.trans h.find?)
    rw [hsame] at hrequired ⊢
    simpa [hrequired] using hadvance
  · intro hpass
    have hanswered := hpass q h.find?
    cases hrequired : q.required with
    | false => simp [hrequired]
    | true => simpa [hrequired] using hanswered hrequired

/-! ## A clear way is gone to its end -/

/-- A way that is clear from some position is clear from every later one. -/
theorem ClearFrom.mono {k : Nat} (h : s.ClearFrom p) (hpk : p ≤ k) : s.ClearFrom k := by
  constructor
  · intro l id hkl
    exact h.fresh l id (by omega)
  · intro l id hkl
    exact h.passable l id (by omega)

/-- A place that does not repeat an id is where a session that moves there finds itself. -/
theorem InStep.at_moveTo_of_fresh (h : s.InStep) (hsub : s.submitted = false) {place : Nat} {id : Text}
    (hid : s.activeIds[place]? = some id) (hfresh : id ∉ s.activeIds.take place) :
    ∃ j r, (s.moveTo place).At j r place := by
  have hplace : place < s.activeIds.length := (List.getElem?_eq_some_iff.mp hid).1
  rcases h.at_moveTo hsub hplace with ⟨j, r, p', hat, hr⟩
  have hsame : r.id = id := Option.some.inj (hr.symm.trans hid)
  have hfirst : s.activeIds.idxOf? id = some p' := hsame ▸ hat.firstPlace
  rw [mem_take_iff_of_idxOf? hfirst] at hfresh
  have hle : p' ≤ place := le_of_idxOf? hfirst hid
  have heq : p' = place := by omega
  exact ⟨j, r, heq ▸ hat⟩

/-- Where the way is clear, a step goes one place on, or submits from the last. -/
theorem InStep.next_of_clearFrom (h : s.InStep) (hat : s.At i q p) (hclear : s.ClearFrom p) :
    (p + 1 = s.activeIds.length ∧ s.next = (true, { s with submitted := true })) ∨
    (p + 1 < s.activeIds.length ∧ s.next = (true, s.moveTo (p + 1)) ∧
      ∃ j r, (s.moveTo (p + 1)).At j r (p + 1)) := by
  have hadvance : s.canAdvance = true := hat.canAdvance_iff.mpr (hclear.passable p q.id (le_refl p) hat.place)
  rcases h.next_cases with ⟨hsub, -⟩ | ⟨-, hnone, -⟩ | ⟨i', q', p', hat', hcase⟩
  · cases hsub.symm.trans hat.submitted
  · exact absurd hnone hat.activeIds_ne_nil
  · have hp : p' = p := Option.some.inj (hat'.position.symm.trans hat.position)
    rw [hp] at hcase
    rcases hcase with ⟨hheld, -⟩ | ⟨-, hlt, hn⟩ | ⟨-, hlast, hn⟩
    · cases hheld.symm.trans hadvance
    · right
      have hget := List.getElem?_eq_getElem hlt
      exact ⟨hlt, hn, h.at_moveTo_of_fresh hat.submitted hget (hclear.fresh (p + 1) _ (by omega) hget)⟩
    · exact .inl ⟨hlast, hn⟩

/-- And so it submits after the steps that are left. -/
theorem InStep.submitsAfter (h : s.InStep) (hat : s.At i q p) (hclear : s.ClearFrom p) {n : Nat}
    (hn : p + n = s.activeIds.length) : s.SubmitsAfter n := by
  -- on the places that are left, with the session generalised
  induction n generalizing s i q p with
  | zero =>
    have hlt := hat.lt_length
    omega
  | succ n ih =>
    rcases h.next_of_clearFrom hat hclear with ⟨hlast, hnext⟩ | ⟨hlt, hnext, j, r, hat'⟩
    · have hzero : n = 0 := by omega
      rw [hzero]
      refine ⟨hat.submitted, ?_, ?_⟩
      · rw [hnext]
      · rw [hnext]
        rfl
    · have hclear' : (s.moveTo (p + 1)).ClearFrom (p + 1) := by
        have hahead := hclear.mono (Nat.le_succ p)
        exact ⟨hahead.fresh, hahead.passable⟩
      have hleft : p + 1 + n = (s.moveTo (p + 1)).activeIds.length := by
        rw [activeIds_moveTo]
        omega
      refine ⟨hat.submitted, ?_, ?_⟩
      · rw [hnext]
      · rw [hnext]
        exact ih (h.moveTo hlt) hat' hclear' hleft

/-! ## An obstacle is never passed -/

/-- Going on from a place leads no further: its question does not let one pass, or the id at the next place
is carried in front too. The session is at the place or in front of it. -/
structure HeldUp (s : Session) (b : Nat) : Prop where
  submitted : s.submitted = false
  place : ∃ p ≤ b, s.position? = some p
  obstacle : (∃ id, s.activeIds[b]? = some id ∧ ¬ s.Passable id) ∨
    ∃ id, s.activeIds[b + 1]? = some id ∧ id ∈ s.activeIds.take (b + 1)

/-- Whoever may go on from the obstacle is thrown back. -/
theorem HeldUp.repeats (h : s.HeldUp p) (hat : s.At i q p) (hadvance : s.canAdvance = true) :
    ∃ id, s.activeIds[p + 1]? = some id ∧ id ∈ s.activeIds.take (p + 1) := by
  rcases h.obstacle with ⟨id, hid, hblocked⟩ | hrepeated
  · have hcurrent : q.id = id := Option.some.inj (hat.place.symm.trans hid)
    exact absurd (hcurrent ▸ hat.canAdvance_iff.mp hadvance) hblocked
  · exact hrepeated

/-- The obstacle is on the way. -/
theorem HeldUp.lt_length {b : Nat} (h : s.HeldUp b) : b < s.activeIds.length := by
  rcases h.obstacle with ⟨id, hid, -⟩ | ⟨id, hid, -⟩
  · exact (List.getElem?_eq_some_iff.mp hid).1
  · exact Nat.lt_of_succ_lt (List.getElem?_eq_some_iff.mp hid).1

/-- A step stays in front of the obstacle. -/
theorem HeldUp.next {b : Nat} (h : s.HeldUp b) (hin : s.InStep) : s.next.2.HeldUp b := by
  rcases h.place with ⟨p, hpb, hp⟩
  rcases hin.next_cases with ⟨hsub, -⟩ | ⟨-, hnone, -⟩ | ⟨i, q, p', hat, hcase⟩
  · cases hsub.symm.trans h.submitted
  · rcases hin.question_cases with ⟨hsub, -⟩ | ⟨-, -, -, hnoPlace⟩ | ⟨i, q, p', hat⟩
    · cases hsub.symm.trans h.submitted
    · cases hnoPlace.symm.trans hp
    · exact absurd hnone hat.activeIds_ne_nil
  have hsame : p' = p := Option.some.inj (hat.position.symm.trans hp)
  rw [hsame] at hat hcase
  rcases hcase with ⟨-, hn⟩ | ⟨hadvance, hlt, hn⟩ | ⟨hadvance, hlast, hn⟩
  · rw [hn]
    exact h
  · -- the step comes to the first place with the id that is next
    rw [hn]
    rcases hin.at_moveTo hat.submitted hlt with ⟨j, r, l, hat', hr⟩
    refine ⟨hat.submitted, ⟨l, ?_, hat'.position⟩, h.obstacle⟩
    rcases Nat.lt_or_eq_of_le hpb with hlt' | heq
    · have hle : l ≤ p + 1 := le_of_idxOf? hat'.firstPlace hr
      omega
    · rw [← heq] at h ⊢
      rcases h.repeats hat hadvance with ⟨id, hid, hrepeated⟩
      have hnext : r.id = id := Option.some.inj (hr.symm.trans hid)
      rw [← hnext] at hrepeated
      exact Nat.le_of_lt_succ ((mem_take_iff_of_idxOf? hat'.firstPlace).mp hrepeated)
  · -- the last place is the obstacle's, and from there nobody goes on
    have hbound := h.lt_length
    have heq : p = b := by omega
    rw [← heq] at h
    rcases h.repeats hat hadvance with ⟨id, hid, -⟩
    have hbehind := (List.getElem?_eq_some_iff.mp hid).1
    omega

/-- A session that is held up stays held up however often it is advanced. -/
theorem HeldUp.advanced {b : Nat} (h : s.HeldUp b) (hin : s.InStep) (n : Nat) : (s.advanced n).HeldUp b := by
  induction n generalizing s with
  | zero => exact h
  | succ n ih =>
    rw [advanced_succ]
    exact ih (h.next hin) hin.next

/-- Where the way is not clear there is an obstacle. -/
theorem At.exists_heldUp (hat : s.At i q p) (h : ¬ s.ClearFrom p) : ∃ b, s.HeldUp b := by
  by_contra hnone
  apply h
  constructor
  · intro k id hpk hid hrepeated
    apply hnone
    refine ⟨k - 1, hat.submitted, ⟨p, by omega, hat.position⟩, .inr ⟨id, ?_⟩⟩
    rw [Nat.sub_add_cancel (by omega)]
    exact ⟨hid, hrepeated⟩
  · intro k id hpk hid
    by_contra hblocked
    exact hnone ⟨k, hat.submitted, ⟨p, hpk, hat.position⟩, .inl ⟨id, hid, hblocked⟩⟩

/-! ## When the way is clear -/

/-- A session that has not submitted submits after the steps left if the way is clear, and else never. -/
theorem InStep.submits_cases (h : s.InStep) (hsub : s.submitted = false) :
    (s.ClearAhead ∧ s.SubmitsAfter s.stepsLeft) ∨
    (¬ s.ClearAhead ∧ ∀ n, (s.advanced n).submitted = false) := by
  unfold ClearAhead stepsLeft
  rcases h.question_cases with ⟨hsub', -⟩ | ⟨-, hnone, hq, hp⟩ | ⟨i, q, p, hat⟩
  · cases hsub.symm.trans hsub'
  · -- where nothing is shown the first step submits
    left
    rw [hp]
    have hn : s.next = (true, { s with submitted := true }) := by simp [Session.next, hsub, hq]
    refine ⟨?_, hsub, ?_, ?_⟩
    · intro p hp'
      cases hp'
    · rw [hn]
    · rw [hn]
      rfl
  · rw [hat.position]
    -- either nothing ahead holds the session up, or there is a first obstacle that it never passes
    by_cases hclear : s.ClearFrom p
    · left
      constructor
      · intro p' hp'
        exact Option.some.inj hp' ▸ hclear
      · exact h.submitsAfter hat hclear (Nat.add_sub_cancel' (Nat.le_of_lt hat.lt_length))
    · right
      rcases hat.exists_heldUp hclear with ⟨b, hheld⟩
      exact ⟨fun hall => hclear (hall p rfl), fun n => (hheld.advanced h n).submitted⟩

/-- Without repeated ids the way is clear if what is shown is answered. -/
theorem InStep.clearAhead_of_nodup (h : s.InStep) (hids : (questionIds s.form.questions).Nodup)
    (hcomplete : s.Complete) : s.ClearAhead := by
  intro p _
  constructor
  · intro k id _ hid hfront
    exact ne_of_mem_take (h.nodup_activeIds hids) hid hfront rfl
  · intro k id _ hid q hq
    have hactive : id ∈ Questionnaire.activeIds s.form.questions s.answers := by
      rw [← h.activeIds]
      exact List.mem_of_getElem? hid
    rcases mem_activeIds_iff.mp hactive with ⟨j, r, hj, hr, hshown⟩
    -- the question that is shown is the first with its id
    have hfound : find? s.form.questions id = some r := by
      rw [← hr, find?_eq_bind_indexOf?, indexOf?_of_nodup hids hj, Option.bind_some, hj]
    have hsame : r = q := Option.some.inj (hfound.symm.trans hq)
    rw [← hr, ← hsame]
    exact hcomplete r (mem_activeQuestions_iff.mpr ⟨j, hj, hshown⟩)

end Session

/-- **When going on reaches submission.** In any state that can be reached and has not submitted, going on
is told to be done every time and submits after exactly as many steps as there are places from the current
one to the end of the active sequence (after one step where nothing is shown), if and only if the way ahead
is clear; and if it is not clear, no number of steps submits. In a form without repeated ids the way is
clear as soon as every required question that is shown is answered. -/
theorem submits_iff_clear_ahead (form : Form) (A : Answers) (currentId : Option Text) (submitted : Bool)
    (ops : List Session.Op) :
    let s := (Session.start form A currentId submitted).run ops
    s.submitted = false →
      (s.SubmitsAfter s.stepsLeft ↔ s.ClearAhead) ∧
      ((∃ n, (s.advanced n).submitted = true) ↔ s.ClearAhead) ∧
      ((questionIds form.questions).Nodup → s.Complete → s.ClearAhead) := by
  intro s hsub
  have hin : s.InStep := (Session.inStep_start form A currentId submitted).run ops
  have hform : s.form = form := by simp [s]
  have hdistinct : (questionIds form.questions).Nodup → s.Complete → s.ClearAhead := by
    intro hids
    rw [← hform] at hids
    exact hin.clearAhead_of_nodup hids
  -- Either the way is clear and the last step submits, or something holds the session up for good.
  rcases hin.submits_cases hsub with ⟨hclear, hsubmits⟩ | ⟨hblocked, hnever⟩
  · exact ⟨iff_of_true hsubmits hclear, iff_of_true ⟨_, hsubmits.advanced⟩ hclear, hdistinct⟩
  · have hnot : ¬ ∃ n, (s.advanced n).submitted = true := by
      rintro ⟨n, hn⟩
      cases (hnever n).symm.trans hn
    exact ⟨iff_of_false (fun h => hnot ⟨_, h.advanced⟩) hblocked, iff_of_false hnot hblocked, hdistinct⟩

/-- A session that went back to the first of three places, with the repetition of its id hidden. -/
theorem submits_iff_clear_ahead_of_hidden_repetition :
    let form : Form := {
      title := ""
      description := ""
      questions := [{ Question.bare "x" .textInput [] .all with required := true },
        .bare "x" .contact [⟨none, "x", ["no"]⟩] .all, .bare "y" .textInput [] .all,
        { Question.bare "z" (.multipleChoice []) [] .all with required := true }]
      settings := .standard }
    let s := (Session.start form [("x", .str "yes")] (some "y") false).run [.toggle "z" "o", .back]
    s.submitted = false ∧ s.stepsLeft = 3 ∧ s.SubmitsAfter 3 ∧ s.ClearAhead := by
  intro form s
  have hsub : s.submitted = false := by decide
  have hleft : s.stepsLeft = 3 := by decide
  have hsubmits : s.SubmitsAfter 3 := by decide
  have hiff := submits_iff_clear_ahead form [("x", .str "yes")] (some "y") false [.toggle "z" "o", .back] hsub
  exact ⟨hsub, hleft, hsubmits, hiff.2.1.mp ⟨3, hsubmits.advanced⟩⟩

/-- Two ways to be held up though nothing required that is shown is open. With an id shown twice, the
session goes on from the first to the first, and so stays as it is. With an id shown only where it is
repeated, the session stands at the hidden first question with the id, whose answer is missing. -/
theorem repeated_ids_never_submit :
    let question := Question.bare "x" .textInput [] .all
    let hidden : Question :=
      { Question.bare "x" (.multipleChoice []) [⟨none, "no", []⟩] .all with required := true }
    let twice : Form := { title := "", description := "", questions := [question, question], settings := .standard }
    let behind : Form := { title := "", description := "", questions := [hidden, question], settings := .standard }
    let s := Session.start twice [] none false
    let t := Session.start behind [] none false
    (s.submitted = false ∧ s.Complete ∧ s.activeIds = ["x", "x"] ∧ s.position? = some 0 ∧
      s.next = (true, s) ∧ ¬ s.SubmitsAfter 2 ∧ ¬ ∃ n, (s.advanced n).submitted = true) ∧
    (t.submitted = false ∧ t.Complete ∧ t.activeIds = ["x"] ∧ t.position? = some 0 ∧
      t.next = (false, t) ∧ ¬ t.SubmitsAfter 1) := by
  intro question hidden twice behind s t
  have hnext : s.next = (true, s) := by decide
  have hnever : ∀ n, (s.advanced n).submitted = false := by
    intro n
    -- The step forward leads back to the same session, so no number of steps leaves it.
    induction n with
    | zero => decide
    | succ n ih => rw [Session.advanced_succ, hnext, ih]
  refine ⟨⟨by decide, by decide, by decide, by decide, hnext, by decide, ?_⟩, by decide⟩
  rintro ⟨n, hn⟩
  cases (hnever n).symm.trans hn

end Questionnaire
