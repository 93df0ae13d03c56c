import Questionnaire.Proofs.SessionInvariant
import Questionnaire.Proofs.Steps
import Questionnaire.Service.Preview

/-!
# Sessions carried by the client

In a preview nothing is kept between requests: each step is taken on a session rebuilt from the last
snapshot. A snapshot forgets the position once the session has submitted, and names the current question by
its id alone, so the rebuilt session need not be the one that was left. Nobody can tell the two apart:
before the submission the place is found again, and after it nothing depends on the place.

* `Session.report`, `Session.reports`, `Session.relay`: what a client gets to see of one session that goes
  on, and of sessions rebuilt at each step.
* `Session.Resumes`: the relation between a session and one rebuilt from its snapshot; `Resumes.perform`
  that a step keeps it.
* `stateless_preview_agrees`: runs of any length.
* `Service.previewSession_of_snapshot`: the endpoint takes such a step.
-/

namespace Questionnaire

namespace Session

/-! ## What a client gets to see -/

/-- The options that are selected after a step that toggles one. -/
def Op.selected (s : Session) : Op → Option (List Json)
  | .toggle id option => some (Answers.toggled (.str option) (Answers.selection (s.answers.get? id)))
  | _ => none

/-- What a client learns from one step. -/
structure Report where
  /-- What moves on and back tell. -/
  told : Option Bool
  /-- What a toggle leaves selected. -/
  selected : Option (List Json)
  snapshot : Except Fault Snapshot
deriving DecidableEq

/-- The report on a step. -/
def report [Stack] (s : Session) (op : Op) : Report :=
  ⟨(s.perform op).1, op.selected s, (s.perform op).2.snapshot⟩

/-- The reports on a run of one session. -/
def reports [Stack] (s : Session) : List Op → List Report
  | [] => []
  | op :: ops => s.report op :: (s.perform op).2.reports ops

/-- The session rebuilt from a snapshot, whose answers are copied once more. -/
def rebuilt [Stack] (form : Form) (snap : Snapshot) : Except Fault Session := do
  let answers ← copied snap.answers
  return resume form { snap with answers }

/-- The reports on a run whose every step is taken on a session rebuilt from the snapshot before it, as far
as there is one. -/
def relay [Stack] (form : Form) (last : Except Fault Snapshot) : List Op → List Report
  | [] => []
  | op :: ops =>
    match last >>= rebuilt form with
    | .error _ => []
    | .ok s => s.report op :: relay form (s.perform op).2.snapshot ops

/-- Reports up to the first that has no snapshot. -/
def untilFault (last : Except Fault Snapshot) : List Report → List Report
  | [] => []
  | r :: rs =>
    match last with
    | .error _ => []
    | .ok _ => r :: untilFault r.snapshot rs

/-- Where all snapshots can be taken, nothing is left out of the reports. -/
theorem untilFault_eq_self {last : Except Fault Snapshot} {rs : List Report} (hlast : last.isOk = true)
    (h : ∀ r ∈ rs, r.snapshot.isOk = true) : untilFault last rs = rs := by
  induction rs generalizing last with
  | nil => rfl
  | cons r rs ih =>
    cases last with
    | error e => cases hlast
    | ok snap =>
      unfold untilFault
      simp only
      rw [ih (h r (by simp)) fun r' hr' => h r' (List.mem_cons_of_mem r hr')]

/-! ## Sessions that look the same -/

/-- Are sessions the same up to the place of one that has submitted? -/
def Resumes (s t : Session) : Prop := ∃ c, t = { s with current? := c } ∧ (s.submitted = true ∨ c = s.current?)

variable {s t : Session}

theorem Resumes.refl (s : Session) : s.Resumes s := ⟨s.current?, rfl, .inr rfl⟩

/-- Two sessions that have submitted resume each other if they differ in their places alone. -/
theorem resumes_of_submitted (hsub : s.submitted = true) (c c' : Option Nat) :
    { s with current? := c }.Resumes { s with current? := c' } :=
  ⟨c', rfl, .inl hsub⟩

/-- A session resumes one that has not submitted only if it is the same. -/
theorem Resumes.cases (h : s.Resumes t) :
    t = s ∨ s.submitted = true ∧ ∃ c, t = { s with current? := c } := by
  obtain ⟨c, rfl, hsub | rfl⟩ := h
  · exact .inr ⟨hsub, c, rfl⟩
  · exact .inl rfl

/-- A session that has submitted shows nothing of its place. -/
theorem snapshot_of_submitted [Stack] (hsub : s.submitted = true) (c : Option Nat) :
    { s with current? := c }.snapshot = s.snapshot := by
  simp [snapshot, redirect, progress, isLast, canGoBack, canAdvance, position?, question?, hsub]

/-- The two sessions have one snapshot. -/
theorem Resumes.snapshot_eq [Stack] (h : s.Resumes t) : t.snapshot = s.snapshot := by
  rcases h.cases with rfl | ⟨hsub, c, rfl⟩
  · rfl
  · exact snapshot_of_submitted hsub c

/-- An operation selects the same in both. -/
theorem Resumes.selected_eq (h : s.Resumes t) (op : Op) : op.selected t = op.selected s := by
  obtain ⟨c, rfl, -⟩ := h
  cases op <;> rfl

/-! ## Steps keep them looking the same -/

/-- After the submission there is no going on. -/
theorem next_of_submitted (hsub : s.submitted = true) : s.next = (false, s) := by
  simp [next, hsub]

/-- Nor is there a way back. -/
theorem back_of_submitted (hsub : s.submitted = true) : s.back = (false, s) := by
  simp [back, position?, question?, hsub]

/-- After it the place stood at has no part in what answers do. -/
theorem resumes_withAnswers (hsub : s.submitted = true) (c : Option Nat) (A : Answers) :
    (s.withAnswers A).Resumes ({ s with current? := c }.withAnswers A) := by
  obtain ⟨d, hd⟩ := s.withAnswers_eq A
  obtain ⟨e, he⟩ := { s with current? := c }.withAnswers_eq A
  rw [hd, he]
  exact resumes_of_submitted (s := { s.recompute with
    answers := A, activeIds := Questionnaire.activeIds s.form.questions A }) hsub d e

/-- A step tells the same of both and keeps them looking the same. -/
theorem Resumes.perform (h : s.Resumes t) (op : Op) :
    (t.perform op).1 = (s.perform op).1 ∧ (s.perform op).2.Resumes (t.perform op).2 := by
  rcases h.cases with rfl | ⟨hsub, c, rfl⟩
  · exact ⟨rfl, .refl _⟩
  -- both have submitted: answers leave it at that, moves do nothing, and starting over looks at neither
  cases op with
  | setAnswer id v => exact ⟨rfl, resumes_withAnswers hsub c (s.answers.put id v)⟩
  | toggle id option => exact ⟨rfl, resumes_withAnswers hsub c (s.answers.toggle id (.str option))⟩
  | next =>
    unfold Session.perform
    rw [next_of_submitted hsub, next_of_submitted (s := { s with current? := c }) hsub]
    exact ⟨rfl, h⟩
  | back =>
    unfold Session.perform
    rw [back_of_submitted hsub, back_of_submitted (s := { s with current? := c }) hsub]
    exact ⟨rfl, h⟩
  | reset => exact ⟨rfl, .refl _⟩

/-- So an operation is reported alike by both. -/
theorem Resumes.report_eq [Stack] (h : s.Resumes t) (op : Op) : t.report op = s.report op := by
  obtain ⟨htold, hnext⟩ := h.perform op
  unfold report
  rw [htold, h.selected_eq op, hnext.snapshot_eq]

/-! ## Rebuilding -/

/-- Answers that can be copied are the same. -/
theorem eq_of_copied_eq_ok [Stack] {A B : Answers} (h : copied A = .ok B) : B = A := by
  unfold copied at h
  split at h
  · cases h
  · exact (Except.ok.inj h).symm

/-- What a snapshot hands on, and that its answers could be copied. -/
theorem of_snapshot_eq_ok [Stack] {snap : Snapshot} (h : s.snapshot = .ok snap) :
    copied s.answers = .ok s.answers ∧ snap.answers = s.answers ∧
      snap.currentId = s.question?.map (·.id) ∧ snap.submitted = s.submitted := by
  unfold snapshot at h
  obtain ⟨url, -, h⟩ := bind_eq_ok_iff.mp h
  obtain ⟨A, hcopied, h⟩ := bind_eq_ok_iff.mp h
  obtain rfl := eq_of_copied_eq_ok hcopied
  obtain rfl := Except.ok.inj h
  exact ⟨hcopied, rfl, rfl, rfl⟩

namespace InStep

/-- A session started from what another one tells resumes it. -/
theorem resumes_start (h : s.InStep) :
    s.Resumes (start s.form s.answers (s.question?.map (·.id)) s.submitted) := by
  obtain ⟨c, hc⟩ := start_eq s.form s.answers (s.question?.map (·.id)) s.submitted
  have hplace : (start s.form s.answers (s.question?.map (·.id)) s.submitted).current? = c := by
    rw [hc]
  rw [← h.activeIds] at hc
  refine ⟨c, hc, ?_⟩
  rcases Bool.eq_false_or_eq_true s.submitted with hsub | hsub
  · exact .inl hsub
  right
  have hq : s.question? = s.standing? := by
    simp [question?, hsub]
  rcases h.standing_cases with ⟨hnone, hcurrent, hstanding⟩ | ⟨i, q, hcurrent, -, hstanding, hshown, hi⟩
  · -- where nothing is shown there is no place
    rw [h.activeIds] at hnone
    rw [hcurrent, ← hplace, hq, hstanding]
    simp [start, recompute, firstActive?, hnone]
  · -- the id leads to the first question that has it, which is the current one
    rw [h.activeIds] at hshown
    rw [hcurrent, ← hplace, hq, hstanding]
    simp [start, recompute, hshown, hi]

/-- So does the session rebuilt from its snapshot, which there is. -/
theorem rebuilt [Stack] (h : s.InStep) {snap : Snapshot} (hsnap : s.snapshot = .ok snap) :
    ∃ t, Session.rebuilt s.form snap = .ok t ∧ s.Resumes t := by
  obtain ⟨hcopied, hanswers, hid, hsub⟩ := of_snapshot_eq_ok hsnap
  refine ⟨_, ?_, h.resumes_start⟩
  unfold Session.rebuilt resume
  rw [hanswers, hcopied, ← hid, ← hsub]
  rfl

/-- Rebuilding at each step shows what the session itself shows, as far as it has snapshots. -/
theorem relay_eq [Stack] (h : s.InStep) (ops : List Op) :
    relay s.form s.snapshot ops = untilFault s.snapshot (s.reports ops) := by
  -- on the steps: the session goes on by itself, and the rebuilt one only lends its report and snapshot
  induction ops generalizing s with
  | nil => rfl
  | cons op ops ih =>
    unfold relay reports untilFault
    cases hsnap : s.snapshot with
    | error e => rfl
    | ok snap =>
      obtain ⟨t, ht, hresumes⟩ := h.rebuilt hsnap
      have hlast : (Except.ok snap >>= Session.rebuilt s.form) = .ok t := ht
      simp only [hlast, hresumes.report_eq op, (hresumes.perform op).2.snapshot_eq]
      rw [← s.form_perform op, ih (h.perform op)]
      rfl

end InStep
end Session

/-- **The stateless preview is the session.** A respondent starts anywhere in a form, whose ids may be
repeated, and does anything. Whether the steps are taken on one session, or each on a session rebuilt from
the snapshot before it, the reports on the steps are the same, as far as there are snapshots. And a session
rebuilt from a snapshot has that snapshot again. -/
theorem stateless_preview_agrees [Stack] (form : Form) (A : Answers) (currentId : Option Text) (submitted : Bool)
    (ops : List Session.Op) :
    let s := Session.start form A currentId submitted
    Session.relay form s.snapshot ops = Session.untilFault s.snapshot (s.reports ops) ∧
    (s.snapshot.isOk = true → (∀ r ∈ s.reports ops, r.snapshot.isOk = true) →
      Session.relay form s.snapshot ops = s.reports ops) ∧
    ∀ snap, (s.run ops).snapshot = .ok snap →
      (Session.rebuilt form snap >>= Session.snapshot) = .ok snap := by
  intro s
  have hin : s.InStep := Session.inStep_start form A currentId submitted
  have hform : s.form = form := Session.form_start form A currentId submitted
  have hrelay : Session.relay form s.snapshot ops = Session.untilFault s.snapshot (s.reports ops) := by
    rw [← hform]
    exact hin.relay_eq ops
  refine ⟨hrelay, ?_, ?_⟩
  · intro hstart hall
    rw [hrelay, Session.untilFault_eq_self hstart hall]
  · -- what is rebuilt resumes the session, and sessions that resume each other have one snapshot
    intro snap hsnap
    obtain ⟨t, ht, hresumes⟩ := (hin.run ops).rebuilt hsnap
    rw [Session.form_run, hform] at ht
    rw [ht]
    exact hresumes.snapshot_eq.trans hsnap

/-- A run with a repeated id and an answer given after the submission. Once it has submitted, the session
that is left stands at the last question, and the one rebuilt from its snapshot at the first. -/
theorem stateless_preview_agrees_after_submission :
    let form : Form := {
      title := ""
      description := ""
      questions := [.bare "a" .textInput [] .all, .bare "a" .address [⟨none, "a", ["no"]⟩] .all,
        .bare "b" (.multipleChoice [⟨"x", "", none, none⟩]) [⟨none, "a", ["yes"]⟩] .all]
      settings := .standard }
    let ops : List Session.Op := [.setAnswer "a" (.str "yes"), .next, .toggle "b" "x", .next,
      .toggle "b" "y", .next, .setAnswer "a" (.str "no"), .back, .reset]
    let s := Session.start form [] (some "b") false
    let left := s.run (ops.take 4)
    s.snapshot.isOk = true ∧ (∀ r ∈ s.reports ops, r.snapshot.isOk = true) ∧
    Session.relay form s.snapshot ops = s.reports ops ∧
    (s.reports ops).map (·.told) = [none, some true, none, some true, none, some false, none, some false,
      none] ∧
    left.current? = some 2 ∧
    (left.snapshot >>= Session.rebuilt form).toOption.map (·.current?) = some (some 0) := by
  intro form ops s left
  -- when the session is rebuilt after the submission, it stands at another question than the first one
  have hstart : s.snapshot.isOk = true := by decide
  have hall : ∀ r ∈ s.reports ops, r.snapshot.isOk = true := by decide
  exact ⟨hstart, hall, (stateless_preview_agrees form [] (some "b") false ops).2.1 hstart hall, by decide,
    by decide, by decide⟩

/-! ## The endpoint -/

namespace Service

/-- The request for the next step, with what the last snapshot hands on. -/
def SessionRequest.carrying (request : SessionRequest) (snap : Session.Snapshot) : SessionRequest :=
  { request with answers := snap.answers, currentId := snap.currentId, submitted := snap.submitted }

/-- The step that a request asks for; none if it asks for the state alone. -/
def SessionRequest.op (request : SessionRequest) : ServiceM (Option Session.Op) := do
  match request.action with
  | .state => return none
  | .answer =>
    let q ← namedQuestion request
    let value ← shapedAnswer q request.value
    return some (.setAnswer q.id value)
  | .toggle =>
    let q ← namedQuestion request
    return some (.toggle q.id (request.optionId.getD []))
  | .next => return some .next
  | .back => return some .back
  | .reset => return some .reset

/-- What moves on and back tell, and the session, after a step if there is one. -/
def performed (s : Session) : Option Session.Op → Option Bool × Session
  | none => (none, s)
  | some op => s.perform op

/-- The response with a snapshot. -/
def sessionResponse (told : Option Bool) (snapshot : Except Session.Fault Session.Snapshot) : ServiceM Response := do
  let snapshot ← orSessionFault snapshot
  return .ok (.obj (snapshot.fields ++ ([("applied", .bool (told.getD true))] : Fields)))

/-- To act on a request is to perform its operation, if it has one. -/
theorem act_eq_performed (request : SessionRequest) (s : Session) :
    act request s =
      request.op >>= fun op? => return ((performed s op?).1.getD true, (performed s op?).2) := by
  unfold act SessionRequest.op
  cases request.action <;> simp [performed, Session.perform]

variable {s : Session} {snap : Session.Snapshot}

/-- Operations on both lead to sessions that resume each other. -/
theorem performed_resumes {t : Session} (h : s.Resumes t) (op? : Option Session.Op) :
    (performed t op?).1 = (performed s op?).1 ∧ (performed s op?).2.Resumes (performed t op?).2 := by
  cases op? with
  | none => exact ⟨rfl, h⟩
  | some op => exact h.perform op

/-- The endpoint, asked with what the snapshot of a session hands on, answers as that session does. -/
theorem previewSession_of_snapshot [Stack] (h : s.InStep) (hsnap : s.snapshot = .ok snap) (request : SessionRequest)
    (hform : request.form = s.form) :
    previewSession (request.carrying snap) =
      request.op >>= fun op? => sessionResponse (performed s op?).1 (performed s op?).2.snapshot := by
  obtain ⟨t, ht, hresumes⟩ := h.rebuilt hsnap
  obtain ⟨A, hcopied, hresumed⟩ := bind_eq_ok_iff.mp ht
  obtain rfl := Session.eq_of_copied_eq_ok hcopied
  -- the answers of the snapshot have been copied once, so they can be again
  have hcopy : orSessionFault (Session.copied (request.carrying snap).answers) = pure snap.answers := by
    unfold SessionRequest.carrying orSessionFault
    rw [hcopied]
  have hstart : Session.start (request.carrying snap).form snap.answers (request.carrying snap).currentId
      (request.carrying snap).submitted = t := by
    unfold SessionRequest.carrying
    rw [hform]
    exact Except.ok.inj hresumed
  have hop : (request.carrying snap).op = request.op := rfl
  unfold previewSession
  rw [hcopy]
  simp only [pure_bind, hstart, act_eq_performed, bind_assoc, hop]
  -- the operation is performed on the session that was rebuilt, which reports as the first one does
  refine bind_congr fun op? => ?_
  obtain ⟨htold, hnext⟩ := performed_resumes hresumes op?
  unfold sessionResponse
  rw [htold, hnext.snapshot_eq]

end Service

end Questionnaire
