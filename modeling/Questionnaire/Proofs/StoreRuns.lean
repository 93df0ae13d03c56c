import Questionnaire.Proofs.Saves

/-!
# Runs of the store

While no query fails, what an operation on forms and versions gives and what it does to the tables depend
on the tables alone. Most operations only read. A save, and a restore likewise, either fails and leaves the
tables as they are, or adds one row of a version and brings the row of the form in line with it.

* `Store.Ensures`: what holds of the result and of the tables after an operation; `Ensures.bind` for one
  operation after another, `ensures_ask` for a query.
* `Store.ensures_reads`: operations that only read.
* `Store.Write.ensures_perform`: a save cannot end halfway.
* `Store.Op`, `Store.after`: runs of operations; `after_induction` for what every step keeps.
-/

namespace Questionnaire

open Connection

namespace Store

variable {α β : Type} {m : StoreM α} {k : α → StoreM β} {t : Tables}

/-! ## What an operation ensures -/

/-- From the tables, on any connection without faults, the operation ends with a result and tables as
asked, and without faults. -/
def Ensures (m : StoreM α) (t : Tables) (post : Except StoreError α → Tables → Prop) : Prop :=
  ∀ c : Connection, c.Steady → c.tables = t →
    (m.run.run c).2.Steady ∧ post (m.run.run c).1 (m.run.run c).2.tables

/-- What is known of the end may be weakened. -/
theorem Ensures.mono {post post' : Except StoreError α → Tables → Prop} (h : Ensures m t post)
    (himp : ∀ r u, post r u → post' r u) : Ensures m t post' :=
  fun c hc ht => ⟨(h c hc ht).1, himp _ _ (h c hc ht).2⟩

/-- What the first step ensures is known of where the second starts. -/
theorem Ensures.bind {mid : Except StoreError α → Tables → Prop} {post : Except StoreError β → Tables → Prop}
    (h : Ensures m t mid) (hok : ∀ a u, mid (.ok a) u → Ensures (k a) u post)
    (herror : ∀ e u, mid (.error e) u → post (.error e) u) : Ensures (m >>= k) t post := by
  intro c hc ht
  obtain ⟨hsteady, hmid⟩ := h c hc ht
  -- what comes second runs on the connection that the first leaves
  rw [run_bind]
  rcases hm : m.run.run c with ⟨e | a, c'⟩
  · rw [hm] at hsteady hmid
    exact ⟨hsteady, herror e c'.tables hmid⟩
  · rw [hm] at hsteady hmid
    exact hok a c'.tables hmid c' hsteady rfl

/-- The same of a first step that succeeds in one way alone. -/
theorem Ensures.bind_ok {a : α} {u : Tables} {post : Except StoreError β → Tables → Prop}
    (h : Ensures m t fun r v => r = .ok a ∧ v = u) (hk : Ensures (k a) u post) : Ensures (m >>= k) t post := by
  refine h.bind ?_ ?_
  · rintro b v ⟨hb, rfl⟩
    rw [Except.ok.inj hb]
    exact hk
  · rintro e v ⟨he, -⟩
    cases he

/-- What holds of the tables still holds when the result is thrown away. -/
theorem Ensures.discard {post : Tables → Prop} (h : Ensures m t fun _ u => post u) :
    Ensures (m >>= fun _ => pure ()) t fun _ u => post u :=
  h.bind (fun _ _ hu _ hc ht => ⟨hc, ht ▸ hu⟩) fun _ _ hu => hu

/-- To give a result changes nothing. -/
theorem ensures_pure (a : α) : Ensures (pure a) t fun r u => r = .ok a ∧ u = t :=
  fun _ hc ht => ⟨hc, rfl, ht⟩

/-- Nor does a notice. -/
theorem ensures_note (notices : List Notice) : Ensures (note notices) t fun r u => r = .ok () ∧ u = t :=
  fun _ hc ht => ⟨hc, rfl, ht⟩

/-- A query that does not fail gives its rows and has its effect. -/
theorem ensures_ask (q : Query) :
    Ensures (ask q) t fun r u => r = .ok (q.run t).1 ∧ u = (q.run t).2 := by
  rintro c hc rfl
  obtain ⟨hreaches, hdone | ⟨-, -, hfaulty⟩⟩ := allows_ask hc.harmless q
  · exact ⟨hreaches.steady hc, hdone⟩
  · exact absurd hc hfaulty

/-- The first row that passes filters. -/
theorem ensures_ask_first (table : Table) (filters : List (Text × Json)) :
    Ensures (ask (.select table none filters none (some 1))) t fun r u =>
      r = .ok ((t.rows table).find? (Query.passes filters)).toList ∧ u = t := by
  refine (ensures_ask _).mono ?_
  rintro r u ⟨rfl, rfl⟩
  exact ⟨by rw [run_select_first], rfl⟩

/-! ## Operations that only read -/

/-- Who only reads leaves the tables as they are, whether it fails or not. -/
theorem ensures_reads {formId : Text} (h : Asks (Query.Reads formId) m) : Ensures m t fun _ u => u = t := by
  rintro c hc rfl
  have hlooked := h.looked hc.harmless
  exact ⟨hlooked.reaches.steady hc, hlooked.tables⟩

/-- Without a user the row of a form is given if it is there. -/
theorem ensures_form_found {id : Text} {row : Row}
    (hfind : t.forms.find? (Query.passes [("id", .str id)]) = some row) :
    Ensures (form id none) t fun r u => r = .ok row ∧ u = t := by
  have hrow : (t.rows .forms).find? (Query.passes [("id", .str id)]) = some row := hfind
  unfold form
  refine (ensures_ask_first .forms [("id", .str id)]).bind_ok ?_
  rw [hrow]
  exact ensures_pure row

/-! ## Saves -/

/-- Without faults a save cannot end halfway. -/
theorem Ending.of_steady {c d : Connection} {formId : Text} {P : Form → Prop} {r : Except StoreError Row}
    (h : Ending c formId P r d) (hc : c.Steady) :
    d.Steady ∧ ((∃ e, r = .error e) ∧ d.tables = c.tables ∨
      ∃ form row, P form ∧ r = .ok row ∧ Saved c.tables d.tables formId form row) := by
  cases h with
  | refused looked => exact ⟨looked.reaches.steady hc, .inl ⟨⟨_, rfl⟩, looked.tables⟩⟩
  | halfway asked reaches faulty added forms => exact absurd hc faulty
  | done asked reaches saved => exact ⟨reaches.steady hc, .inr ⟨_, _, asked, rfl, saved⟩⟩

/-- A save or a restore fails and leaves the tables as they are, or gives the row that it adds. -/
theorem Write.ensures_perform (formId : Text) (user : Json) (w : Write) :
    Ensures (w.perform formId user) t fun r u =>
      (∃ e, r = .error e) ∧ u = t ∨ ∃ form row, w.Saves t formId form ∧ r = .ok row ∧ Saved t u formId form row := by
  rintro c hc rfl
  exact (w.allows_perform hc.harmless formId user).of_steady hc

/-- A save is refused and leaves the tables alone, or it is done. -/
theorem ensures_save (formId : Text) (user : Json) (form : Form) (message : Json) :
    Ensures (save formId user form message) t fun r u =>
      (∃ e, r = .error e) ∧ u = t ∨ ∃ row, r = .ok row ∧ Saved t u formId form row := by
  refine ((Write.save form message).ensures_perform formId user).mono ?_
  rintro r u (hfailed | ⟨_, row, rfl, hdone⟩)
  · exact .inl hfailed
  · exact .inr ⟨row, hdone⟩

/-! ## Runs -/

/-- What can be asked of the store. -/
inductive Op where
  | form (id : Text) (user : Option Json)
  | versions (formId : Text) (user : Option Json)
  | version (formId versionId : Text) (user : Option Json)
  | latestVersion (formId : Text) (user : Option Json)
  | definition (formId : Text) (versionId : Option Text) (user : Option Json)
  | save (formId : Text) (user : Json) (form : Form) (message : Json)
  | restore (formId versionId : Text) (user : Json)

/-- The form that an operation is about. -/
def Op.formId : Op → Text
  | .form id _ => id
  | .versions formId _ => formId
  | .version formId _ _ => formId
  | .latestVersion formId _ => formId
  | .definition formId _ _ => formId
  | .save formId _ _ _ => formId
  | .restore formId _ _ => formId

/-- The operation, whose result is of no interest. -/
def Op.perform : Op → StoreM Unit
  | .form id user => do let _ ← Store.form id user; return ()
  | .versions formId user => do let _ ← Store.versions formId user; return ()
  | .version formId versionId user => do let _ ← Store.version formId versionId user; return ()
  | .latestVersion formId user => do let _ ← Store.latestVersion formId user; return ()
  | .definition formId versionId user => do let _ ← Store.definition formId versionId user; return ()
  | .save formId user f message => do let _ ← Store.save formId user f message; return ()
  | .restore formId versionId user => do let _ ← Store.restore formId versionId user; return ()

/-- The connection after a run of operations, some of which may fail. -/
def after (c : Connection) : List Op → Connection
  | [] => c
  | op :: ops => after (op.perform.run.run c).2 ops

/-- An operation only reads, or adds a version. -/
theorem Op.reads_or_writes (op : Op) :
    Asks (Query.Reads op.formId) op.perform ∨
      ∃ (user : Json) (w : Write), op.perform = w.perform op.formId user >>= fun _ => pure () := by
  cases op with
  | form id user => exact .inl (.bind (reads_form id user) fun _ => .pure ())
  | versions formId user => exact .inl (.bind (reads_versions formId user) fun _ => .pure ())
  | version formId versionId user => exact .inl (.bind (reads_version formId versionId user) fun _ => .pure ())
  | latestVersion formId user => exact .inl (.bind (reads_latestVersion formId user) fun _ => .pure ())
  | definition formId versionId user => exact .inl (.bind (reads_definition formId versionId user) fun _ => .pure ())
  | save formId user form message => exact .inr ⟨user, .save form message, rfl⟩
  | restore formId versionId user => exact .inr ⟨user, .restore versionId, rfl⟩

/-- Whatever is done, the tables stay as they are or a form is saved. -/
theorem Op.ensures_perform (op : Op) :
    Ensures op.perform t fun _ u => u = t ∨ ∃ formId form row, Saved t u formId form row := by
  rcases op.reads_or_writes with hreads | ⟨user, w, hwrites⟩
  · exact (ensures_reads hreads).mono fun _ _ hu => .inl hu
  · rw [hwrites]
    refine ((w.ensures_perform op.formId user).mono ?_).discard
    rintro _ _ (⟨-, hsame⟩ | ⟨form, row, -, -, hsaved⟩)
    · exact .inl hsame
    · exact .inr ⟨op.formId, form, row, hsaved⟩

/-- What every save keeps is kept by every run. -/
theorem after_induction {P : Tables → Prop}
    (hsaved : ∀ t u formId form row, Saved t u formId form row → P t → P u) {c : Connection}
    (hc : c.Steady) (h : P c.tables) (ops : List Op) : (after c ops).Steady ∧ P (after c ops).tables := by
  induction ops generalizing c with
  | nil => exact ⟨hc, h⟩
  | cons op ops ih =>
    obtain ⟨hsteady, hstep⟩ := op.ensures_perform c hc rfl
    apply ih hsteady
    rcases hstep with hsame | ⟨formId, form, row, hstep⟩
    · rw [hsame]
      exact h
    · exact hsaved c.tables _ formId form row hstep h

end Store
end Questionnaire
