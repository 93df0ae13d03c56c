import Questionnaire.Proofs.StoreRuns
import Questionnaire.Proofs.WrittenForms

/-!
# What a stored version means

The row of a version is never touched again, and its data are read as they were written. So a version that
was saved is loaded as the form that was saved, whatever is done to the store later, with one exception: an
empty title or description is filled in from the row of the form, which follows the save that came last. An
empty title stays the default only while no titled form is saved.

* `Store.Holds`: the tables hold a version, and the row of its form is that of another save.
* `Store.holds_of_saved`, `Holds.saved`: a save brings this about, and every save keeps it.
* `Holds.definition`: what such a version is loaded as.
* `saved_version_keeps_meaning`: runs of any length.
* `saved_version_follows_later_save`: why no more can be said of empty texts and of ids that were there.
-/

namespace Questionnaire

namespace Store

/-- The row of a form after a save, of the same form or of another. -/
theorem find?_synced (rows : List Row) (formId otherId : Text) (form : Form) :
    (rows.map (syncedRow otherId form)).find? (Query.passes [("id", .str formId)]) =
      (rows.find? (Query.passes [("id", .str formId)])).map (syncedRow otherId form) := by
  rw [List.find?_map]
  congr 2
  funext row
  simp [Query.passes, syncedRow_id]

/-! ## The invariant -/

/-- What the row of a version that was added last for a form holds. -/
def lastData (t : Tables) (formId : Text) : Option Json :=
  ((t.versions.filter (Query.passes [("form_id", .str formId)])).getLast?).map (·.get "form_data")

/-- A version of a form holds one form; the row of the form has the title and description of another, which
was saved last. -/
structure Holds (t : Tables) (formId id : Text) (form last : Form) : Prop where
  stored : ∃ row, t.versions.find? (Query.passes [("id", .str id), ("form_id", .str formId)]) = some row ∧
    row.get "form_data" = form.toJson
  newest : lastData t formId = some last.toJson
  synced : ∃ row, t.forms.find? (Query.passes [("id", .str formId)]) = some row ∧
    row.get "title" = .str last.title ∧ row.get "description" = .str last.description

variable {t u : Tables} {formId otherId id : Text} {form other last : Form} {row : Row}

/-- After a save the newest data of the form is what was saved. -/
theorem Saved.newest (h : Saved t u formId form row) : lastData u formId = some form.toJson := by
  have hpasses : Query.passes [("form_id", .str formId)] row = true := by
    simp [Query.passes_str, h.formId_eq]
  simp [lastData, h.versions, hpasses, h.data_eq]

/-- A save of another form leaves the newest data. -/
theorem Saved.newest_of_ne (h : Saved t u otherId other row) (hne : otherId ≠ formId) :
    lastData u formId = lastData t formId := by
  have hfails : Query.passes [("form_id", .str formId)] row = false := by
    rw [← Bool.not_eq_true, Query.passes_str, h.formId_eq]
    simp [hne]
  simp [lastData, h.versions, hfails]

/-- A save brings the row of its form in line. -/
theorem Saved.synced (h : Saved t u formId form row) :
    ∃ row, u.forms.find? (Query.passes [("id", .str formId)]) = some row ∧
      row.get "title" = .str form.title ∧ row.get "description" = .str form.description := by
  obtain ⟨found, hfound⟩ := h.found
  have hid : found.get "id" = .str formId := (Query.passes_str.mp (List.find?_some hfound)).1
  have hline := inLine_syncedRow formId form found
  refine ⟨syncedRow formId form found, ?_, hline.title hid, hline.description hid⟩
  rw [h.forms, find?_synced, hfound]
  rfl

/-- A save leaves a version that holds a form, unless an older version of the form has the same id. -/
theorem holds_of_saved (h : Saved t u formId form row)
    (hnew : ∀ r ∈ t.versions, r.get "form_id" = .str formId → r.get "id" ≠ row.get "id") :
    Holds u formId t.ids.next form form where
  stored := by
    refine ⟨row, ?_, h.data_eq⟩
    -- the new row stands last, so it is found only if no row in front of it has its id
    have hnone : t.versions.find? (Query.passes [("id", .str t.ids.next), ("form_id", .str formId)]) = none := by
      rw [List.find?_eq_none]
      intro r hr hpasses
      simp only [Query.passes_str] at hpasses
      exact hnew r hr hpasses.2.1 (hpasses.1.trans h.id_eq.symm)
    rw [h.versions, List.find?_append, hnone]
    simp [Query.passes_str, h.id_eq, h.formId_eq]
  newest := h.newest
  synced := h.synced

/-- Every save keeps what versions hold. -/
theorem Holds.saved (h : Holds t formId id form last) (hsaved : Saved t u otherId other row) :
    ∃ last, Holds u formId id form last := by
  have hstored : ∃ row, u.versions.find? (Query.passes [("id", .str id), ("form_id", .str formId)]) = some row ∧
      row.get "form_data" = form.toJson := by
    obtain ⟨found, hfound, hdata⟩ := h.stored
    refine ⟨found, ?_, hdata⟩
    -- rows are only added behind those that are there
    rw [hsaved.versions, List.find?_append, hfound]
    rfl
  by_cases hsame : otherId = formId
  · subst hsame
    exact ⟨other, hstored, hsaved.newest, hsaved.synced⟩
  · -- the row of this form has another id than the row that is brought in line
    refine ⟨last, hstored, (hsaved.newest_of_ne hsame).trans h.newest, ?_⟩
    obtain ⟨found, hfound, hrow⟩ := h.synced
    have hid : found.get "id" = .str formId := (Query.passes_str.mp (List.find?_some hfound)).1
    have hne : found.get "id" ≠ .str otherId := by
      rw [hid]
      exact fun heq => hsame (Json.str.inj heq).symm
    refine ⟨found, ?_, hrow⟩
    rw [hsaved.forms, find?_synced, hfound, Option.map_some, (inLine_syncedRow otherId other found).others hne]

/-! ## Loading -/

/-- A version that stands in the tables is found by its id and its form. -/
theorem ensures_version_found (hrow : ∃ row, t.forms.find? (Query.passes [("id", .str formId)]) = some row)
    (hfind : t.versions.find? (Query.passes [("id", .str id), ("form_id", .str formId)]) = some row) :
    Ensures (version formId id none) t fun r u => r = .ok row ∧ u = t := by
  obtain ⟨found, hfound⟩ := hrow
  have hrows : (t.rows .versions).find? (Query.passes [("id", .str id), ("form_id", .str formId)]) = some row :=
    hfind
  unfold version
  refine (ensures_form_found hfound).bind_ok ((ensures_ask_first .versions _).bind_ok ?_)
  rw [hrows]
  exact ensures_pure row

/-- The data of a form as it was written, with what is to fill it in, are read. -/
theorem ensures_formOf {version found : Row} (hdata : version.get "form_data" = form.toJson)
    (htitle : found.get "title" = .str last.title) (hdescription : found.get "description" = .str last.description) :
    Ensures (formOf version found) t fun r u => r = .ok (form.filled last.title last.description) ∧ u = t := by
  unfold formOf
  simp only [hdata, htitle, hdescription, Form.ofStored_toJson]
  exact (ensures_note _).bind_ok (ensures_pure _)

/-- A version that holds a form is loaded as that form, with an empty title and description filled in. -/
theorem Holds.definition (h : Holds t formId id form last) (hid : id ≠ []) :
    Ensures (Store.definition formId (some id) none) t fun r u =>
      r = .ok (form.filled last.title last.description) ∧ u = t := by
  obtain ⟨found, hfound, htitle, hdescription⟩ := h.synced
  obtain ⟨version, hversion, hdata⟩ := h.stored
  have hid : id ≠ "" := hid
  unfold Store.definition
  refine (ensures_form_found hfound).bind_ok ?_
  simp only [hid, if_false]
  refine (ensures_version_found ⟨found, hfound⟩ hversion).bind_ok ?_
  exact ensures_formOf hdata htitle hdescription

end Store

/-- **A saved version keeps its meaning.** While no query fails, let a form be saved, under an id that no
version of the form has already, and let anything be done to the store afterwards. Then the version is
loaded as the form that was saved, except that an empty title is that of the form saved last, or else the
default, and an empty description is that of the form saved last. -/
theorem saved_version_keeps_meaning (c : Connection) (formId : Text) (user : Json) (form : Form)
    (message : Json) (row : Row) (ops : List Store.Op) (hc : c.Steady)
    (hsave : ((Store.save formId user form message).run.run c).1 = .ok row)
    (hnew : ∀ r ∈ c.tables.versions, r.get "form_id" = .str formId → r.get "id" ≠ row.get "id") :
    let later := Store.after ((Store.save formId user form message).run.run c).2 ops
    ∃ (id : Text) (last : Form), row.get "id" = .str id ∧
      Store.lastData later.tables formId = some last.toJson ∧
      ((Store.definition formId (some id) none).run.run later).1 =
        .ok (form.filled last.title last.description) ∧
      (form.title ≠ [] → form.description ≠ [] →
        ((Store.definition formId (some id) none).run.run later).1 = .ok form) := by
  intro later
  obtain ⟨hsteady, hresult⟩ := Store.ensures_save formId user form message c hc rfl
  rw [hsave] at hresult
  rcases hresult with ⟨⟨e, he⟩, -⟩ | ⟨row', hrow, hsaved⟩
  · cases he
  obtain rfl := Except.ok.inj hrow
  have hholds := Store.holds_of_saved hsaved hnew
  -- that the version is held is an invariant of everything that can be done afterwards
  obtain ⟨hlater, last, hlast⟩ := Store.after_induction
    (P := fun t => ∃ last, Store.Holds t formId c.tables.ids.next form last)
    (fun t u otherId other row hsaved ⟨last, h⟩ => h.saved hsaved) hsteady ⟨form, hholds⟩ ops
  have hloaded := (hlast.definition (c.tables.ids.ne_nil 0) later hlater rfl).2.1
  refine ⟨_, last, hsaved.id_eq, hlast.newest, hloaded, ?_⟩
  intro htitle hdescription
  rw [hloaded, Form.filled_eq_self htitle hdescription]

/-- Between a refused restore and saves of this form and another. -/
theorem saved_version_keeps_meaning_among_saves :
    let form : Form := { title := "", description := "As saved", questions := [], settings := .standard }
    let next : Form := { form with title := "Later", description := "" }
    let c : Connection := { tables := {
      forms := [[("id", .str "f"), ("user_id", .str "u")], [("id", .str "g"), ("user_id", .str "w")]]
      versions := [[("id", .str "v"), ("form_id", .str "g"), ("version_number", .int 4)]] } }
    let row := Store.storedRow "form_versions-2" "f" (.str "u") form 1 .null
    let saved := (Store.save "f" (.str "u") form .null).run.run c
    let ops : List Store.Op := [.restore "f" "form_versions-2" (.str "w"), .save "g" (.str "w") next .null,
      .definition "f" none none, .save "f" (.str "u") next (.str "Again")]
    let later := Store.after saved.2 ops
    c.Steady ∧ saved.1 = .ok row ∧
    (∀ r ∈ c.tables.versions, r.get "form_id" = .str "f" → r.get "id" ≠ row.get "id") ∧
    (∃ (id : Text) (last : Form), row.get "id" = .str id ∧
      Store.lastData later.tables "f" = some last.toJson ∧
      ((Store.definition "f" (some id) none).run.run later).1 =
        .ok (form.filled last.title last.description)) ∧
    ((Store.definition "f" (some "form_versions-2") none).run.run later).1.toOption =
      some { form with title := "Later" } := by
  intro form next c row saved ops later
  have hc : c.Steady := by simp [c, Connection.Steady]
  have hsave : saved.1 = .ok row := by decide +kernel
  have hnew : ∀ r ∈ c.tables.versions, r.get "form_id" = .str "f" → r.get "id" ≠ row.get "id" := by decide +kernel
  -- A restore, a save of another form, a read and a later save lie between the save and the load.
  obtain ⟨id, last, hid, hlast, hloaded, -⟩ :=
    saved_version_keeps_meaning c "f" (.str "u") form .null row ops hc hsave hnew
  exact ⟨hc, hsave, hnew, ⟨id, last, hid, hlast, hloaded⟩, by decide +kernel⟩

/-- A version with empty texts is loaded with those of a later save, and a version whose id the form has
already is not loaded at all. -/
theorem saved_version_follows_later_save :
    let form : Form := { title := "", description := "", questions := [], settings := .standard }
    let next : Form := { form with title := "New", description := "Later" }
    let forms : List Row := [[("id", .str "f"), ("user_id", .str "u")]]
    let c : Connection := { tables := { forms, versions := [] } }
    let saved := (Store.save "f" (.str "u") form .null).run.run c
    let later := Store.after saved.2 [.save "f" (.str "u") next .null]
    let older : Row := [("id", .str "form_versions-2"), ("form_id", .str "f"), ("form_data", next.toJson)]
    let c' : Connection := { tables := { forms, versions := [older] } }
    let saved' := (Store.save "f" (.str "u") form .null).run.run c'
    saved.1.toOption.map (·.get "id") = some (.str "form_versions-1") ∧
    ((Store.definition "f" (some "form_versions-1") none).run.run later).1.toOption = some next ∧
    saved'.1.toOption.map (·.get "id") = some (.str "form_versions-2") ∧
    ((Store.definition "f" (some "form_versions-2") none).run.run saved'.2).1.toOption = some next ∧
    next ≠ { form with title := "Form Preview" } := by
  decide +kernel

end Questionnaire
