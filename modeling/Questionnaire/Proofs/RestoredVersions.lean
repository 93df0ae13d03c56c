import Questionnaire.Proofs.History
import Questionnaire.Proofs.StoredVersions

/-!
# Restored versions

A restore loads an older version and saves the form that it gets. The form has what was filled in, and the row
of the form comes to have it as well. So the older version is filled in with its own title and description from
then on, and reads as before; and the new version has nothing left to fill in. It is found under its id, as the
database gives no id that a version has.

* `Tables.FreshIds`: the ids to come are no version's yet; `Added.freshIds` that they stay so.
* `Form.ofStored_filled_in`: stored data that are filled in with what was read are read once more as they were.
* `Store.HoldsForm.saved`, `Store.Saved.holdsForm`: the older and the new version hold the form after the save.
* `restored_version_reads_as_before`: what is loaded after a restore.
-/

namespace Questionnaire

/-! ## Filling in twice -/

namespace Json

/-- What was filled in is filled in once more. -/
theorem orElse_orElse_self (a b c : Json) : (a.orElse ((a.orElse b).orElse c)).orElse c = (a.orElse b).orElse c := by
  unfold orElse
  by_cases ha : a.isEmpty <;> by_cases hb : b.isEmpty <;> simp [ha, hb]

/-- A fallback leaves an empty value only when both are empty. -/
theorem isEmpty_orElse (a b : Json) : (a.orElse b).isEmpty = (a.isEmpty && b.isEmpty) := by
  unfold orElse
  by_cases ha : a.isEmpty <;> simp [ha]

/-- With a text to fall back on a value is not null. -/
theorem orElse_ne_null {a : Json} {s : Text} : a.orElse (.str s) ≠ .null := by
  unfold orElse
  split
  · simp
  next ha =>
    rintro rfl
    exact ha rfl

end Json

/-- A text that is read from a value that is not null is that value. -/
theorem Key.eq_str_of_withDefault {key : Key} {fields : Fields} {v : Json} {default s : Text}
    (hget : fields.get? key.name = some v) (hv : v ≠ .null)
    (h : (key.withDefault .textOrEmpty default fields).result = .ok s) : v = .str s := by
  simp only [withDefault, find?, hget] at h
  cases v with
  | null => exact absurd rfl hv
  | str t => exact congrArg Json.str (Except.ok.inj h)
  | _ => cases h

namespace Form

/-- The title that is read of stored fields. -/
def titleIn (fields : Fields) (title : Json) : Json :=
  ((fields.get "title").orElse title).orElse (.str defaultTitle)

/-- The description that is read of stored fields. -/
def descriptionIn (fields : Fields) (description : Json) : Json :=
  ((fields.get "description").orElse description).orElse (.str "")

variable {fields : Fields} {title description data : Json} {form : Form}

/-- Filling in sets the title and the description, in that order. -/
theorem fillIn_eq (fields : Fields) (title description : Json) :
    fillIn fields title description =
      (fields.set "title" (titleIn fields title)).set "description" (descriptionIn fields description) := by
  simp [fillIn, titleIn, descriptionIn, Fields.get, Fields.get?_set]

/-- What is read are the title and the description that are filled in. -/
theorem titleIn_eq_of_readFields (h : (readFields (fillIn fields title description)).result = .ok form) :
    titleIn fields title = .str form.title ∧ descriptionIn fields description = .str form.description := by
  unfold readFields at h
  rcases Checked.seq_result_eq_ok.mp h with ⟨_, settings, hquestions, -, rfl⟩
  rcases Checked.seq_result_eq_ok.mp hquestions with ⟨_, questions, htexts, -, rfl⟩
  rcases Checked.seq_result_eq_ok.mp htexts with ⟨_, d, hmap, hd, rfl⟩
  rcases Checked.map_result_eq_ok.mp hmap with ⟨t, ht, rfl⟩
  rw [fillIn_eq] at ht hd
  constructor
  · exact Key.eq_str_of_withDefault (by simp [Fields.get?_set]) Json.orElse_ne_null ht
  · exact Key.eq_str_of_withDefault (by simp [Fields.get?_set]) Json.orElse_ne_null hd

/-- Fields that are filled in with what was read are as they were filled in before. -/
theorem fillIn_filled_in (h : (readFields (fillIn fields title description)).result = .ok form) :
    fillIn fields (.str form.title) (.str form.description) = fillIn fields title description := by
  rcases titleIn_eq_of_readFields h with ⟨htitle, hdescription⟩
  rw [fillIn_eq, fillIn_eq, ← htitle, ← hdescription]
  unfold titleIn descriptionIn
  rw [Json.orElse_orElse_self, Json.orElse_orElse_self]

/-- Loading gives a form when the filled-in fields do. -/
theorem load_result_eq_ok :
    (ofStored.load title description fields).result = .ok form ↔
      (readFields (fillIn fields title description)).result = .ok form :=
  mapError_eq_ok

/-- Stored data that become a form are fields that are read. -/
theorem exists_fields_of_ofStored (h : (ofStored data title description).result = .ok form) :
    ∃ fields, (∀ title description, ofStored data title description = ofStored.load title description fields) ∧
      (readFields (fillIn fields title description)).result = .ok form := by
  cases data with
  | null => exact ⟨[], fun _ _ => rfl, load_result_eq_ok.mp h⟩
  | obj fields => exact ⟨fields, fun _ _ => rfl, load_result_eq_ok.mp h⟩
  | _ => cases h

/-- Stored data that are filled in with what was read are read once more as they were. -/
theorem ofStored_filled_in (h : (ofStored data title description).result = .ok form) :
    (ofStored data (.str form.title) (.str form.description)).result = .ok form := by
  rcases exists_fields_of_ofStored h with ⟨fields, hdata, hread⟩
  rw [hdata, load_result_eq_ok, fillIn_filled_in hread, hread]

/-- A form with a title is filled in with its own texts to itself. -/
theorem filled_self (htitle : form.title ≠ []) : form.filled form.title form.description = form := by
  unfold filled
  rw [if_neg htitle, ite_self]

/-- A form that is read of stored data has a title. -/
theorem title_ne_nil_of_ofStored (h : (ofStored data title description).result = .ok form) : form.title ≠ [] := by
  rcases exists_fields_of_ofStored h with ⟨fields, -, hread⟩
  have hfull : (titleIn fields title).isEmpty = false := by
    unfold titleIn
    rw [Json.isEmpty_orElse]
    exact Bool.and_false _
  rw [(titleIn_eq_of_readFields hread).1] at hfull
  intro hempty
  rw [hempty] at hfull
  cases hfull

end Form

/-! ## Fresh ids -/

/-- What a database guarantees of the ids that it gives to new rows: they are different, and none is the id of a
version that is there. -/
structure Tables.FreshIds (t : Tables) : Prop where
  distinct : ∀ m n, t.ids.nth m = t.ids.nth n → m = n
  unused : ∀ row ∈ t.versions, ∀ n, row.get "id" ≠ .str (t.ids.nth n)

/-- Ids that count on are different. -/
theorem Ids.counting_distinct (table : Table) (rows m n : Nat)
    (h : (counting table rows).nth m = (counting table rows).nth n) : m = n := by
  have hnumbers := digits_injective (List.append_cancel_left h)
  omega

/-! ## Versions that hold a form -/

namespace Store

variable {t u : Tables} {formId versionId : Text} {form : Form} {row : Row}

/-- The id of the version that is added is not given again. -/
theorem Added.freshIds (h : Added t u formId form row) (hfresh : t.FreshIds) : u.FreshIds where
  distinct m n hsame := by
    rw [h.ids, Ids.nth_drop, Ids.nth_drop] at hsame
    exact Nat.add_left_cancel (hfresh.distinct _ _ hsame)
  unused r hr n := by
    rw [h.ids, Ids.nth_drop]
    rw [h.versions, List.mem_append, List.mem_singleton] at hr
    rcases hr with hr | rfl
    · exact hfresh.unused r hr _
    · rw [h.id_eq]
      intro hsame
      have hzero : 0 = 1 + n := hfresh.distinct _ _ (Json.str.inj hsame)
      omega

/-- The form of a version row is what its data loads to, and no table is changed. -/
theorem ensures_formOf_of_result {version found : Row}
    (h : (Form.ofStored (version.get "form_data") (found.get "title") (found.get "description")).result =
      .ok form) : Ensures (formOf version found) t fun r u => r = .ok form ∧ u = t := by
  unfold formOf
  dsimp only
  rw [h]
  exact (ensures_note _).bind_ok (ensures_pure form)

/-- A version that holds a form is loaded as it. -/
theorem HoldsForm.definition (h : HoldsForm t formId versionId form) (hversion : versionId ≠ "") :
    Ensures (Store.definition formId (some versionId) none) t fun r u => r = .ok form ∧ u = t := by
  rcases h with ⟨version, found, hfind, hfound, hform⟩
  unfold Store.definition
  refine (ensures_form_found hfound).bind_ok ?_
  simp only [hversion, if_false]
  refine (ensures_version_found ⟨found, hfound⟩ hfind).bind_ok ?_
  exact ensures_formOf_of_result hform

/-- The version that is restored holds its form once this is saved: the row of the form has become what fills
the version in. -/
theorem HoldsForm.saved (h : HoldsForm t formId versionId form) (hsaved : Saved t u formId form row) :
    HoldsForm u formId versionId form := by
  rcases h with ⟨version, found, hfind, hfound, hform⟩
  rcases hsaved.synced with ⟨synced, hsynced, htitle, hdescription⟩
  refine ⟨version, synced, ?_, hsynced, ?_⟩
  · -- rows are only added behind those that are there
    rw [hsaved.versions, List.find?_append, hfind]
    rfl
  · rw [htitle, hdescription]
    exact Form.ofStored_filled_in hform

/-- A saved version of a form with a title is loaded as it, having nothing to fill in. -/
theorem Saved.definition (h : Saved t u formId form row) (htitle : form.title ≠ [])
    (hfresh : t.FreshIds) :
    Ensures (Store.definition formId (some t.ids.next) none) u fun r v => r = .ok form ∧ v = u := by
  have hnew : ∀ r ∈ t.versions, r.get "form_id" = .str formId → r.get "id" ≠ row.get "id" := by
    intro r hr _
    rw [h.id_eq]
    exact hfresh.unused r hr 0
  have hloaded := (holds_of_saved h hnew).definition (t.ids.ne_nil 0)
  rwa [Form.filled_self htitle] at hloaded

/-- While numbers are integers, a saved version is the newest one. -/
theorem Saved.newest_row (h : Saved t u formId form row) (hrows : ∀ row ∈ t.versions, HasNumber row) :
    (byNumber u formId).head? = some row := by
  have hkept : List.Forall₂ (Kept formId) t.forms u.forms := h.inLine.imp fun _ _ hrow => hrow.toKept
  have hgrown := h.toAdded.grown hrows (identities_of_kept hkept)
  have hpasses : Query.passes [("form_id", .str formId)] row = true := by
    simp [Query.passes_str, h.formId_eq]
  rw [hgrown.byNumber_eq hrows formId, List.filter_singleton, hpasses]
  rfl

/-- So the form of a saved version is loaded also where no version is named. -/
theorem Saved.definition_newest (h : Saved t u formId form row) (htitle : form.title ≠ [])
    (hrows : ∀ row ∈ t.versions, HasNumber row) :
    Ensures (Store.definition formId none none) u fun r v => r = .ok form ∧ v = u := by
  rcases h.synced with ⟨found, hfound, hfoundTitle, hfoundDescription⟩
  have hformOf := ensures_formOf (t := u) h.data_eq hfoundTitle hfoundDescription
  rw [Form.filled_self htitle] at hformOf
  unfold Store.definition
  exact (ensures_form_found hfound).bind_ok ((ensures_newest (h.newest_row hrows)).bind_ok hformOf)

/-- The number of a version that is added to others is one more than the greatest. -/
theorem Added.number_of_newest (h : Added t u formId form row) (hrows : ∀ row ∈ t.versions, HasNumber row)
    (hversion : ∃ r ∈ t.versions, r.get "form_id" = .str formId) :
    ∃ newest ∈ t.versions, newest.get "form_id" = .str formId ∧
      (∀ r ∈ t.versions, r.get "form_id" = .str formId → versionNumber r ≤ versionNumber newest) ∧
      row.get numberColumn = .int (versionNumber newest + 1) := by
  rcases h.number_eq with ⟨n, hn, hnumber⟩
  cases hnewest : (byNumber t formId).head? with
  | none =>
    rcases hversion with ⟨r, hr, hform⟩
    have hlisted : r ∈ byNumber t formId := mem_byNumber.mpr ⟨hr, hform⟩
    rw [List.head?_eq_none_iff.mp hnewest] at hlisted
    cases hlisted
  | some newest =>
    rcases mem_byNumber.mp (List.mem_of_head? hnewest) with ⟨hmem, hform⟩
    rw [hnewest] at hn
    refine ⟨newest, hmem, hform, ?_, ?_⟩
    · intro r hr hrform
      exact le_newest hrows hnewest (mem_byNumber.mpr ⟨hr, hrform⟩)
    · rw [hnumber, eq_of_numberAfter (hrows newest hmem) hn]

/-- A form held in the tables has a version row. -/
theorem HoldsForm.exists_version (h : HoldsForm t formId versionId form) :
    ∃ r ∈ t.versions, r.get "form_id" = .str formId := by
  rcases h with ⟨version, _, hfind, -, -⟩
  have hpasses := List.find?_some hfind
  simp only [Query.passes_str] at hpasses
  exact ⟨version, List.mem_of_find?_eq_some hfind, hpasses.2.1⟩

end Store

/-- **A restored version reads as it did before.** While no query fails, version numbers are integers and the ids
to come are fresh, let a version be restored. Then it was loaded as a form before, and as this very form are
loaded afterwards the new version, the newest version, and the version that was restored. The number of the new
version is one more than the greatest, the row of the form has the title and the description of the form, and
the ids to come are fresh still. -/
theorem restored_version_reads_as_before (c : Connection) (formId versionId : Text) (user : Json) (row : Row)
    (hc : c.Steady) (hnumbers : ∀ row ∈ c.tables.versions, Store.HasNumber row) (hfresh : c.tables.FreshIds)
    (hversion : versionId ≠ "")
    (hrestore : ((Store.restore formId versionId user).run.run c).1 = .ok row) :
    let later := ((Store.restore formId versionId user).run.run c).2
    ∃ (form : Form) (id : Text),
      ((Store.definition formId (some versionId) none).run.run c).1 = .ok form ∧
      row.get "id" = .str id ∧
      ((Store.definition formId (some id) none).run.run later).1 = .ok form ∧
      ((Store.definition formId none none).run.run later).1 = .ok form ∧
      ((Store.definition formId (some versionId) none).run.run later).1 = .ok form ∧
      (∃ newest ∈ c.tables.versions, newest.get "form_id" = .str formId ∧
        (∀ r ∈ c.tables.versions, r.get "form_id" = .str formId →
          Store.versionNumber r ≤ Store.versionNumber newest) ∧
        row.get Store.numberColumn = .int (Store.versionNumber newest + 1)) ∧
      (∃ found, later.tables.forms.find? (Query.passes [("id", .str formId)]) = some found ∧
        found.get "title" = .str form.title ∧ found.get "description" = .str form.description) ∧
      later.tables.FreshIds := by
  intro later
  rcases (Store.Write.restore versionId).ensures_perform formId user c hc rfl with ⟨hsteady, hended⟩
  have hperform : (Store.Write.restore versionId).perform formId user = Store.restore formId versionId user := rfl
  rw [hperform, hrestore] at hended
  rcases hended with ⟨⟨e, he⟩, -⟩ | ⟨form, row', hholds, hrow, hsaved⟩
  · cases he
  -- the restore succeeded, so a version was held and is saved again
  obtain rfl := Except.ok.inj hrow
  have hholds : Store.HoldsForm c.tables formId versionId form := hholds
  have htitle : form.title ≠ [] := by
    rcases hholds with ⟨_, _, -, -, hform⟩
    exact Form.title_ne_nil_of_ofStored hform
  refine ⟨form, c.tables.ids.next, ?_, hsaved.id_eq, ?_, ?_, ?_,
    hsaved.toAdded.number_of_newest hnumbers hholds.exists_version, hsaved.synced, hsaved.toAdded.freshIds hfresh⟩
  · exact (hholds.definition hversion c hc rfl).2.1
  · exact (hsaved.definition htitle hfresh later hsteady rfl).2.1
  · exact (hsaved.definition_newest htitle hnumbers later hsteady rfl).2.1
  · exact ((hholds.saved hsaved).definition hversion later hsteady rfl).2.1

/-- A version without a title and with a null for a description, for which the row of the form has a title only,
is restored by the owner of the form. -/
theorem restored_version_reads_as_before_with_texts_of_row :
    let form : Form := { title := "Row", description := "", questions := [], settings := .standard }
    let c : Connection := { tables := {
      forms := [[("id", .str "f"), ("user_id", .str "u"), ("title", .str "Row")]]
      versions := [
        [("id", .str "v"), ("form_id", .str "f"), ("form_data", .obj [("description", .null)]),
          (Store.numberColumn, .int (-3))],
        [("id", .str "w"), ("form_id", .str "g"), (Store.numberColumn, .int 7)]] } }
    let row := Store.storedRow "form_versions-3" "f" (.str "u") form (-2) (.str "Restored from version -3")
    let restored := (Store.restore "f" "v" (.str "u")).run.run c
    c.Steady ∧ (∀ row ∈ c.tables.versions, Store.HasNumber row) ∧ c.tables.FreshIds ∧ ("v" : Text) ≠ "" ∧
    restored.1 = .ok row ∧
    ((Store.definition "f" (some "v") none).run.run c).1 = .ok form ∧
    ((Store.definition "f" (some "form_versions-3") none).run.run restored.2).1 = .ok form ∧
    ((Store.definition "f" none none).run.run restored.2).1 = .ok form ∧
    ((Store.definition "f" (some "v") none).run.run restored.2).1 = .ok form ∧ restored.2.tables.FreshIds := by
  intro form c row restored
  have hc : c.Steady := by simp [c, Connection.Steady]
  have hnumbers : ∀ row ∈ c.tables.versions, Store.HasNumber row := by
    intro row hrow
    simp only [c, List.mem_cons, List.not_mem_nil, or_false] at hrow
    rcases hrow with rfl | rfl
    · exact ⟨-3, rfl⟩
    · exact ⟨7, rfl⟩
  have hfresh : c.tables.FreshIds := {
    distinct := Ids.counting_distinct .versions 2
    unused := by
      intro row hrow n hsame
      -- what counts on starts with the name of the table, and neither id does
      simp only [c, List.mem_cons, List.not_mem_nil, or_false] at hrow
      rcases hrow with rfl | rfl <;> cases Json.str.inj hsame }
  have hrestore : restored.1 = .ok row := by decide +kernel
  obtain ⟨read, id, hbefore, hid, hnew, hnewest, hafter, -, -, hlater⟩ :=
    restored_version_reads_as_before c "f" "v" (.str "u") row hc hnumbers hfresh (by decide) hrestore
  obtain rfl : id = "form_versions-3" := by
    have hrowId : row.get "id" = .str "form_versions-3" := by decide +kernel
    exact (Json.str.inj (hrowId.symm.trans hid)).symm
  have hread : ((Store.definition "f" (some "v") none).run.run c).1.toOption = some form := by decide +kernel
  rw [hbefore] at hread
  obtain rfl := Option.some.inj hread
  exact ⟨hc, hnumbers, hfresh, by decide, hrestore, hbefore, hnew, hnewest, hafter, hlater⟩

end Questionnaire
