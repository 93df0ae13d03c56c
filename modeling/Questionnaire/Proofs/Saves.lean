import Mathlib.Data.List.Forall2
import Questionnaire.Proofs.FailedQueries
import Questionnaire.Proofs.Names
import Questionnaire.Proofs.StoreReads

/-!
# What a save does

A save reads the row of the form and the newest version, adds the row of the next version, and then brings
the row of the form in line with it. A restore reads an older version before. These are up to six queries,
and each may fail for good. Before the row of the version is added a failure leaves the tables as they are;
nothing takes that row back when the query after it fails.

* `Store.storedRow`, `Store.syncedRow`: the rows that are written.
* `Store.Added`, `Store.Saved`: the tables after the first write, and after both.
* `Store.Ending`: how a save can end; `allows_save` and `allows_restore` that there is no other way.
* `write_all_or_nothing_until_sync`: what the caller is told, and what became of the tables.
* `save_keeps_version_on_failed_sync`: why no more can be said.
-/

namespace Questionnaire

open Connection

namespace Store

/-! ## Rows that are written -/

/-- The row that holds a form as the next version, with the id that it gets. -/
def storedRow (id formId : Text) (user : Json) (form : Form) (number : Int) (message : Json) : Row :=
  Fields.ofEntries (("id", .str id) :: versionRow formId user form number message)

/-- The row of a form after the form was saved. -/
def syncedRow (formId : Text) (form : Form) (row : Row) : Row :=
  if Query.passes [("id", .str formId)] row then Query.change (formChanges form) row else row

/-- The version gets the next id, and stands behind all rows. -/
theorem run_insert_version (t : Tables) (formId : Text) (user : Json) (form : Form) (number : Int)
    (message : Json) :
    (Query.insert .versions (versionRow formId user form number message)).run t =
      ([storedRow t.ids.next formId user form number message],
        { t with
          versions := t.versions ++ [storedRow t.ids.next formId user form number message]
          ids := t.ids.drop 1 }) := rfl

/-- The row of the form is changed where it stands. -/
theorem run_sync (t : Tables) (formId : Text) (form : Form) :
    ((Query.update .forms (formChanges form) [("id", .str formId)]).run t).2 =
      { t with forms := t.forms.map (syncedRow formId form) } := rfl

section

variable (id formId : Text) (user : Json) (form : Form) (number : Int) (message : Json)

/-- The columns of the row of a new version. -/
theorem storedRow_eq :
    storedRow id formId user form number message =
      (("id", .str id) :: versionRow formId user form number message : Fields) := by
  apply Fields.ofEntries_eq_self
  simp [versionRow, Fields.keys, numberColumn]

/-- The columns of a version are what was saved. -/
theorem storedRow_id : (storedRow id formId user form number message).get "id" = .str id := by
  rw [storedRow_eq]
  simp [Fields.get, Fields.get?_cons]

theorem storedRow_formId : (storedRow id formId user form number message).get "form_id" = .str formId := by
  rw [storedRow_eq]
  simp [Fields.get, Fields.get?_cons, versionRow]

theorem storedRow_data : (storedRow id formId user form number message).get "form_data" = form.toJson := by
  rw [storedRow_eq]
  simp [Fields.get, Fields.get?_cons, versionRow]

theorem storedRow_number : (storedRow id formId user form number message).get numberColumn = .int number := by
  rw [storedRow_eq]
  simp [Fields.get, Fields.get?_cons, versionRow, numberColumn]

end

/-- The columns of the row of a form that follow a save. -/
def syncedColumns : List Text := ["title", "description", "updated_at"]

/-- What becomes of a row while only the row of one form follows its saves. -/
structure Kept (formId : Text) (row row' : Row) : Prop where
  others : row.get "id" ≠ .str formId → row' = row
  columns : ∀ column ∉ syncedColumns, row'.get? column = row.get? column

/-- What bringing the row of a form in line makes of a row. -/
structure InLine (formId : Text) (form : Form) (row row' : Row) : Prop extends Kept formId row row' where
  title : row.get "id" = .str formId → row'.get "title" = .str form.title
  description : row.get "id" = .str formId → row'.get "description" = .str form.description
  updated : row.get "id" = .str formId → row'.get "updated_at" = .str "<set>"

/-- A row is brought in line, or is that of another form and stays as it is. -/
theorem inLine_syncedRow (formId : Text) (form : Form) (row : Row) :
    InLine formId form row (syncedRow formId form row) := by
  have hpasses : Query.passes [("id", .str formId)] row = true ↔ row.get "id" = .str formId := by
    simp [Query.passes_str]
  by_cases hid : row.get "id" = .str formId
  · have hsynced : syncedRow formId form row = Query.change (formChanges form) row := if_pos (hpasses.mpr hid)
    -- only the three columns are set
    have hcolumns : ∀ column ∉ syncedColumns, (syncedRow formId form row).get? column = row.get? column := by
      intro column hcolumn
      simp only [syncedColumns, List.mem_cons, List.not_mem_nil, not_or] at hcolumn
      simp [hsynced, Query.change, formChanges, Fields.get?_set, hcolumn]
    refine ⟨⟨fun h => absurd hid h, hcolumns⟩, fun _ => ?_, fun _ => ?_, fun _ => ?_⟩
    all_goals simp [hsynced, Query.change, formChanges, Fields.get, Fields.get?_set]
  · have hsame : syncedRow formId form row = row := if_neg (hpasses.not.mpr hid)
    exact ⟨⟨fun _ => hsame, fun _ _ => by rw [hsame]⟩, fun h => absurd h hid, fun h => absurd h hid,
      fun h => absurd h hid⟩

/-- Columns that do not follow a save stay as they are. -/
theorem syncedRow_get {formId column : Text} {form : Form} {row : Row} (h : column ∉ syncedColumns) :
    (syncedRow formId form row).get column = row.get column := by
  unfold Fields.get
  rw [(inLine_syncedRow formId form row).columns column h]

/-- No row changes its id. -/
theorem syncedRow_id {formId : Text} {form : Form} {row : Row} :
    (syncedRow formId form row).get "id" = row.get "id" :=
  syncedRow_get (by simp [syncedColumns])

/-! ## The tables after a save -/

/-- The tables after a version of a form was added, and its row. -/
structure Added (t u : Tables) (formId : Text) (form : Form) (row : Row) : Prop where
  found : ∃ found, t.forms.find? (Query.passes [("id", .str formId)]) = some found
  stored : ∃ user number message, numberAfter (byNumber t formId).head? = .ok number ∧
    row = storedRow t.ids.next formId user form number message
  versions : u.versions = t.versions ++ [row]
  ids : u.ids = t.ids.drop 1

/-- The tables after a form was saved, and the row of the version that was added. -/
structure Saved (t u : Tables) (formId : Text) (form : Form) (row : Row) : Prop extends
    Added t u formId form row where
  forms : u.forms = t.forms.map (syncedRow formId form)

section

variable {t u : Tables} {formId : Text} {form : Form} {row : Row}

/-- An added version has the id that came next. -/
theorem Added.id_eq (h : Added t u formId form row) :
    row.get "id" = .str t.ids.next := by
  obtain ⟨user, number, message, -, rfl⟩ := h.stored
  exact storedRow_id ..

/-- It belongs to the form. -/
theorem Added.formId_eq (h : Added t u formId form row) : row.get "form_id" = .str formId := by
  obtain ⟨user, number, message, -, rfl⟩ := h.stored
  exact storedRow_formId ..

/-- It holds the definition that was saved. -/
theorem Added.data_eq (h : Added t u formId form row) : row.get "form_data" = form.toJson := by
  obtain ⟨user, number, message, -, rfl⟩ := h.stored
  exact storedRow_data ..

/-- The number of a version that is added is the one after that of the newest. -/
theorem Added.number_eq (h : Added t u formId form row) :
    ∃ n, numberAfter (byNumber t formId).head? = .ok n ∧ row.get numberColumn = .int n := by
  obtain ⟨user, number, message, hnumber, rfl⟩ := h.stored
  exact ⟨number, hnumber, storedRow_number ..⟩

/-- After a save the rows of forms are those from before, brought in line. -/
theorem Saved.inLine (h : Saved t u formId form row) : List.Forall₂ (InLine formId form) t.forms u.forms := by
  rw [h.forms, List.forall₂_map_right_iff]
  exact List.forall₂_same.mpr fun row _ => inLine_syncedRow formId form row

end

/-! ## How a save can end -/

variable {c d : Connection} {formId : Text} {P : Form → Prop} {r : Except StoreError Row}

/-- How a save of a form as asked can end: with an error that leaves the tables as they are, with one after
the version was added, or with that version. -/
inductive Ending (c : Connection) (formId : Text) (P : Form → Prop) : Except StoreError Row → Connection → Prop
  | refused {e : StoreError} {d : Connection} (looked : c.Looked d) : Ending c formId P (.error e) d
  | halfway {e : StoreError} {d : Connection} {form : Form} {row : Row} (asked : P form)
      (reaches : Reaches True c d) (faulty : ¬ c.Steady) (added : Added c.tables d.tables formId form row)
      (forms : d.tables.forms = c.tables.forms) : Ending c formId P (.error e) d
  | done {d : Connection} {form : Form} {row : Row} (asked : P form) (reaches : Reaches True c d)
      (saved : Saved c.tables d.tables formId form row) : Ending c formId P (.ok row) d

/-- Something may be read before. -/
theorem Ending.of_looked (h : Ending d formId P r e) (hlooked : c.Looked d) : Ending c formId P r e := by
  have hreaches : ∀ {e : Connection}, Reaches True d e → Reaches True c e := fun h =>
    (hlooked.reaches.trans h).of_iff (by simp)
  cases h with
  | refused looked => exact .refused (hlooked.trans looked)
  | halfway asked reaches faulty added forms =>
    rw [hlooked.tables] at added forms
    exact .halfway asked (hreaches reaches) (faulty ∘ hlooked.reaches.steady) added forms
  | done asked reaches saved =>
    rw [hlooked.tables] at saved
    exact .done asked (hreaches reaches) saved

/-- What is known of the saved form may be weakened. -/
theorem Ending.mono {P' : Form → Prop} (h : Ending c formId P r d) (himp : ∀ form, P form → P' form) :
    Ending c formId P' r d := by
  cases h with
  | refused looked => exact .refused looked
  | halfway asked reaches faulty added forms => exact .halfway (himp _ asked) reaches faulty added forms
  | done asked reaches saved => exact .done (himp _ asked) reaches saved

/-- What a save reads before it writes can only end it early. -/
theorem allows_reading {α : Type} {m : StoreM α} {k : α → StoreM Row} {Q : α → Prop} (hc : c.Harmless)
    (hasks : Asks (Query.Reads formId) m) (hfinds : Finds m c.tables Q)
    (hk : ∀ a d, Q a → d.Harmless → d.tables = c.tables → Allows (k a) d (Ending d formId P)) :
    Allows (m >>= k) c (Ending c formId P) := by
  have hfirst : Allows m c fun r d => c.Looked d ∧ ∀ a, r = .ok a → Q a :=
    ⟨hasks.looked hc, (hfinds c rfl).2⟩
  refine hfirst.bind ?_ ?_
  · rintro a d ⟨hlooked, hfound⟩
    exact (hk a d (hfound a rfl) hlooked.reaches.harmless hlooked.tables).mono fun _ _ h => h.of_looked hlooked
  · rintro e d ⟨hlooked, -⟩
    exact .refused hlooked

/-- Adding a version succeeds, or has no effect. -/
theorem allows_insert_version (hc : c.Harmless) (user : Json) (form : Form) (number : Int) (message : Json) :
    let row := storedRow c.tables.ids.next formId user form number message
    Allows (ask (.insert .versions (versionRow formId user form number message))) c fun r d =>
      Reaches False c d ∧
        (r = .ok [row] ∧
            d.tables = { c.tables with versions := c.tables.versions ++ [row], ids := c.tables.ids.drop 1 } ∨
          (∃ e, r = .error e) ∧ d.tables = c.tables) := by
  refine (allows_ask hc _).mono ?_
  rintro r d ⟨hreaches, houtcome⟩
  refine ⟨hreaches.of_iff (by simp [Query.call, Table.name, syncCall]), ?_⟩
  rcases houtcome with hdone | ⟨herror, htables, -⟩
  · exact .inl hdone
  · exact .inr ⟨herror, htables⟩

/-- So does bringing the row of the form in line, but then the version is there already. -/
theorem allows_sync (hc : c.Harmless) (form : Form) :
    Allows (ask (.update .forms (formChanges form) [("id", .str formId)])) c fun r d =>
      Reaches True c d ∧
        ((∃ rows, r = .ok rows) ∧
            d.tables = { c.tables with forms := c.tables.forms.map (syncedRow formId form) } ∨
          (∃ e, r = .error e) ∧ d.tables = c.tables ∧ ¬ c.Steady) := by
  refine (allows_ask hc _).mono ?_
  rintro r d ⟨hreaches, houtcome⟩
  refine ⟨hreaches.of_iff (by simp [Query.call, Table.name, syncCall]), ?_⟩
  rcases houtcome with ⟨hrows, htables⟩ | hfailed
  · exact .inl ⟨⟨_, hrows⟩, htables⟩
  · exact .inr hfailed

/-- The two writes of a save. -/
theorem allows_writes (hc : c.Harmless) (user : Json) (form : Form) {number : Int} (message : Json)
    (hfound : ∃ found, c.tables.forms.find? (Query.passes [("id", .str formId)]) = some found)
    (hnumber : numberAfter (byNumber c.tables formId).head? = .ok number) :
    Allows (do
        let inserted ← ask (.insert .versions (versionRow formId user form number message))
        let _ ← ask (.update .forms (formChanges form) [("id", .str formId)])
        return inserted.headD []) c (Ending c formId (· = form)) := by
  have hadded : ∀ {u : Tables} {row : Row}, row = storedRow c.tables.ids.next formId user form number message →
      u.versions = c.tables.versions ++ [row] → u.ids = c.tables.ids.drop 1 → Added c.tables u formId form row :=
    fun hrow hversions hids => ⟨hfound, ⟨user, number, message, hnumber, hrow⟩, hversions, hids⟩
  refine (allows_insert_version hc user form number message).bind ?_ ?_
  · rintro inserted d ⟨hinsert, ⟨hrows, htables⟩ | ⟨⟨e, he⟩, -⟩⟩
    · -- the version is added, and what is left is to bring the row of the form in line
      obtain rfl := Except.ok.inj hrows
      refine (allows_sync hinsert.harmless form).bind ?_ ?_
      · rintro rows d' ⟨hsync, ⟨-, htables'⟩ | ⟨⟨e, he⟩, -⟩⟩
        · rw [htables] at htables'
          have hversions := hadded (u := d'.tables) rfl (by rw [htables']) (by rw [htables'])
          have hforms : d'.tables.forms = c.tables.forms.map (syncedRow formId form) := by rw [htables']
          apply allows_pure
          rw [List.headD_cons]
          exact .done rfl ((hinsert.trans hsync).of_iff (by simp)) ⟨hversions, hforms⟩
        · cases he
      · rintro e d' ⟨hsync, ⟨⟨rows, he⟩, -⟩ | ⟨-, htables', hfaulty⟩⟩
        · cases he
        · rw [htables] at htables'
          have hversions := hadded (u := d'.tables) rfl (by rw [htables']) (by rw [htables'])
          have hforms : d'.tables.forms = c.tables.forms := by rw [htables']
          exact .halfway rfl ((hinsert.trans hsync).of_iff (by simp)) (hfaulty ∘ hinsert.steady) hversions hforms
    · cases he
  · rintro e d ⟨hinsert, ⟨he, -⟩ | ⟨-, htables⟩⟩
    · cases he
    · exact .refused ⟨hinsert, htables⟩

/-- A save is refused, ends halfway, or is done. -/
theorem allows_save (hc : c.Harmless) (formId : Text) (user : Json) (form : Form) (message : Json) :
    Allows (save formId user form message) c (Ending c formId (· = form)) := by
  unfold save
  refine allows_reading hc (reads_form formId _) (finds_form formId _) fun found d hfound hd htables => ?_
  rw [← htables] at hfound
  refine allows_reading hd (reads_nextNumber formId) (finds_nextNumber formId) fun number d' hnumber hd' htables' => ?_
  rw [← htables'] at hfound hnumber
  exact allows_writes hd' user form message ⟨found, hfound.1⟩ hnumber

/-- The form that a version holds, the row of its form filling it in. -/
def HoldsForm (t : Tables) (formId versionId : Text) (form : Form) : Prop :=
  ∃ version row, t.versions.find? (Query.passes [("id", .str versionId), ("form_id", .str formId)]) = some version ∧
    t.forms.find? (Query.passes [("id", .str formId)]) = some row ∧
    (Form.ofStored (version.get "form_data") (row.get "title") (row.get "description")).result = .ok form

/-- A restore is a save of the form that the older version holds. -/
theorem allows_restore (hc : c.Harmless) (formId versionId : Text) (user : Json) :
    Allows (restore formId versionId user) c (Ending c formId (HoldsForm c.tables formId versionId)) := by
  unfold restore
  -- whose form it is was settled with the version, so the row is read again for anybody
  refine allows_reading hc (reads_version formId versionId _) (finds_version formId versionId _)
    fun source d hsource hd htables => ?_
  refine allows_reading hd (reads_form formId none) (finds_form formId none) fun row d' hrow hd' htables' => ?_
  refine allows_reading hd' (asks_formOf _ source row) (finds_formOf source row) fun form d'' hform hd'' _ => ?_
  rw [htables] at hrow
  refine allows_reading hd'' (asks_told _ _) (finds_told _) fun number e _ he _ => ?_
  refine (allows_save he formId user form _).mono fun _ _ h => h.mono ?_
  rintro _ rfl
  exact ⟨source, row, hsource, hrow.1, hform⟩

/-! ## What the caller is told -/

/-- What adds a version to a form. -/
inductive Write where
  | save (form : Form) (message : Json)
  | restore (versionId : Text)

/-- The operation. -/
def Write.perform (formId : Text) (user : Json) : Write → StoreM Row
  | save form message => Store.save formId user form message
  | restore versionId => Store.restore formId versionId user

/-- Is this the form to save? -/
def Write.Saves (t : Tables) (formId : Text) : Write → Form → Prop
  | save form _ => (· = form)
  | restore versionId => HoldsForm t formId versionId

/-- So is a save or a restore. -/
theorem Write.allows_perform (hc : c.Harmless) (formId : Text) (user : Json) (w : Write) :
    Allows (w.perform formId user) c (Ending c formId (w.Saves c.tables formId)) := by
  cases w with
  | save form message => exact allows_save hc formId user form message
  | restore versionId => exact allows_restore hc formId versionId user

end Store

/-- **A save is all or nothing until its last query.** Let failing queries have no effect on the tables. If a
save or a restore fails, the tables are as they were, unless bringing the row of the form in line was tried:
then one version was added, and nothing else. If it succeeds, the version that it gives was added, and the
title, the description and the time of the last change were set in the row of the form, and nothing else. -/
theorem write_all_or_nothing_until_sync (c : Connection) (formId : Text) (user : Json) (w : Store.Write)
    (hc : c.Harmless) :
    let after := (w.perform formId user).run.run c
    ∃ made, after.2.calls = c.calls ++ made ∧
      match after.1 with
      | .error _ => after.2.tables.forms = c.tables.forms ∧
          (if syncCall ∈ made
            then ∃ form row, w.Saves c.tables formId form ∧ Store.Added c.tables after.2.tables formId form row
            else after.2.tables.versions = c.tables.versions)
      | .ok row => ∃ form, w.Saves c.tables formId form ∧
          Store.Added c.tables after.2.tables formId form row ∧
          List.Forall₂ (Store.InLine formId form) c.tables.forms after.2.tables.forms := by
  intro after
  have hending : Store.Ending c formId (w.Saves c.tables formId) after.1 after.2 :=
    w.allows_perform hc formId user
  rcases after with ⟨r, d⟩
  -- the last query is among the calls exactly where the version was added before
  cases hending with
  | refused looked =>
    obtain ⟨made, hcalls, hsync⟩ := looked.reaches.calls
    refine ⟨made, hcalls, by rw [looked.tables], ?_⟩
    rw [if_neg (hsync.not.mpr id), looked.tables]
  | @halfway _ _ form row asked reaches faulty added forms =>
    obtain ⟨made, hcalls, hsync⟩ := reaches.calls
    refine ⟨made, hcalls, forms, ?_⟩
    rw [if_pos (hsync.mpr trivial)]
    exact ⟨form, row, asked, added⟩
  | @done _ form row asked reaches saved =>
    obtain ⟨made, hcalls, -⟩ := reaches.calls
    exact ⟨made, hcalls, form, asked, saved.toAdded, saved.inLine⟩

/-- A restore whose queries are tried again, with and without a failure for good of the last. -/
theorem write_all_or_nothing_until_sync_of_restore :
    let form : Form := { title := "Old", description := "As saved", questions := [], settings := .standard }
    let c : Connection := {
      tables := {
        forms := [[("id", .str "g"), ("title", .str "G")], [("id", .str "f"), ("user_id", .str "u")]]
        versions := [[("id", .str "v"), ("form_id", .str "f"), (Store.numberColumn, .int 4),
          ("form_data", form.toJson)]] }
      faults := [none, some ⟨"Connection reset", false⟩, none, none, none, none, some ⟨"[Errno 104]", false⟩] }
    let failing : Connection := { c with faults := c.faults ++ [none, some ⟨"boom", false⟩] }
    let row := Store.storedRow "form_versions-2" "f" (.str "u") form 5 (.str "Restored from version 4")
    let w : Store.Write := .restore "v"
    let restored (c : Connection) := (w.perform "f" (.str "u")).run.run c
    c.Harmless ∧ failing.Harmless ∧
    (restored c).1 = .ok row ∧
    (∃ form, w.Saves c.tables "f" form ∧
      List.Forall₂ (Store.InLine "f" form) c.tables.forms (restored c).2.tables.forms) ∧
    (restored failing).1 = .error (.queryFailed "boom") ∧
    (∃ form row, w.Saves failing.tables "f" form ∧
      Store.Added failing.tables (restored failing).2.tables "f" form row) := by
  intro form c failing row w restored
  have hc : c.Harmless := by simp [c, Connection.Harmless]
  have hfailing : failing.Harmless := by simp [failing, c, Connection.Harmless]
  have hdone : (restored c).1 = .ok row := by decide +kernel
  have hfailed : (restored failing).1 = .error (.queryFailed "boom") := by decide +kernel
  -- the third failure strikes the last query, after the version was added
  have hsynced : syncCall ∈ (restored failing).2.calls := by decide +kernel
  obtain ⟨_, -, hok⟩ := write_all_or_nothing_until_sync c "f" (.str "u") w hc
  obtain ⟨made, hcalls, herror⟩ := write_all_or_nothing_until_sync failing "f" (.str "u") w hfailing
  simp only [restored] at hdone hfailed hsynced
  rw [hcalls, show failing.calls = [] from rfl, List.nil_append] at hsynced
  simp only [hdone] at hok
  simp only [hfailed, if_pos hsynced] at herror
  obtain ⟨saved, hsaved, -, hforms⟩ := hok
  exact ⟨hc, hfailing, hdone, ⟨saved, hsaved, hforms⟩, hfailed, herror.2⟩

/-- A save that fails after its version was added. -/
theorem save_keeps_version_on_failed_sync :
    let form : Form := { title := "T", description := "", questions := [], settings := .standard }
    let c : Connection := {
      tables := { forms := [[("id", .str "f1"), ("user_id", .str "u1")]], versions := [] }
      faults := [none, none, none, some ⟨"boom", false⟩] }
    let saved := (Store.save "f1" (.str "u1") form .null).run.run c
    c.Harmless ∧ saved.1 = .error (.queryFailed "boom") ∧ saved.2.tables ≠ c.tables ∧
    saved.2.tables.forms = c.tables.forms ∧
    saved.2.tables.versions = [Store.storedRow "form_versions-1" "f1" (.str "u1") form 1 .null] := by
  intro form c saved
  have hversions : saved.2.tables.versions = [Store.storedRow "form_versions-1" "f1" (.str "u1") form 1 .null] := by
    decide +kernel
  refine ⟨by simp [c, Connection.Harmless], by decide +kernel, ?_, by decide +kernel, hversions⟩
  intro hsame
  rw [hsame] at hversions
  cases hversions

end Questionnaire
