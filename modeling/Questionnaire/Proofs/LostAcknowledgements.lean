import Mathlib.Logic.Function.Iterate
import Questionnaire.Proofs.Saves

/-!
# Lost acknowledgements

A query that fails may have taken effect: only its acknowledgement was lost. If the error looks like a dropped
connection, the query is asked again and takes effect once more. What is read does not depend on that, and to
bring the row of a form in line twice is to do it once. But the row of a version is added by every attempt that
took effect, so a save leaves one more row for each lost acknowledgement of its insert.

* `lostCalls`: how many calls of a kind took effect though they failed.
* `Connection.Ended`: how a query can end, whatever failures await it.
* `Store.run_save`: how a save that succeeds ends.
* `save_adds_row_per_lost_acknowledgement`: which rows it leaves, and when it is one.
* `save_stored_twice_after_connection_reset`: a save that leaves two.
-/

namespace Questionnaire

open Connection

/-! ## Calls that took effect though they failed -/

/-- The call that adds the row of a version. -/
def insertCall : String := "insert form_versions"

/-- How many of the attempts that met the faults made the call, and took effect though they failed. -/
def lostCalls (call : String) (made : List String) (faults : List (Option Fault)) : Nat :=
  (made.zip faults).countP fun attempt => attempt.1 = call ∧ attempt.2.any (·.applied)

/-- Faults strike the calls in their order. -/
theorem lostCalls_append (call : String) (made made' : List String) (faults : List (Option Fault)) :
    lostCalls call (made ++ made') faults =
      lostCalls call made faults + lostCalls call made' (faults.drop made.length) := by
  induction made generalizing faults with
  | nil => simp [lostCalls]
  | cons first made ih =>
    cases faults with
    | nil => simp [lostCalls]
    | cons fault faults =>
      have hrest := ih faults
      simp only [lostCalls] at hrest
      simp only [lostCalls, List.cons_append, List.zip_cons_cons, List.countP_cons, hrest, List.length_cons,
        List.drop_succ_cons]
      omega

/-- Calls that were not made are not lost. -/
theorem lostCalls_eq_zero {call : String} {made : List String} (h : call ∉ made) (faults : List (Option Fault)) :
    lostCalls call made faults = 0 := by
  rw [lostCalls, List.countP_eq_zero]
  rintro ⟨call', fault⟩ hmem hlost
  have hcall : call' = call := (of_decide_eq_true hlost).1
  exact h (hcall ▸ (List.of_mem_zip hmem).1)

/-- The tables after the query took effect as many times. -/
def Query.times (q : Query) (n : Nat) : Tables → Tables := (fun t => (q.run t).2)^[n]

namespace Connection

variable {c d e : Connection} {q : Query} {made made' : List String}

/-- From one moment to a later one the calls are made, and each meets the next fault. -/
structure Spends (c : Connection) (made : List String) (d : Connection) : Prop where
  calls : d.calls = c.calls ++ made
  faults : d.faults = c.faults.drop made.length

/-- Without a call no fault is spent. -/
theorem Spends.refl (c : Connection) : c.Spends [] c :=
  ⟨(List.append_nil _).symm, rfl⟩

/-- Two steps spend their faults one after the other. -/
theorem Spends.trans (h : c.Spends made d) (h' : d.Spends made' e) : c.Spends (made ++ made') e where
  calls := by rw [h'.calls, h.calls, List.append_assoc]
  faults := by rw [h'.faults, h.faults, List.drop_drop, List.length_append]

/-- The calls that were lost are counted on from one step to the next. -/
theorem Spends.lostCalls_append (h : c.Spends made d) (call : String) (made' : List String) :
    lostCalls call (made ++ made') c.faults = lostCalls call made c.faults + lostCalls call made' d.faults := by
  rw [Questionnaire.lostCalls_append, h.faults]

/-! ## One query -/

/-- How a query can end with the attempts made so far: it took effect as often as an acknowledgement was lost, and
once more if it gives rows, which are those of the last time. -/
structure Ended {ε : Type} (c : Connection) (q : Query) (made : List String) (r : Except ε (List Row))
    (d : Connection) : Prop where
  spends : c.Spends made d
  own : ∀ call ∈ made, call = q.call
  outcome : let before := q.times (lostCalls q.call made c.faults) c.tables
    r = .ok (q.run before).1 ∧ d.tables = (q.run before).2 ∨ (∃ e, r = .error e) ∧ d.tables = before

/-- How errors are told makes no difference. -/
theorem Ended.mapError {ε ε' : Type} {r : Except ε (List Row)} (h : c.Ended q made r d) (f : ε → ε') :
    c.Ended q made (r.mapError f) d where
  spends := h.spends
  own := h.own
  outcome := by
    rcases h.outcome with ⟨hr, htables⟩ | ⟨⟨e, hr⟩, htables⟩
    · exact .inl ⟨by rw [hr]; rfl, htables⟩
    · exact .inr ⟨⟨f e, by rw [hr]; rfl⟩, htables⟩

/-- A query that failed may be asked again. -/
theorem Ended.again {ε ε' : Type} {error : ε} {r : Except ε' (List Row)} (h : c.Ended q made (.error error) d)
    (h' : d.Ended q made' r e) : c.Ended q (made ++ made') r e where
  spends := h.spends.trans h'.spends
  own := by
    intro call hcall
    rcases List.mem_append.mp hcall with hcall | hcall
    · exact h.own call hcall
    · exact h'.own call hcall
  outcome := by
    have htables : d.tables = q.times (lostCalls q.call made c.faults) c.tables := by
      rcases h.outcome with ⟨hok, -⟩ | ⟨-, htables⟩
      · cases hok
      · exact htables
    have htimes : q.times (lostCalls q.call (made ++ made') c.faults) c.tables =
        q.times (lostCalls q.call made' d.faults) d.tables := by
      rw [h.spends.lostCalls_append, htables, Nat.add_comm]
      exact Function.iterate_add_apply _ _ _ _
    rw [htimes]
    exact h'.outcome

/-- One attempt. -/
theorem ended_execute (c : Connection) (q : Query) : c.Ended q [q.call] (c.execute q).1 (c.execute q).2 := by
  unfold execute
  cases hfaults : c.faults with
  | nil =>
    refine ⟨⟨rfl, by simp [hfaults]⟩, by simp, ?_⟩
    simp [lostCalls, hfaults, Query.times]
  | cons fault? faults =>
    cases fault? with
    | none =>
      refine ⟨⟨rfl, by simp [hfaults]⟩, by simp, ?_⟩
      simp [lostCalls, hfaults, Query.times]
    | some fault =>
      refine ⟨⟨?_, ?_⟩, by simp, ?_⟩
      · cases happlied : fault.applied <;> simp [happlied]
      · cases happlied : fault.applied <;> simp [happlied, hfaults]
      · cases happlied : fault.applied <;> simp [lostCalls, hfaults, Query.times, happlied]

/-- A query that is attempted again and again ends with what its lost attempts have done. -/
theorem ended_go (c : Connection) (q : Query) (base : Json) (limit left attempt : Nat) :
    ∃ made, c.Ended q made (Retry.go base limit (execute q) left attempt c).result
      (Retry.go base limit (execute q) left attempt c).state := by
  -- on the repetitions left: what follows a failed attempt ends from where that left the connection
  induction left generalizing attempt c with
  | zero => exact ⟨[q.call], (c.ended_execute q).mapError QueryFailure.failed⟩
  | succ left ih =>
    have hfirst := c.ended_execute q
    unfold Retry.go
    rcases hexecute : c.execute q with ⟨error | rows, d⟩
    · rw [hexecute] at hfirst
      dsimp only
      split
      · cases Retry.delay base attempt with
        | error e => exact ⟨[q.call], hfirst.mapError fun _ => e⟩
        | ok pause =>
          obtain ⟨made, hrest⟩ := ih d (attempt + 1)
          exact ⟨[q.call] ++ made, hfirst.again hrest⟩
      · exact ⟨[q.call], hfirst.mapError QueryFailure.failed⟩
    · rw [hexecute] at hfirst
      exact ⟨[q.call], hfirst.mapError QueryFailure.failed⟩

/-- So does a query of the store. -/
theorem ended_query (c : Connection) (q : Query) : ∃ made, c.Ended q made (c.query q).1 (c.query q).2 := by
  obtain ⟨made, hspends, hown, houtcome⟩ := c.ended_go q Retry.storeBase Retry.storeLimit Retry.storeLimit 0
  exact ⟨made, ⟨hspends.calls, hspends.faults⟩, hown, houtcome⟩

end Connection

/-- To set what is there already changes nothing. -/
theorem Fields.set_get_eq_self {fields : Fields} {key : Text} {v : Json} (h : fields.get key = v)
    (hv : v ≠ .null) : fields.set key v = fields := by
  have hkey : fields.get? key = some v := by
    unfold Fields.get at h
    cases hget : fields.get? key with
    | none => rw [hget] at h; exact absurd h.symm hv
    | some w => rw [hget] at h; exact congrArg some h
  clear h
  induction fields with
  | nil => cases hkey
  | cons entry rest ih =>
    obtain ⟨k, w⟩ := entry
    rw [Fields.get?_cons] at hkey
    by_cases hk : k = key
    · rw [if_pos hk.symm] at hkey
      simp [Fields.set, hk, Option.some.inj hkey]
    · rw [if_neg (Ne.symm hk)] at hkey
      simp [Fields.set, hk, ih hkey]

/-- No read adds a version. -/
theorem Query.Reads.call_ne_insert {q : Query} {formId : Text} (h : q.Reads formId) : q.call ≠ insertCall := by
  cases h <;> simp only [formRow, call] <;> decide

namespace Store

/-! ## Operations -/

variable {α β : Type}

/-- A query that is asked ends as its attempts do. -/
theorem ended_ask (c : Connection) (q : Query) :
    ∃ made, c.Ended q made ((ask q).run.run c).1 ((ask q).run.run c).2 := by
  obtain ⟨made, hended⟩ := c.ended_query q
  rw [run_ask]
  exact ⟨made, hended.mapError _⟩

/-- Who only reads makes no call that adds the row of a version. -/
theorem Asks.spends {formId : Text} {m : StoreM α} (h : Asks (Query.Reads formId) m) (c : Connection) :
    ∃ made, c.Spends made (m.run.run c).2 ∧ insertCall ∉ made := by
  induction h generalizing c with
  | pure a => exact ⟨[], .refl c, by simp⟩
  | throw e => exact ⟨[], .refl c, by simp⟩
  | note notices => exact ⟨[], ⟨(List.append_nil _).symm, rfl⟩, by simp⟩
  | @ask q hq =>
    obtain ⟨made, hended⟩ := ended_ask c q
    exact ⟨made, hended.spends, fun hmem => hq.call_ne_insert (hended.own _ hmem).symm⟩
  | @bind _ _ m k _ _ ihm ihk =>
    obtain ⟨made, hspends, hinsert⟩ := ihm c
    rw [run_bind]
    rcases hm : m.run.run c with ⟨e | a, d⟩
    · rw [hm] at hspends
      exact ⟨made, hspends, hinsert⟩
    · rw [hm] at hspends
      obtain ⟨made', hspends', hinsert'⟩ := ihk a d
      exact ⟨made ++ made', hspends.trans hspends', by simp [hinsert, hinsert']⟩

/-- A step after another succeeds if both do. -/
theorem run_bind_eq_ok {m : StoreM α} {k : α → StoreM β} {b : β} {c e : Connection} :
    (m >>= k).run.run c = (.ok b, e) ↔ ∃ a d, m.run.run c = (.ok a, d) ∧ (k a).run.run d = (.ok b, e) := by
  rw [run_bind]
  constructor
  · intro h
    rcases hm : m.run.run c with ⟨e | a, d⟩
    · rw [hm] at h
      cases h
    · rw [hm] at h
      exact ⟨a, d, rfl, h⟩
  · rintro ⟨a, d, hm, hk⟩
    rw [hm]
    exact hk

/-! ## Writing more than once -/

section

variable (t : Tables) (formId : Text) (user : Json) (form : Form) (number : Int) (message : Json)

/-- The rows of a version that is added as many times, each under the next id. -/
def repeatedRows (n : Nat) : List Row :=
  (List.range n).map fun i => storedRow (t.ids.nth i) formId user form number message

/-- One more lost acknowledgement leaves one more row. -/
theorem repeatedRows_succ (n : Nat) :
    repeatedRows t formId user form number message (n + 1) =
      repeatedRows t formId user form number message n ++
        [storedRow (t.ids.nth n) formId user form number message] := by
  simp [repeatedRows, List.range_succ]

/-- Every time a version is added there is one row more. -/
theorem times_insert (n : Nat) :
    (Query.insert .versions (versionRow formId user form number message)).times n t =
      { t with
        versions := t.versions ++ repeatedRows t formId user form number message n
        ids := t.ids.drop n } := by
  induction n with
  | zero => simp [Query.times, repeatedRows]
  | succ n ih =>
    rw [Query.times, Function.iterate_succ_apply', ← Query.times, ih, run_insert_version, repeatedRows_succ]
    simp

/-- Rows of one save differ in their ids alone. -/
theorem get?_storedRow {id id' column : Text} (h : column ≠ "id") :
    (storedRow id formId user form number message).get? column =
      (storedRow id' formId user form number message).get? column := by
  rw [storedRow_eq, storedRow_eq, Fields.get?_cons, Fields.get?_cons, if_neg h, if_neg h]

/-- To bring a row in line once more changes nothing. -/
theorem syncedRow_syncedRow (row : Row) :
    syncedRow formId form (syncedRow formId form row) = syncedRow formId form row := by
  by_cases hid : row.get "id" = .str formId
  · have hline := inLine_syncedRow formId form row
    have hpasses : Query.passes [("id", .str formId)] (syncedRow formId form row) = true := by
      rw [Query.passes_str, syncedRow_id]
      exact ⟨hid, rfl⟩
    rw [syncedRow, if_pos hpasses]
    simp only [Query.change, formChanges, List.foldl_cons, List.foldl_nil]
    rw [Fields.set_get_eq_self (hline.title hid) (by simp), Fields.set_get_eq_self (hline.description hid) (by simp),
      Fields.set_get_eq_self (hline.updated hid) (by simp)]
  · have hpasses : ¬ Query.passes [("id", .str formId)] (syncedRow formId form row) = true := by
      rw [Query.passes_str, syncedRow_id]
      exact fun h => hid h.1
    rw [syncedRow, if_neg hpasses]

/-- The row of a form that was brought in line at least once is in line. -/
theorem times_sync (n : Nat) :
    (Query.update .forms (formChanges form) [("id", .str formId)]).times (n + 1) t =
      { t with forms := t.forms.map (syncedRow formId form) } := by
  induction n with
  | zero => exact run_sync t formId form
  | succ n ih =>
    rw [Query.times, Function.iterate_succ_apply', ← Query.times, ih, run_sync]
    simp [Function.comp_def, syncedRow_syncedRow]

end

/-! ## The save -/

/-- What is read before a save. -/
theorem run_reads_eq_ok {c d : Connection} {formId : Text} {m : StoreM α} {a : α} {P : α → Prop}
    (hasks : Asks (Query.Reads formId) m) (hfinds : Finds m c.tables P) (h : m.run.run c = (.ok a, d)) :
    ∃ made, c.Spends made d ∧ insertCall ∉ made ∧ d.tables = c.tables ∧ P a := by
  obtain ⟨made, hspends, hinsert⟩ := hasks.spends c
  obtain ⟨htables, hfound⟩ := hfinds c rfl
  rw [h] at hspends htables hfound
  exact ⟨made, hspends, hinsert, htables, hfound a rfl⟩

/-- An insert that gives a row has added it, after a row for each acknowledgement that was lost. -/
theorem run_insert_eq_ok {c d : Connection} {formId : Text} {user : Json} {form : Form} {number : Int}
    {message : Json} {rows : List Row}
    (h : (ask (.insert .versions (versionRow formId user form number message))).run.run c = (.ok rows, d)) :
    ∃ made, c.Spends made d ∧
      let lost := lostCalls insertCall made c.faults
      rows = [storedRow (c.tables.ids.nth lost) formId user form number message] ∧
        d.tables.versions =
          c.tables.versions ++ repeatedRows c.tables formId user form number message lost ++ rows ∧
        d.tables.forms = c.tables.forms := by
  obtain ⟨made, hended⟩ := ended_ask c (.insert .versions (versionRow formId user form number message))
  rw [h] at hended
  rcases hended.outcome with ⟨hrows, htables⟩ | ⟨⟨e, he⟩, -⟩
  · rw [times_insert, run_insert_version] at hrows htables
    rw [Ids.next_drop] at hrows htables
    refine ⟨made, hended.spends, Except.ok.inj hrows, ?_, ?_⟩
    · rw [htables, Except.ok.inj hrows]
      rfl
    · rw [htables]
  · cases he

/-- Bringing the row of a form in line makes no call that adds the row of a version. -/
theorem run_sync_eq_ok {c d : Connection} {formId : Text} {form : Form} {rows : List Row}
    (h : (ask (.update .forms (formChanges form) [("id", .str formId)])).run.run c = (.ok rows, d)) :
    ∃ made, c.Spends made d ∧ insertCall ∉ made ∧
      d.tables = { c.tables with forms := c.tables.forms.map (syncedRow formId form) } := by
  obtain ⟨made, hended⟩ := ended_ask c (.update .forms (formChanges form) [("id", .str formId)])
  rw [h] at hended
  have hinsert : insertCall ∉ made := by
    intro hmem
    have hcall := hended.own _ hmem
    simp only [Query.call] at hcall
    revert hcall
    decide
  rcases hended.outcome with ⟨-, htables⟩ | ⟨⟨e, he⟩, -⟩
  · refine ⟨made, hended.spends, hinsert, ?_⟩
    rw [htables, ← times_sync, Query.times, Query.times, Function.iterate_succ_apply']
  · cases he

end Store

/-- **A save leaves one row for each time its insert took effect.** If a save succeeds, then behind the rows of
versions there is the row that it gives, and in front of that one row for each attempt at adding it that took
effect although it failed. These rows differ from it in the id alone. So exactly one row was added if no
acknowledgement of the insert was lost, and only then; those of the other queries do not matter, and the row of
the form is in line with what was saved. -/
theorem save_adds_row_per_lost_acknowledgement (c : Connection) (formId : Text) (user : Json) (form : Form)
    (message : Json) (row : Row) (hsaved : ((Store.save formId user form message).run.run c).1 = .ok row) :
    let after := ((Store.save formId user form message).run.run c).2
    ∃ made added, after.calls = c.calls ++ made ∧
      after.tables.versions = c.tables.versions ++ added ++ [row] ∧
      added.length = lostCalls insertCall made c.faults ∧
      (∀ twin ∈ added, ∀ column : Text, column ≠ "id" → twin.get? column = row.get? column) ∧
      (∃ number, Store.numberAfter (Store.byNumber c.tables formId).head? = .ok number ∧
        row = Store.storedRow (c.tables.ids.nth added.length) formId user form number message) ∧
      List.Forall₂ (Store.InLine formId form) c.tables.forms after.tables.forms ∧
      ((∃ one, after.tables.versions = c.tables.versions ++ [one]) ↔ lostCalls insertCall made c.faults = 0) := by
  intro after
  have hrun : (Store.save formId user form message).run.run c = (.ok row, after) := Prod.ext hsaved rfl
  clear_value after
  unfold Store.save at hrun
  -- a save looks for the form, numbers the version, adds it and brings the form in line, in this order
  obtain ⟨found, c₁, hform, hrun⟩ := Store.run_bind_eq_ok.mp hrun
  obtain ⟨number, c₂, hnumber, hrun⟩ := Store.run_bind_eq_ok.mp hrun
  obtain ⟨rows, c₃, hinsert, hrun⟩ := Store.run_bind_eq_ok.mp hrun
  obtain ⟨synced, c₄, hsync, hrun⟩ := Store.run_bind_eq_ok.mp hrun
  obtain ⟨hrow, rfl⟩ : rows.headD [] = row ∧ after = c₄ := by
    cases hrun
    exact ⟨rfl, rfl⟩
  obtain ⟨made₁, hspends₁, hreads₁, htables₁, -⟩ :=
    Store.run_reads_eq_ok (Store.reads_form formId _) (Store.finds_form formId _) hform
  obtain ⟨made₂, hspends₂, hreads₂, htables₂, hnext⟩ :=
    Store.run_reads_eq_ok (Store.reads_nextNumber formId) (Store.finds_nextNumber formId) hnumber
  obtain ⟨made₃, hspends₃, hrows, hversions₃, hforms₃⟩ := Store.run_insert_eq_ok hinsert
  obtain ⟨made₄, hspends₄, hsyncs, htables₄⟩ := Store.run_sync_eq_ok hsync
  -- only the third of these inserts, so only its calls can lose an acknowledgement of an insert
  have hlost : lostCalls insertCall (made₁ ++ (made₂ ++ (made₃ ++ made₄))) c.faults =
      lostCalls insertCall made₃ c₂.faults := by
    rw [hspends₁.lostCalls_append, hspends₂.lostCalls_append, hspends₃.lostCalls_append,
      lostCalls_eq_zero hreads₁, lostCalls_eq_zero hreads₂, lostCalls_eq_zero hsyncs]
    omega
  rw [hrows, List.headD_cons] at hrow
  subst hrow
  rw [htables₁] at htables₂ hnext
  rw [hrows, htables₂] at hversions₃
  rw [htables₂] at hforms₃ ⊢
  generalize lostCalls insertCall made₃ c₂.faults = lost at hlost hversions₃ ⊢
  let added := Store.repeatedRows c.tables formId user form number message lost
  have hlength : added.length = lost := by simp [added, Store.repeatedRows]
  have hversions : after.tables.versions =
      c.tables.versions ++ added ++ [Store.storedRow (c.tables.ids.nth lost) formId user form number message] := by
    rw [htables₄, hversions₃]
  refine ⟨made₁ ++ (made₂ ++ (made₃ ++ made₄)), added,
    (hspends₁.trans (hspends₂.trans (hspends₃.trans hspends₄))).calls, hversions, hlength.trans hlost.symm, ?_,
    ⟨number, hnext, by rw [hlength]⟩, ?_, ?_⟩
  · intro twin htwin column hcolumn
    obtain ⟨i, -, rfl⟩ := List.mem_map.mp htwin
    exact Store.get?_storedRow formId user form number message hcolumn
  · rw [htables₄, hforms₃, List.forall₂_map_right_iff]
    exact List.forall₂_same.mpr fun row _ => Store.inLine_syncedRow formId form row
  · rw [hlost, ← hlength, List.length_eq_zero_iff, hversions]
    constructor
    · rintro ⟨one, hone⟩
      have hlengths := congrArg List.length hone
      simp at hlengths
      exact hlengths
    · intro hnone
      exact ⟨_, by rw [hnone, List.append_nil]⟩

/-- Every query of a save meets a dropped connection, and all but the insert took effect before: one row. -/
theorem save_adds_one_row_through_dropped_connections :
    let form : Form := { title := "T", description := "", questions := [], settings := .standard }
    let c : Connection := {
      tables := { forms := [[("id", .str "f1"), ("user_id", .str "u1")]], versions := [] }
      faults := [some ⟨"Server disconnected", true⟩, none, some ⟨"[Errno 104]", true⟩, none,
        some ⟨"Connection reset by peer", false⟩, none, some ⟨"connection reset", true⟩] }
    let saved := (Store.save "f1" (.str "u1") form .null).run.run c
    saved.1 = .ok (Store.storedRow "form_versions-1" "f1" (.str "u1") form 1 .null) ∧
      ∃ one, saved.2.tables.versions = c.tables.versions ++ [one] := by
  intro form c saved
  have hsaved : saved.1 = .ok (Store.storedRow "form_versions-1" "f1" (.str "u1") form 1 .null) := by decide +kernel
  have hrows := save_adds_row_per_lost_acknowledgement c "f1" (.str "u1") form .null _ hsaved
  obtain ⟨made, added, hcalls, hrest⟩ := hrows
  obtain ⟨-, -, -, -, -, hone⟩ := hrest
  refine ⟨hsaved, hone.mpr ?_⟩
  have hmade : saved.2.calls = made := hcalls.trans (List.nil_append made)
  rw [← hmade]
  decide +kernel

/-- A save whose insert took effect before the connection was reset is tried again, and succeeds. -/
theorem save_stored_twice_after_connection_reset :
    let form : Form := { title := "T", description := "", questions := [], settings := .standard }
    let c : Connection := {
      tables := { forms := [[("id", .str "f1"), ("user_id", .str "u1")]], versions := [] }
      faults := [none, none, some ⟨"connection reset", true⟩] }
    let saved := (Store.save "f1" (.str "u1") form .null).run.run c
    let first := Store.storedRow "form_versions-1" "f1" (.str "u1") form 1 .null
    let second := Store.storedRow "form_versions-2" "f1" (.str "u1") form 1 .null
    saved.1 = .ok second ∧ saved.2.tables.versions = [first, second] := by
  decide +kernel

end Questionnaire
