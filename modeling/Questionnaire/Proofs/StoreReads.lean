import Questionnaire.Proofs.Steps
import Questionnaire.Proofs.StoreQueries

/-!
# What is read

Reading leaves the tables as they are. What it gives is told by the tables alone, whatever failures await the
queries: a failure can only mean that nothing is given.

* `Store.Finds`: the rule for what an operation gives, with one lemma for each operation that reads.
* `Store.byNumber`: the versions of a form in the order in which they are listed.
* `Store.numberAfter`: the number of the version that comes next.
-/

namespace Questionnaire

/-- While attempts keep the state as asked, a value comes from an attempt on such a state. -/
theorem Retry.go_keeps {σ α : Type} {I : σ → Prop} {query : σ → Except Text α × σ}
    (h : ∀ s, I s → I (query s).2) (base : Json) (limit left attempt : Nat) {s : σ} (hs : I s) :
    I (go base limit query left attempt s).state ∧
      ∀ a, (go base limit query left attempt s).result = .ok a → ∃ s, I s ∧ (query s).1 = .ok a := by
  -- on the repetitions left, as the attempts themselves
  induction left generalizing attempt s with
  | zero =>
    exact ⟨h s hs, fun a ha => ⟨s, hs, mapError_eq_ok.mp ha⟩⟩
  | succ left ih =>
    have hnext := h s hs
    unfold go
    rcases hresult : query s with ⟨e | b, s'⟩
    · rw [hresult] at hnext
      dsimp only
      split
      · cases delay base attempt with
        | error e => exact ⟨hnext, fun a ha => by cases ha⟩
        | ok pause => exact ih (attempt + 1) hnext
      · exact ⟨hnext, fun a ha => by cases ha⟩
    · rw [hresult] at hnext
      refine ⟨hnext, fun a ha => ⟨s, hs, ?_⟩⟩
      rw [hresult, Except.ok.inj ha]

/-- Who only reads leaves the tables as they are, and gives rows that are there. -/
theorem Connection.query_of_reads {q : Query} {formId : Text} (hq : q.Reads formId) (c : Connection) :
    (c.query q).2.tables = c.tables ∧ ∀ rows, (c.query q).1 = .ok rows → rows = (q.run c.tables).1 := by
  -- an attempt keeps the tables, whether a fault strikes before it, after it or not at all
  have hsame : ∀ d : Connection, d.tables = c.tables → (execute q d).2.tables = c.tables := by
    intro d hd
    have hrun := hq.run_tables d.tables
    unfold execute
    dsimp only
    cases d.faults.head?.join with
    | none => rw [← hd]; exact hrun
    | some fault =>
      dsimp only
      split
      · rw [← hd]; exact hrun
      · exact hd
  obtain ⟨htables, hresult⟩ :=
    Retry.go_keeps hsame Retry.storeBase Retry.storeLimit Retry.storeLimit 0 (s := c) rfl
  refine ⟨htables, fun rows hrows => ?_⟩
  -- rows come from the attempt that succeeded, on the same tables
  obtain ⟨d, hd, hexecute⟩ := hresult rows hrows
  unfold execute at hexecute
  dsimp only at hexecute
  cases hfault : d.faults.head?.join with
  | none =>
    rw [hfault] at hexecute
    rw [← hd]
    exact (Except.ok.inj hexecute).symm
  | some fault =>
    rw [hfault] at hexecute
    cases hexecute

namespace Store

variable {α β : Type} {m : StoreM α} {k : α → StoreM β} {t : Tables} {P : α → Prop} {Q : β → Prop}

/-! ## What an operation gives -/

/-- Whatever failures await it, the operation leaves the tables as they are, and what it gives, if anything, is
as asked. -/
def Finds (m : StoreM α) (t : Tables) (P : α → Prop) : Prop :=
  ∀ c : Connection, c.tables = t → (m.run.run c).2.tables = t ∧ ∀ a, (m.run.run c).1 = .ok a → P a

/-- What is found first is known of where the rest of the operation goes on. -/
theorem Finds.bind (h : Finds m t P) (hk : ∀ a, P a → Finds (k a) t Q) : Finds (m >>= k) t Q := by
  intro c hc
  obtain ⟨htables, hresult⟩ := h c hc
  rw [run_bind]
  rcases hm : m.run.run c with ⟨e | a, d⟩
  · rw [hm] at htables
    exact ⟨htables, fun b hb => by cases hb⟩
  · rw [hm] at htables hresult
    exact hk a (hresult a rfl) d htables

/-- What is given without a query is known at once. -/
theorem finds_pure {a : α} (h : P a) : Finds (pure a) t P :=
  fun _ hc => ⟨hc, fun _ hb => Except.ok.inj hb ▸ h⟩

/-- An operation that fails gives nothing of which anything would be asked. -/
theorem finds_throw (e : StoreError) : Finds (throw e) t P :=
  fun _ hc => ⟨hc, fun _ hb => by cases hb⟩

/-- A notice leaves the tables as they are. -/
theorem finds_note (notices : List Notice) : Finds (note notices) t fun _ => True :=
  fun _ hc => ⟨hc, fun _ _ => trivial⟩

/-- A query that only reads gives what it gives on the tables. -/
theorem finds_ask {q : Query} (formId : Text) (hq : q.Reads formId) : Finds (ask q) t (· = (q.run t).1) := by
  rintro c rfl
  obtain ⟨htables, hrows⟩ := c.query_of_reads hq
  rw [run_ask]
  exact ⟨htables, fun rows hresult => hrows rows (mapError_eq_ok.mp hresult)⟩

/-- Asked for one row, the tables give the first that passes the filters. -/
theorem run_select_first (table : Table) (filters : List (Text × Json)) (t : Tables) :
    ((Query.select table none filters none (some 1)).run t).1 =
      ((t.rows table).find? (Query.passes filters)).toList := by
  simp [Query.run, List.take_one, List.head?_filter]

/-! ## One operation after the other -/

/-- The versions of a form as they are listed: the greatest number first. -/
def byNumber (t : Tables) (formId : Text) : List Row :=
  Query.sortDescending numberColumn (t.versions.filter (Query.passes [("form_id", .str formId)]))

/-- The number after that of the newest version, an empty number counting as zero, if it can be told. -/
def numberAfter : Option Row → Except StoreError Int
  | none => .ok 1
  | some row => do
    let number ← ((row.get numberColumn).orElse (.int 0)).integerPart
    if Json.isTellable (number + 1) then .ok (number + 1) else .error .numberTooLong

/-- What is given is the first row with the id, and it is the user's if there is one. -/
theorem finds_form (id : Text) (user : Option Json) :
    Finds (form id user) t fun row => t.forms.find? (Query.passes [("id", .str id)]) = some row ∧
      ∀ u, user = some u → (row.get "user_id").equals u = true := by
  unfold form
  refine (finds_ask id .form).bind ?_
  rintro rows rfl
  rw [Query.formRow, run_select_first]
  -- no row, a row whose owner is not asked for, and a row of the user or of somebody else
  cases hfind : (t.rows .forms).find? (Query.passes [("id", .str id)]) with
  | none => exact finds_throw _
  | some row =>
    dsimp only [Option.toList_some]
    split
    · exact finds_pure ⟨hfind, by simp⟩
    · split
      · rename_i user howner
        exact finds_pure ⟨hfind, by simpa using howner⟩
      · exact (finds_note _).bind fun _ _ => finds_throw _

/-- The versions of a form are listed by their numbers, the greatest first. -/
theorem finds_versions (formId : Text) (user : Option Json) :
    Finds (versions formId user) t (· = (byNumber t formId).map (Query.project summaryColumns)) :=
  (finds_form formId user).bind fun _ _ => finds_ask formId (.versions (by simp))

/-- A version is looked for by its id among those of the form. -/
theorem finds_version (formId versionId : Text) (user : Option Json) :
    Finds (version formId versionId user) t fun row =>
      t.versions.find? (Query.passes [("id", .str versionId), ("form_id", .str formId)]) = some row := by
  unfold version
  refine (finds_form formId user).bind fun _ _ => (finds_ask formId (.versions (by simp))).bind ?_
  rintro rows rfl
  rw [run_select_first]
  cases hfind : (t.rows .versions).find? (Query.passes [("id", .str versionId), ("form_id", .str formId)]) with
  | none => exact finds_throw _
  | some row => exact finds_pure hfind

/-- The newest version has the greatest number, if there is a version. -/
theorem finds_newest? (formId : Text) : Finds (newest? formId) t (· = (byNumber t formId).head?) := by
  unfold newest?
  rw [map_eq_pure_bind]
  refine (finds_ask formId (.versions (by simp))).bind ?_
  rintro rows rfl
  exact finds_pure (by simp [Query.run, byNumber, Tables.rows, List.take_one])

/-- Where there is none, the operation fails. -/
theorem finds_newest (formId : Text) : Finds (newest formId) t fun row => (byNumber t formId).head? = some row := by
  unfold newest
  refine (finds_newest? formId).bind ?_
  rintro row? hnewest
  split
  · exact finds_pure hnewest.symm
  · exact finds_throw _

/-- The latest version is the newest one, once the form has been found. -/
theorem finds_latestVersion (formId : Text) (user : Option Json) :
    Finds (latestVersion formId user) t fun row => (byNumber t formId).head? = some row :=
  (finds_form formId user).bind fun _ _ => finds_newest formId

/-- The next number is told by the newest version. -/
theorem finds_nextNumber (formId : Text) :
    Finds (nextNumber formId) t fun number => numberAfter (byNumber t formId).head? = .ok number := by
  unfold nextNumber
  refine (finds_newest? formId).bind ?_
  rintro row? rfl
  -- the first version of a form is number one
  cases (byNumber t formId).head? with
  | none => exact finds_pure rfl
  | some row =>
    dsimp only
    cases hnumber : ((row.get numberColumn).orElse (.int 0)).integerPart with
    | error e => exact finds_throw e
    | ok n =>
      dsimp only
      split
      · rename_i htellable
        exact finds_pure (by rw [numberAfter, hnumber]; exact if_pos htellable)
      · exact finds_throw _

/-- That a text can be sent is all that is found out. -/
theorem finds_told (v : Json) : Finds (told v) t fun _ => True := by
  unfold told
  split
  · exact finds_pure trivial
  · exact finds_throw _

/-- A definition is loaded from the column of the version and the texts of the row of the form. -/
theorem finds_formOf (version form : Row) :
    Finds (formOf version form) t fun f =>
      (Form.ofStored (version.get "form_data") (form.get "title") (form.get "description")).result = .ok f := by
  unfold formOf
  refine (finds_note _).bind fun _ _ => ?_
  split
  · rename_i f hloaded
    exact finds_pure hloaded
  · exact finds_throw _

end Store
end Questionnaire
