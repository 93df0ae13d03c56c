import Questionnaire.Proofs.StoreRuns

/-!
# The history of a form

Rows of versions are only added, behind those that are there. While version numbers are integers, and failing
queries have no effect, the number of each new version is greater than every earlier one of its form. So the
newest version is the one that was added last, and the list of versions is the history backwards. What is done
to one form touches neither the rows of others nor the owner of any.

* `mergeSort_concat`: sorting puts an element above all others in front, and leaves the others alone.
* `Store.OnlyFor`: what may differ while operations are about one form.
* `Store.Grown`: what a run makes of the tables; `after_grown` that it does, by what one operation does.
* `Store.Grown.byNumber_eq`: in which order the versions are listed then.
* `history_is_append_only`: runs of any length.
-/

namespace Questionnaire

open Connection

/-! ## Sorting -/

/-- Elements above a bound and elements that are not are told apart in one way. -/
theorem append_eq_append_of_bound {α : Type} {p : α → Bool} {l₁ l₂ m₁ m₂ : List α} (h : l₁ ++ l₂ = m₁ ++ m₂)
    (hl₁ : ∀ a ∈ l₁, p a = true) (hl₂ : ∀ a ∈ l₂, p a = false) (hm₁ : ∀ a ∈ m₁, p a = true)
    (hm₂ : ∀ a ∈ m₂, p a = false) : l₁ = m₁ ∧ l₂ = m₂ := by
  have hfilter : ∀ {front back : List α}, (∀ a ∈ front, p a = true) → (∀ a ∈ back, p a = false) →
      (front ++ back).filter p = front := by
    intro front back hfront hback
    rw [List.filter_append, List.filter_eq_self.mpr hfront,
      List.filter_eq_nil_iff.mpr fun a ha => by simp [hback a ha], List.append_nil]
  obtain rfl : l₁ = m₁ := by
    rw [← hfilter hl₁ hl₂, h, hfilter hm₁ hm₂]
  exact ⟨rfl, List.append_cancel_left h⟩

section

variable {α : Type} (key : α → Int)

/-- To be sorted in front is transitive. -/
theorem keys_trans (a b c : α) (hab : decide (key b ≤ key a) = true) (hbc : decide (key c ≤ key b) = true) :
    decide (key c ≤ key a) = true := by
  simp only [decide_eq_true_eq] at *
  omega

/-- Of two things one may stand in front of the other. -/
theorem keys_total (a b : α) : (decide (key b ≤ key a) || decide (key a ≤ key b)) = true := by
  simp only [Bool.or_eq_true, decide_eq_true_eq]
  omega

/-- So sorting leaves the greater keys in front. -/
theorem pairwise_mergeSort_keys (l : List α) :
    (l.mergeSort fun a b => decide (key b ≤ key a)).Pairwise fun a b => key b ≤ key a :=
  (List.pairwise_mergeSort (keys_trans key) (keys_total key) l).imp fun h => of_decide_eq_true h

/-- Sorted by descending keys, an element whose key is above all others comes first, and the others stand as
they do without it. -/
theorem mergeSort_concat {l : List α} {x : α} (h : ∀ a ∈ l, key a < key x) :
    (l ++ [x]).mergeSort (fun a b => decide (key b ≤ key a)) =
      x :: l.mergeSort (fun a b => decide (key b ≤ key a)) := by
  induction l with
  | nil => simp
  | cons a l ih =>
    have ih := ih fun b hb => h b (List.mem_cons_of_mem a hb)
    have hax : key a < key x := h a List.mem_cons_self
    -- the head is put behind the elements above it, with the new one in their front and without it
    obtain ⟨l₁, l₂, hsort, hrest, hfront⟩ := List.mergeSort_cons (keys_trans key) (keys_total key) a (l ++ [x])
    obtain ⟨m₁, m₂, hsort', hrest', hfront'⟩ := List.mergeSort_cons (keys_trans key) (keys_total key) a l
    have hsorted := pairwise_mergeSort_keys key (a :: (l ++ [x]))
    rw [hsort, List.pairwise_append, List.pairwise_cons] at hsorted
    have hsorted' := pairwise_mergeSort_keys key (a :: l)
    rw [hsort', List.pairwise_append, List.pairwise_cons] at hsorted'
    have hsplit : l₁ ++ l₂ = (x :: m₁) ++ m₂ := by
      rw [← hrest, ih, hrest', List.cons_append]
    have hfront'' : ∀ b ∈ x :: m₁, decide (key a < key b) = true := by
      intro b hb
      rcases List.mem_cons.mp hb with rfl | hb
      · simpa using hax
      · simpa using hfront' b hb
    obtain ⟨rfl, rfl⟩ := append_eq_append_of_bound (p := fun b => decide (key a < key b)) hsplit
      (fun b hb => by simpa using hfront b hb) (fun b hb => by simpa using hsorted.2.1.1 b hb) hfront''
      (fun b hb => by simpa using hsorted'.2.1.1 b hb)
    rw [List.cons_append, hsort, hsort', List.cons_append]

end

namespace Store

/-! ## Numbers of versions -/

/-- The number of a version; zero if that is no integer. -/
def versionNumber (row : Row) : Int :=
  match row.get numberColumn with
  | .int n => n
  | _ => 0

/-- The number of a version is an integer. -/
def HasNumber (row : Row) : Prop := ∃ n, row.get numberColumn = .int n

/-- The number of a version is that in its column. -/
theorem versionNumber_of {row : Row} {n : Int} (h : row.get numberColumn = .int n) : versionNumber row = n := by
  rw [versionNumber, h]

/-- The column has the number of the version. -/
theorem HasNumber.get_eq {row : Row} (h : HasNumber row) : row.get numberColumn = .int (versionNumber row) := by
  obtain ⟨n, hn⟩ := h
  rw [hn, versionNumber_of hn]

/-- Integers are sorted by their order. -/
theorem sortsBefore_int (m n : Int) : (Json.int m).sortsBefore (.int n) = decide (m < n) := by
  have hunits : (0 : Int) < (Binary64.unitsPerOne : Int) := by
    rw [Int.natCast_pos, Binary64.unitsPerOne]
    apply Nat.pow_pos Nat.two_pos
  -- both are compared in units of the least double
  have hkeys : (Json.int m).sortsBefore (.int n) =
      (decide ((0 : Int) < 0) || (0 : Int) == 0 && decide (m * Binary64.unitsPerOne < n * Binary64.unitsPerOne)) := rfl
  rw [hkeys]
  generalize (Binary64.unitsPerOne : Int) = units at hunits ⊢
  simp [Int.mul_lt_mul_right hunits]

/-- Versions that have numbers are listed by them. -/
theorem sortDescending_eq {rows : List Row} (h : ∀ row ∈ rows, HasNumber row) :
    Query.sortDescending numberColumn rows =
      rows.mergeSort fun a b => decide (versionNumber b ≤ versionNumber a) := by
  have hcompare : ∀ a ∈ rows, ∀ b ∈ rows,
      (!(a.get numberColumn).sortsBefore (b.get numberColumn)) = decide (versionNumber b ≤ versionNumber a) := by
    intro a ha b hb
    rw [(h a ha).get_eq, (h b hb).get_eq, sortsBefore_int, ← decide_not]
    simp
  simpa [Query.sortDescending] using List.map_mergeSort (f := id) hcompare

/-- Versions with ever greater numbers are listed backwards, in front of those that were there. -/
theorem sortDescending_append {rows added : List Row} (hrows : ∀ row ∈ rows ++ added, HasNumber row)
    (hbeyond : ∀ r ∈ rows, ∀ row ∈ added, versionNumber r < versionNumber row)
    (hrising : added.Pairwise fun r row => versionNumber r < versionNumber row) :
    Query.sortDescending numberColumn (rows ++ added) =
      added.reverse ++ Query.sortDescending numberColumn rows := by
  rw [sortDescending_eq hrows, sortDescending_eq fun row hrow => hrows row (List.mem_append_left _ hrow)]
  clear hrows
  -- on what is added, the first of which joins what was there
  induction added generalizing rows with
  | nil => simp
  | cons a added ih =>
    rw [List.pairwise_cons] at hrising
    have hfirst := mergeSort_concat versionNumber fun r hr => hbeyond r hr a List.mem_cons_self
    have hothers : ∀ r ∈ rows ++ [a], ∀ row ∈ added, versionNumber r < versionNumber row := by
      intro r hr row hrow
      rcases List.mem_append.mp hr with hr | hr
      · exact hbeyond r hr row (List.mem_cons_of_mem a hrow)
      · obtain rfl := List.mem_singleton.mp hr
        exact hrising.1 row hrow
    rw [List.append_cons, ih hothers hrising.2, hfirst, List.reverse_cons, List.append_assoc]
    rfl

/-- The versions of a form are the rows with its id. -/
theorem mem_versionsOf {rows : List Row} {formId : Text} {row : Row} :
    row ∈ rows.filter (Query.passes [("form_id", .str formId)]) ↔ row ∈ rows ∧ row.get "form_id" = .str formId := by
  simp [List.mem_filter, Query.passes_str]

/-- Sorting them adds none and leaves none out. -/
theorem mem_byNumber {t : Tables} {formId : Text} {row : Row} :
    row ∈ byNumber t formId ↔ row ∈ t.versions ∧ row.get "form_id" = .str formId := by
  rw [byNumber, Query.sortDescending, List.mem_mergeSort, mem_versionsOf]

/-- The versions of a form are listed with the greatest number first. -/
theorem pairwise_byNumber {t : Tables} (hrows : ∀ row ∈ t.versions, HasNumber row) (formId : Text) :
    (byNumber t formId).Pairwise fun a b => versionNumber b ≤ versionNumber a := by
  rw [byNumber, sortDescending_eq fun row hrow => hrows row (List.mem_of_mem_filter hrow)]
  exact pairwise_mergeSort_keys versionNumber _

/-- The newest version of a form has the greatest number. -/
theorem le_newest {t : Tables} {formId : Text} {newest row : Row} (hrows : ∀ row ∈ t.versions, HasNumber row)
    (hnewest : (byNumber t formId).head? = some newest) (hlisted : row ∈ byNumber t formId) :
    versionNumber row ≤ versionNumber newest := by
  have hsorted := pairwise_byNumber hrows formId
  obtain ⟨rest, hrest⟩ := List.head?_eq_some_iff.mp hnewest
  rw [hrest] at hlisted hsorted
  rcases List.mem_cons.mp hlisted with rfl | hmem
  · exact Int.le_refl _
  · exact (List.pairwise_cons.mp hsorted).1 row hmem

/-- The number after that of a version, if it can be told, is one more. -/
theorem eq_of_numberAfter {row : Row} {n : Int} (h : HasNumber row) (hn : numberAfter (some row) = .ok n) :
    n = versionNumber row + 1 := by
  have hpart : ((row.get numberColumn).orElse (.int 0)).integerPart = .ok (versionNumber row) := by
    rw [h.get_eq]
    by_cases hzero : versionNumber row = 0
    · rw [hzero]
      rfl
    · simp [Json.orElse, Json.isEmpty, hzero, Json.integerPart]
  obtain ⟨m, hm, htold⟩ := bind_eq_ok_iff.mp hn
  obtain rfl := Except.ok.inj (hpart.symm.trans hm)
  split at htold
  · exact (Except.ok.inj htold).symm
  · cases htold

/-- The next number is greater than that of every version of the form. -/
theorem lt_numberAfter {t : Tables} {formId : Text} {n : Int} {row : Row}
    (hrows : ∀ row ∈ t.versions, HasNumber row) (hn : numberAfter (byNumber t formId).head? = .ok n)
    (hrow : row ∈ t.versions) (hform : row.get "form_id" = .str formId) : versionNumber row < n := by
  have hlisted : row ∈ byNumber t formId := mem_byNumber.mpr ⟨hrow, hform⟩
  cases hnewest : (byNumber t formId).head? with
  | none =>
    rw [List.head?_eq_none_iff.mp hnewest] at hlisted
    cases hlisted
  | some newest =>
    have hmem : newest ∈ t.versions := (mem_byNumber.mp (List.mem_of_head? hnewest)).1
    rw [hnewest] at hn
    have hle := le_newest hrows hnewest hlisted
    have hsucc := eq_of_numberAfter (hrows newest hmem) hn
    omega

/-! ## What is left alone -/

/-- Only the row of one form and its versions differ: that row in the columns that follow a save, and versions
were added. -/
structure OnlyFor (formId : Text) (t u : Tables) : Prop where
  forms : List.Forall₂ (Kept formId) t.forms u.forms
  versions : ∃ added, u.versions = t.versions ++ added ∧ ∀ row ∈ added, row.get "form_id" = .str formId

section

variable {t u v : Tables} {formId : Text}

/-- What is kept by two steps is kept by both together. -/
theorem Kept.trans {row row' row'' : Row} (h : Kept formId row row') (h' : Kept formId row' row'') :
    Kept formId row row'' where
  others hother := by
    obtain rfl := h.others hother
    exact h'.others hother
  columns column hcolumn := (h'.columns column hcolumn).trans (h.columns column hcolumn)

/-- The same of all rows. -/
theorem kept_all_trans {rows rows' rows'' : List Row} (h : List.Forall₂ (Kept formId) rows rows')
    (h' : List.Forall₂ (Kept formId) rows' rows'') : List.Forall₂ (Kept formId) rows rows'' := by
  induction h generalizing rows'' with
  | nil => exact h'
  | cons hrow _ ih =>
    cases h' with
    | cons hrow' h' => exact .cons (hrow.trans hrow') (ih h')

/-- To do nothing touches nothing. -/
theorem OnlyFor.refl (formId : Text) (t : Tables) : OnlyFor formId t t where
  forms := List.forall₂_same.mpr fun _ _ => ⟨fun _ => rfl, fun _ _ => rfl⟩
  versions := ⟨[], (List.append_nil _).symm, fun _ h => by cases h⟩

/-- Two steps for one form touch nothing else. -/
theorem OnlyFor.trans (h : OnlyFor formId t u) (h' : OnlyFor formId u v) : OnlyFor formId t v where
  forms := kept_all_trans h.forms h'.forms
  versions := by
    obtain ⟨added, hversions, hown⟩ := h.versions
    obtain ⟨added', hversions', hown'⟩ := h'.versions
    refine ⟨added ++ added', by rw [hversions', hversions, List.append_assoc], fun row hrow => ?_⟩
    rcases List.mem_append.mp hrow with hrow | hrow
    · exact hown row hrow
    · exact hown' row hrow

/-- A query about one form touches nothing else. -/
theorem onlyFor_of_concerns {q : Query} (h : q.Concerns formId) (t : Tables) : OnlyFor formId t (q.run t).2 := by
  rcases h with hreads | hwrites
  · rw [hreads.run_tables]
    exact .refl formId t
  · cases hwrites with
    | version user form number message =>
      rw [run_insert_version]
      refine ⟨(OnlyFor.refl formId t).forms, _, rfl, fun row hrow => ?_⟩
      rw [List.mem_singleton.mp hrow]
      exact storedRow_formId ..
    | form form =>
      rw [run_sync]
      refine ⟨?_, (OnlyFor.refl formId t).versions⟩
      rw [List.forall₂_map_right_iff]
      exact List.forall₂_same.mpr fun row _ => (inLine_syncedRow formId form row).toKept

/-- So does an operation about one form, whatever failures await it. -/
theorem Asks.onlyFor {α : Type} {m : StoreM α} (h : Asks (Query.Concerns formId) m) (c : Connection) :
    OnlyFor formId c.tables (m.run.run c).2.tables :=
  h.keeps (I := OnlyFor formId c.tables) (fun _ hq t ht => ht.trans (onlyFor_of_concerns hq t)) (.refl _ _)

/-- The id of a form and its owner, as its row tells them. -/
def identity (row : Row) : Option Json × Option Json := (row.get? "id", row.get? "user_id")

/-- A row that is kept has its id and its owner. -/
theorem Kept.identity_eq {row row' : Row} (h : Kept formId row row') : identity row' = identity row := by
  rw [identity, h.columns "id" (by simp [syncedColumns]), h.columns "user_id" (by simp [syncedColumns])]
  rfl

/-- No form changes its id or its owner. -/
theorem identities_of_kept {rows rows' : List Row} (h : List.Forall₂ (Kept formId) rows rows') :
    rows'.map identity = rows.map identity := by
  induction h with
  | nil => rfl
  | cons hrow _ ih => rw [List.map_cons, List.map_cons, hrow.identity_eq, ih]

end

/-- An operation asks about the form that it is for. -/
theorem Op.concerns (op : Op) : Asks (Query.Concerns op.formId) op.perform := by
  rcases op.reads_or_writes with hreads | ⟨user, w, hwrites⟩
  · exact hreads.mono fun _ => .inl
  · rw [hwrites]
    refine .bind ?_ fun _ => .pure ()
    cases w with
    | save form message => exact concerns_save op.formId user form message
    | restore versionId => exact concerns_restore op.formId versionId user

/-! ## What one operation adds -/

variable {c : Connection}

/-- On a connection whose failures have no effect, an operation adds one version of its form, or none. -/
theorem Op.adds (hc : c.Harmless) (op : Op) :
    Allows op.perform c fun _ d => d.Harmless ∧
      (d.tables.versions = c.tables.versions ∨ ∃ form row, Added c.tables d.tables op.formId form row) := by
  rcases op.reads_or_writes with hreads | ⟨user, w, hwrites⟩
  · have hlooked := hreads.looked hc
    exact ⟨hlooked.reaches.harmless, .inl (by rw [hlooked.tables])⟩
  · rw [hwrites]
    have hending : Allows (w.perform op.formId user) c fun _ d => d.Harmless ∧
        (d.tables.versions = c.tables.versions ∨ ∃ form row, Added c.tables d.tables op.formId form row) := by
      refine (w.allows_perform hc op.formId user).mono fun r d hending => ?_
      cases hending with
      | refused looked => exact ⟨looked.reaches.harmless, .inl (by rw [looked.tables])⟩
      | halfway asked reaches faulty added forms => exact ⟨reaches.harmless, .inr ⟨_, _, added⟩⟩
      | done asked reaches saved => exact ⟨reaches.harmless, .inr ⟨_, _, saved.toAdded⟩⟩
    exact hending.bind (fun _ _ h => allows_pure h) fun _ _ h => h

/-- Is the number of a version smaller than that of another, if they are of one form? -/
def Precedes (r row : Row) : Prop := r.get "form_id" = row.get "form_id" → versionNumber r < versionNumber row

/-- What a run makes of the tables: versions were added in order, of forms that are there, and no form changed
its id or its owner. -/
structure Grown (t u : Tables) (added : List Row) : Prop where
  versions : u.versions = t.versions ++ added
  numbers : ∀ row ∈ added, HasNumber row
  beyond : ∀ r ∈ t.versions, ∀ row ∈ added, Precedes r row
  rising : added.Pairwise Precedes
  found : ∀ row ∈ added, ∃ r ∈ t.forms, r.get "id" = row.get "form_id"
  identities : u.forms.map identity = t.forms.map identity

section

variable {t u v : Tables} {added added' : List Row} {formId : Text}

/-- Where the ids are those of other rows, each is found there. -/
theorem exists_id_of_identities {rows rows' : List Row} (h : rows'.map identity = rows.map identity) {id : Json}
    (hrow : ∃ r ∈ rows', r.get "id" = id) : ∃ r ∈ rows, r.get "id" = id := by
  obtain ⟨r, hr, rfl⟩ := hrow
  have hmem : identity r ∈ rows.map identity := h ▸ List.mem_map_of_mem hr
  obtain ⟨r', hr', hsame⟩ := List.mem_map.mp hmem
  refine ⟨r', hr', ?_⟩
  rw [Fields.get, Fields.get, show r'.get? "id" = r.get? "id" from congrArg Prod.fst hsame]

/-- Where no version was added, nothing has grown. -/
theorem Grown.of_versions_eq (hversions : u.versions = t.versions)
    (hidentities : u.forms.map identity = t.forms.map identity) : Grown t u [] where
  versions := by rw [hversions, List.append_nil]
  numbers := by simp
  beyond := by simp
  rising := .nil
  found := by simp
  identities := hidentities

/-- What two steps add, they add one behind the other. -/
theorem Grown.trans (h : Grown t u added) (h' : Grown u v added') : Grown t v (added ++ added') where
  versions := by rw [h'.versions, h.versions, List.append_assoc]
  numbers row hrow := (List.mem_append.mp hrow).elim (h.numbers row) (h'.numbers row)
  beyond r hr row hrow := by
    rcases List.mem_append.mp hrow with hrow | hrow
    · exact h.beyond r hr row hrow
    · exact h'.beyond r (by rw [h.versions]; exact List.mem_append_left _ hr) row hrow
  -- numbers of the second step are beyond those of the first, which are there by then
  rising := by
    rw [List.pairwise_append]
    exact ⟨h.rising, h'.rising, fun r hr row hrow =>
      h'.beyond r (by rw [h.versions]; exact List.mem_append_right _ hr) row hrow⟩
  found row hrow := by
    rcases List.mem_append.mp hrow with hrow | hrow
    · exact h.found row hrow
    · exact exists_id_of_identities h.identities (h'.found row hrow)
  identities := h'.identities.trans h.identities

/-- A version that is added is numbered beyond all of its form. -/
theorem Added.grown {form : Form} {row : Row} (h : Added t u formId form row)
    (hrows : ∀ row ∈ t.versions, HasNumber row) (hidentities : u.forms.map identity = t.forms.map identity) :
    Grown t u [row] where
  versions := h.versions
  numbers r hr := by
    obtain ⟨n, -, hnumber⟩ := h.number_eq
    exact ⟨n, by rw [List.mem_singleton.mp hr, hnumber]⟩
  beyond r hr row' hrow' hform := by
    obtain rfl := List.mem_singleton.mp hrow'
    obtain ⟨n, hn, hnumber⟩ := h.number_eq
    have hlt := lt_numberAfter hrows hn hr (hform.trans h.formId_eq)
    rwa [versionNumber_of hnumber]
  rising := List.pairwise_singleton _ _
  found r hr := by
    obtain ⟨found, hfound⟩ := h.found
    refine ⟨found, List.mem_of_find?_eq_some hfound, ?_⟩
    rw [List.mem_singleton.mp hr, h.formId_eq]
    exact (Query.passes_str.mp (List.find?_some hfound)).1
  identities := hidentities

end

/-! ## Runs -/

/-- An operation adds a version or none. -/
theorem Op.grown (hc : c.Harmless) (hrows : ∀ row ∈ c.tables.versions, HasNumber row) (op : Op) :
    (op.perform.run.run c).2.Harmless ∧ ∃ added, Grown c.tables (op.perform.run.run c).2.tables added := by
  have hidentities := identities_of_kept (op.concerns.onlyFor c).forms
  obtain ⟨hharmless, hsame | ⟨form, row, hadded⟩⟩ := op.adds hc
  · exact ⟨hharmless, [], .of_versions_eq hsame hidentities⟩
  · exact ⟨hharmless, [row], hadded.grown hrows hidentities⟩

/-- So operations that follow each other only add versions. -/
theorem after_grown (hc : c.Harmless) (hrows : ∀ row ∈ c.tables.versions, HasNumber row) (ops : List Op) :
    ∃ added, Grown c.tables (after c ops).tables added := by
  -- on the operations, each of which adds to what was there
  induction ops generalizing c with
  | nil => exact ⟨[], .of_versions_eq rfl rfl⟩
  | cons op ops ih =>
    obtain ⟨hharmless, added, hgrown⟩ := op.grown hc hrows
    obtain ⟨added', hgrown'⟩ := ih hharmless fun row hrow => by
      rw [hgrown.versions] at hrow
      exact (List.mem_append.mp hrow).elim (hrows row) (hgrown.numbers row)
    exact ⟨added ++ added', hgrown.trans hgrown'⟩

/-! ## Reading the history -/

section

variable {t u : Tables} {added : List Row} {formId : Text}

/-- Within a form the numbers of added versions rise. -/
theorem Grown.rising_versionsOf (h : Grown t u added) (formId : Text) :
    (added.filter (Query.passes [("form_id", .str formId)])).Pairwise fun r row =>
      versionNumber r < versionNumber row := by
  refine (h.rising.filter _).imp_of_mem ?_
  intro r row hr hrow hprecedes
  exact hprecedes ((mem_versionsOf.mp hr).2.trans (mem_versionsOf.mp hrow).2.symm)

/-- The versions that a run adds are listed backwards, in front of those that were there. -/
theorem Grown.byNumber_eq (h : Grown t u added) (hrows : ∀ row ∈ t.versions, HasNumber row) (formId : Text) :
    byNumber u formId =
      (added.filter (Query.passes [("form_id", .str formId)])).reverse ++ byNumber t formId := by
  unfold byNumber
  rw [h.versions, List.filter_append]
  refine sortDescending_append ?_ ?_ ?_
  · intro row hrow
    rcases List.mem_append.mp hrow with hrow | hrow
    · exact hrows row (mem_versionsOf.mp hrow).1
    · exact h.numbers row (mem_versionsOf.mp hrow).1
  · intro r hr row hrow
    obtain ⟨hrmem, hrform⟩ := mem_versionsOf.mp hr
    obtain ⟨hmem, hform⟩ := mem_versionsOf.mp hrow
    exact h.beyond r hrmem row hmem (hrform.trans hform.symm)
  · exact h.rising_versionsOf formId

/-- The columns that a row is cut to are as they were. -/
theorem get?_project (columns : List Text) (row : Row) (column : Text) :
    (Query.project columns row : Fields).get? column = if column ∈ columns then row.get? column else none := by
  induction columns with
  | nil => rfl
  | cons c columns ih =>
    unfold Query.project at *
    by_cases hc : column = c
    · subst hc
      cases hcolumn : row.get? column with
      | none => simp [hcolumn, ih]
      | some v => simp [hcolumn, Fields.get?_cons]
    · cases hcolumn : row.get? c with
      | none => simp [hcolumn, ih, hc]
      | some v => simp [hcolumn, Fields.get?_cons, ih, hc]

/-- A summary tells the number of its version. -/
theorem versionNumber_summary (row : Row) : versionNumber (Query.project summaryColumns row) = versionNumber row := by
  unfold versionNumber Fields.get
  rw [get?_project, if_pos (by simp [summaryColumns, numberColumn])]

/-- The newest version is read, where no query fails. -/
theorem ensures_newest? (formId : Text) :
    Ensures (newest? formId) t fun r u => r = .ok (byNumber t formId).head? ∧ u = t := by
  unfold newest?
  rw [map_eq_pure_bind]
  refine (ensures_ask _).bind_ok ?_
  rw [show (Query.run _ t).1 = ((byNumber t formId).take 1) from rfl, List.head?_take, if_neg Nat.one_ne_zero]
  exact ensures_pure _

/-- The same where there is one. -/
theorem ensures_newest {row : Row} (h : (byNumber t formId).head? = some row) :
    Ensures (newest formId) t fun r u => r = .ok row ∧ u = t := by
  unfold newest
  refine (ensures_newest? formId).bind_ok ?_
  rw [h]
  exact ensures_pure row

/-- Without faults the newest version is given to whom the form is. -/
theorem latestVersion_of_steady {d : Connection} (hd : d.Steady) {row : Row}
    (h : (byNumber d.tables formId).head? = some row) (user : Option Json) :
    ((latestVersion formId user).run.run d).1 = ((form formId user).run.run d).1.map fun _ => row := by
  unfold latestVersion
  rw [run_bind]
  have hlooked := (reads_form formId user).looked hd.harmless
  rcases hform : (form formId user).run.run d with ⟨e | found, d'⟩
  · rfl
  · rw [hform] at hlooked
    exact (ensures_newest h d' (hlooked.reaches.steady hd) hlooked.tables).2.1

/-- A form that has versions is found. -/
theorem Grown.find?_form (h : Grown t u added) {row : Row}
    (hrow : row ∈ added.filter (Query.passes [("form_id", .str formId)])) :
    ∃ found, u.forms.find? (Query.passes [("id", .str formId)]) = some found := by
  obtain ⟨hadded, hform⟩ := mem_versionsOf.mp hrow
  obtain ⟨r, hr, hid⟩ := exists_id_of_identities h.identities.symm (h.found row hadded)
  rw [← Option.isSome_iff_exists, List.find?_isSome]
  exact ⟨r, hr, Query.passes_str.mpr ⟨hid.trans hform, rfl⟩⟩

end

end Store

/-- **The history of a form is append-only and strictly numbered.** Let version numbers be integers, let failing
queries have no effect on the tables, and let anything be done to the store. Then versions were only added,
each with a number greater than every earlier one of its form, and no form changed its id or its owner. What is
done next touches only the row of one form, and adds versions of it alone. Listed, the versions of a form that
were added come first, with strictly decreasing numbers, and the newest version is the one that was added
last. -/
theorem history_is_append_only (c : Connection) (ops : List Store.Op) (hc : c.Harmless)
    (hnumbers : ∀ row ∈ c.tables.versions, Store.HasNumber row) :
    let later := Store.after c ops
    ∃ added, Store.Grown c.tables later.tables added ∧
      (∀ op : Store.Op, Store.OnlyFor op.formId later.tables (op.perform.run.run later).2.tables) ∧
      ∀ (formId : Text) (user : Option Json) (d : Connection), d.tables = later.tables →
        let own := added.filter (Query.passes [("form_id", .str formId)])
        let listed := own.reverse.map (Query.project Store.summaryColumns)
        (listed.Pairwise fun a b => Store.versionNumber b < Store.versionNumber a) ∧
        (∀ rows, ((Store.versions formId user).run.run d).1 = .ok rows →
          rows = listed ++ (Store.byNumber c.tables formId).map (Query.project Store.summaryColumns)) ∧
        ∀ last, own.getLast? = some last →
          (∀ row, ((Store.latestVersion formId user).run.run d).1 = .ok row → row = last) ∧
          (d.Steady → ((Store.latestVersion formId none).run.run d).1 = .ok last ∧
            ((Store.latestVersion formId user).run.run d).1 =
              ((Store.form formId user).run.run d).1.map fun _ => last) := by
  intro later
  obtain ⟨added, hgrown⟩ := Store.after_grown hc hnumbers ops
  refine ⟨added, hgrown, fun op => op.concerns.onlyFor later, fun formId user d hd => ?_⟩
  intro own listed
  -- added versions are listed before those that were there, the last one first
  have horder := hgrown.byNumber_eq hnumbers formId
  refine ⟨?_, fun rows hrows => ?_, fun last hlast => ?_⟩
  · simpa [listed, List.pairwise_map, List.pairwise_reverse, Store.versionNumber_summary] using
      hgrown.rising_versionsOf formId
  · rw [(Store.finds_versions formId user d hd).2 rows hrows, horder, List.map_append]
  · have hnewest : (Store.byNumber later.tables formId).head? = some last := by
      rw [horder, List.head?_append, List.head?_reverse, hlast]
      rfl
    refine ⟨fun row hrow => ?_, fun hsteady => ?_⟩
    · have hfound := (Store.finds_latestVersion formId user d hd).2 row hrow
      exact Option.some.inj (hfound.symm.trans hnewest)
    · have hresult := Store.latestVersion_of_steady hsteady (hd ▸ hnewest)
      obtain ⟨found, hfound⟩ := hgrown.find?_form (List.mem_of_getLast? hlast)
      refine ⟨?_, hresult user⟩
      rw [hresult none, (Store.ensures_form_found hfound d hsteady hd).2.1]
      rfl

/-- From a negative number and from none, with a save that ends halfway, one that is refused, and a restore. -/
theorem history_is_append_only_from_negative :
    let form : Form := { title := "T", description := "D", questions := [], settings := .standard }
    let c : Connection := {
      tables := {
        forms := [[("id", .str "f"), ("user_id", .str "u")], [("id", .str "g"), ("user_id", .str "w")]]
        versions := [[("id", .str "v"), ("form_id", .str "g"), (Store.numberColumn, .int (-1))]] }
      faults := [none, none, none, some ⟨"boom", false⟩] }
    let ops : List Store.Op := [.save "f" (.str "u") form .null, .save "f" (.str "w") form .null,
      .restore "f" "form_versions-2" (.str "u"), .save "g" (.str "w") form .null]
    let later := Store.after c ops
    c.Harmless ∧ (∀ row ∈ c.tables.versions, Store.HasNumber row) ∧
    later.tables.versions.map Store.versionNumber = [-1, 1, 2, 0] ∧
    ∃ last, ((Store.latestVersion "f" none).run.run later).1 = .ok last ∧ Store.versionNumber last = 2 := by
  intro form c ops later
  have hc : c.Harmless := by simp [c, Connection.Harmless]
  have hnumbers : ∀ row ∈ c.tables.versions, Store.HasNumber row := by
    simp only [c, List.mem_singleton, forall_eq]
    exact ⟨-1, rfl⟩
  -- the one fault has struck the first save by then
  have hsteady : later.Steady := by
    rw [Connection.Steady, show later.faults = [] by decide +kernel]
    simp
  obtain ⟨added, hgrown, -, hread⟩ := history_is_append_only c ops hc hnumbers
  have hadded : added = later.tables.versions.drop 1 := by
    rw [hgrown.versions]
    rfl
  have hlast : ((added.filter (Query.passes [("form_id", .str "f")])).getLast?.map Store.versionNumber) = some 2 := by
    rw [hadded]
    decide +kernel
  obtain ⟨last, hlast, htwo⟩ := Option.map_eq_some_iff.mp hlast
  exact ⟨hc, hnumbers, by decide +kernel, last, (((hread "f" none later rfl).2.2 last hlast).2 hsteady).1, htwo⟩

end Questionnaire
