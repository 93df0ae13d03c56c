import Questionnaire.Proofs.Answers
import Questionnaire.Store.Versions

/-!
# What operations ask of the tables

Operations on forms and versions reach the tables through queries alone. So what every query of a kind does
holds of whole operations made of such queries, however often a query is tried again, and whatever failures
await it, with an effect on the tables or without.

* `Query.Reads`, `Query.Writes`: the queries that read, and that write, rows of one form and its versions.
* `Allows`: how a step can end, with a rule for one step after another.
* `Store.Asks`: an operation all of whose queries are of a kind; one lemma for each operation.
* `Store.Asks.agree`: on tables that no query of the kind tells apart, an operation goes alike.
* `Store.Asks.keeps`: what every query of the kind keeps of the tables is kept by the operation.
-/

namespace Questionnaire

/-! ## Kinds of queries -/

namespace Query

/-- A row passes filters by text if its columns hold the texts. -/
theorem passes_str {column s : Text} {filters : List (Text × Json)} {row : Row} :
    passes ((column, .str s) :: filters) row = true ↔
      row.get column = .str s ∧ passes filters row = true := by
  simp [passes]

@[simp] theorem passes_nil (row : Row) : passes [] row = true := rfl

/-- The query for the row of a form. -/
def formRow (id : Text) : Query := .select .forms none [("id", .str id)] none (some 1)

/-- The queries that read the row of a form, or rows of its versions. -/
inductive Reads (formId : Text) : Query → Prop
  | form : Reads formId (formRow formId)
  | versions {columns : Option (List Text)} {filters : List (Text × Json)} {descending : Option Text}
      {limit : Option Nat} (h : (("form_id" : Text), Json.str formId) ∈ filters) :
      Reads formId (.select .versions columns filters descending limit)

/-- The queries that add a version of a form, or bring the row of the form in line. -/
inductive Writes (formId : Text) : Query → Prop
  | version (user : Json) (form : Form) (number : Int) (message : Json) :
      Writes formId (.insert .versions (Store.versionRow formId user form number message))
  | form (form : Form) : Writes formId (.update .forms (Store.formChanges form) [("id", .str formId)])

/-- The queries that read or write rows of one form and its versions. -/
def Concerns (formId : Text) (q : Query) : Prop := q.Reads formId ∨ q.Writes formId

variable {q : Query} {formId : Text} {t u : Tables}

/-- Who only reads leaves the tables as they are. -/
theorem Reads.run_tables (h : q.Reads formId) (t : Tables) : (q.run t).2 = t := by
  cases h <;> rfl

/-- On related tables the query gives the same rows and leaves related tables. -/
def Respects (R : Tables → Tables → Prop) (q : Query) : Prop :=
  ∀ t u, R t u → (q.run t).1 = (q.run u).1 ∧ R (q.run t).2 (q.run u).2

/-- On one and the same tables it does so, as far as it keeps what is asked of them. -/
theorem respects_of_keeps {I : Tables → Prop} (h : ∀ t, I t → I (q.run t).2) :
    q.Respects fun t u => t = u ∧ I t := by
  rintro t _ ⟨rfl, ht⟩
  exact ⟨rfl, rfl, h t ht⟩

end Query

/-! ## Steps that may fail -/

section

variable {ε σ α β : Type} {m : ExceptT ε (StateM σ) α} {k : α → ExceptT ε (StateM σ) β} {s : σ}

/-- One step after another, unless the first fails. -/
theorem run_bind (m : ExceptT ε (StateM σ) α) (k : α → ExceptT ε (StateM σ) β) (s : σ) :
    (m >>= k).run.run s =
      match m.run.run s with
      | (.ok a, s) => (k a).run.run s
      | (.error e, s) => (.error e, s) := by
  rw [ExceptT.run_bind, StateT.run_bind]
  rcases h : m.run.run s with ⟨_ | a, s'⟩ <;> rfl

/-- From a state, the step ends with a result and a state as asked. -/
def Allows (m : ExceptT ε (StateM σ) α) (s : σ) (post : Except ε α → σ → Prop) : Prop :=
  post (m.run.run s).1 (m.run.run s).2

/-- What is asked of the end may be weakened. -/
theorem Allows.mono {post post' : Except ε α → σ → Prop} (h : Allows m s post)
    (himp : ∀ r t, post r t → post' r t) : Allows m s post' :=
  himp _ _ h

/-- The end of the first step, where it succeeds, is where the second starts. -/
theorem Allows.bind {mid : Except ε α → σ → Prop} {post : Except ε β → σ → Prop} (h : Allows m s mid)
    (hok : ∀ a t, mid (.ok a) t → Allows (k a) t post) (herror : ∀ e t, mid (.error e) t → post (.error e) t) :
    Allows (m >>= k) s post := by
  unfold Allows at *
  rw [run_bind]
  rcases hm : m.run.run s with ⟨e | a, t⟩
  · rw [hm] at h
    exact herror e t h
  · rw [hm] at h
    exact hok a t h

/-- To give a result ends a step where it stands. -/
theorem allows_pure {a : α} {post : Except ε α → σ → Prop} (h : post (.ok a) s) :
    Allows (pure a : ExceptT ε (StateM σ) α) s post := h

/-- So does a failure. -/
theorem allows_throw {e : ε} {post : Except ε α → σ → Prop} (h : post (.error e) s) :
    Allows (throw e : ExceptT ε (StateM σ) α) s post := h

end

/-! ## One query, with its repetitions -/

/-- Attempts that go alike from related states are repeated alike. -/
theorem Retry.go_alike {σ τ α : Type} {R : σ → τ → Prop} {query : σ → Except Text α × σ}
    {query' : τ → Except Text α × τ}
    (h : ∀ s t, R s t → (query s).1 = (query' t).1 ∧ R (query s).2 (query' t).2) (base : Json)
    (limit left attempt : Nat) {s : σ} {t : τ} (hst : R s t) :
    (go base limit query left attempt s).result = (go base limit query' left attempt t).result ∧
      R (go base limit query left attempt s).state (go base limit query' left attempt t).state ∧
      (go base limit query left attempt s).delays = (go base limit query' left attempt t).delays ∧
      (go base limit query left attempt s).notices = (go base limit query' left attempt t).notices := by
  -- on the repetitions left: the first attempt goes alike, and so do the others from where it ends
  induction left generalizing attempt s t with
  | zero =>
    obtain ⟨hresult, hstate⟩ := h s t hst
    exact ⟨congrArg (Except.mapError QueryFailure.failed) hresult, hstate, rfl, rfl⟩
  | succ left ih =>
    obtain ⟨hresult, hstate⟩ := h s t hst
    rcases hs : query s with ⟨r, s'⟩
    rcases ht : query' t with ⟨r', t'⟩
    rw [hs, ht] at hresult hstate
    obtain rfl : r = r' := hresult
    simp only [go, hs, ht]
    cases r with
    | ok a => exact ⟨rfl, hstate, rfl, rfl⟩
    | error e =>
      dsimp only
      split
      · cases delay base attempt with
        | error e => exact ⟨rfl, hstate, rfl, rfl⟩
        | ok pause =>
          obtain ⟨hresult, hstate, hdelays, hnotices⟩ := ih (attempt + 1) hstate
          exact ⟨hresult, hstate, by rw [hdelays], by rw [hnotices]⟩
      · exact ⟨rfl, hstate, rfl, rfl⟩

namespace Connection

/-- Connections that differ in their tables alone, which are related. -/
structure Alike (R : Tables → Tables → Prop) (c d : Connection) : Prop where
  tables : R c.tables d.tables
  rest : d = { c with tables := d.tables }

variable {R : Tables → Tables → Prop} {c d : Connection} {q : Query}

/-- A query that cannot tell two connections apart is executed alike on both, with the same fault. -/
theorem Alike.execute (h : Alike R c d) (hq : q.Respects R) :
    (c.execute q).1 = (d.execute q).1 ∧ Alike R (c.execute q).2 (d.execute q).2 := by
  obtain ⟨htables, hrest⟩ := h
  obtain ⟨hrows, hafter⟩ := hq c.tables d.tables htables
  rw [hrest]
  unfold Connection.execute
  dsimp only
  -- a fault strikes on both before the effect, or on both behind it
  cases c.faults.head?.join with
  | none => exact ⟨congrArg Except.ok hrows, hafter, rfl⟩
  | some fault =>
    refine ⟨rfl, ?_⟩
    dsimp only
    split
    · exact ⟨hafter, rfl⟩
    · exact ⟨htables, rfl⟩

/-- So are the attempts at it, with the same delays between them. -/
theorem Alike.query (h : Alike R c d) (hq : q.Respects R) :
    (c.query q).1 = (d.query q).1 ∧ Alike R (c.query q).2 (d.query q).2 := by
  obtain ⟨hresult, hstate, hdelays, hnotices⟩ := Retry.go_alike (R := Alike R)
    (fun _ _ h => h.execute hq) Retry.storeBase Retry.storeLimit Retry.storeLimit 0 h
  unfold Connection.query Retry.run
  refine ⟨hresult, hstate.tables, ?_⟩
  dsimp only
  rw [hdelays, hnotices, hstate.rest]

end Connection

/-! ## Operations made of queries -/

namespace Store

variable {α β : Type} {m : StoreM α} {k : α → StoreM β}

/-- Asking a query fails as its last attempt does. -/
theorem run_ask (q : Query) (c : Connection) :
    (ask q).run.run c = ((c.query q).1.mapError fun e => .queryFailed e.message, (c.query q).2) := by
  have hget : (get : StoreM Connection).run.run c = (.ok c, c) := rfl
  have hset : (set (c.query q).2 : StoreM PUnit).run.run c = (.ok ⟨⟩, (c.query q).2) := rfl
  unfold ask
  simp only [run_bind, hget, hset]
  -- the connection is put back before the result is looked at
  cases (c.query q).1 <;> rfl

/-- An operation that does nothing but ask queries of a kind, leave notices and fail. -/
inductive Asks (kind : Query → Prop) : {α : Type} → StoreM α → Prop
  | pure {α : Type} (a : α) : Asks kind (pure a : StoreM α)
  | throw {α : Type} (e : StoreError) : Asks kind (throw e : StoreM α)
  | note (notices : List Notice) : Asks kind (note notices)
  | ask {q : Query} (h : kind q) : Asks kind (ask q)
  | bind {α β : Type} {m : StoreM α} {k : α → StoreM β} (hm : Asks kind m) (hk : ∀ a, Asks kind (k a)) :
      Asks kind (m >>= k)

namespace Asks

variable {kind kind' : Query → Prop}

/-- Queries of a kind are queries of any wider kind. -/
theorem mono (h : Asks kind m) (himp : ∀ q, kind q → kind' q) : Asks kind' m := by
  induction h with
  | pure a => exact .pure a
  | throw e => exact .throw e
  | note notices => exact .note notices
  | ask h => exact .ask (himp _ h)
  | bind _ _ ihm ihk => exact .bind ihm ihk

/-- **Operations cannot tell apart what their queries cannot.** From connections with related tables an
operation gives the same result and leaves connections with related tables. -/
theorem agree {R : Tables → Tables → Prop} (h : Asks kind m) (hkind : ∀ q, kind q → q.Respects R)
    {c d : Connection} (hcd : c.Alike R d) :
    (m.run.run c).1 = (m.run.run d).1 ∧ (m.run.run c).2.Alike R (m.run.run d).2 := by
  induction h generalizing c d with
  | pure a => exact ⟨rfl, hcd⟩
  | throw e => exact ⟨rfl, hcd⟩
  | note notices => exact ⟨rfl, hcd.tables, by rw [hcd.rest]; rfl⟩
  | ask hq =>
    obtain ⟨hresult, hafter⟩ := hcd.query (hkind _ hq)
    rw [run_ask, run_ask, hresult]
    exact ⟨rfl, hafter⟩
  | @bind _ _ m k _ _ ihm ihk =>
    -- the first step ends alike on both, so the second starts alike
    obtain ⟨hresult, hafter⟩ := ihm hcd
    rw [run_bind, run_bind]
    rcases hc : m.run.run c with ⟨r, c'⟩
    rcases hd : m.run.run d with ⟨r', d'⟩
    rw [hc, hd] at hresult hafter
    obtain rfl : r = r' := hresult
    cases r with
    | ok a => exact ihk a hafter
    | error e => exact ⟨rfl, hafter⟩

/-- What every query of the kind keeps of the tables. -/
theorem keeps {I : Tables → Prop} (h : Asks kind m) (hkind : ∀ q, kind q → ∀ t, I t → I (q.run t).2)
    {c : Connection} (hc : I c.tables) : I (m.run.run c).2.tables := by
  -- two runs that are the same run
  have hagree := h.agree (fun q hq => Query.respects_of_keeps (hkind q hq)) (d := c) ⟨⟨rfl, hc⟩, rfl⟩
  exact hagree.2.tables.2

end Asks

/-! ## What each operation asks -/

/-- The row of a form is found by one query. -/
theorem asks_form (id : Text) (user : Option Json) : Asks (· = .formRow id) (form id user) := by
  unfold form
  refine .bind (.ask rfl) fun rows => ?_
  split
  · exact .throw _
  · split
    · exact .pure _
    · split
      · exact .pure _
      · exact .bind (.note _) fun _ => .throw _

/-- That query reads the row of the form. -/
theorem reads_form (id : Text) (user : Option Json) : Asks (Query.Reads id) (form id user) :=
  (asks_form id user).mono fun _ h => h ▸ .form

/-- The list of versions takes the row of the form and the rows of its versions. -/
theorem reads_versions (formId : Text) (user : Option Json) : Asks (Query.Reads formId) (versions formId user) :=
  .bind (reads_form formId user) fun _ => .ask (.versions (by simp))

/-- So does a single version. -/
theorem reads_version (formId versionId : Text) (user : Option Json) :
    Asks (Query.Reads formId) (version formId versionId user) := by
  unfold version
  refine .bind (reads_form formId user) fun _ => .bind (.ask (.versions (by simp))) fun rows => ?_
  split
  · exact .throw _
  · exact .pure _

/-- The newest version is found among the rows of versions. -/
theorem reads_newest? (formId : Text) : Asks (Query.Reads formId) (newest? formId) := by
  unfold newest?
  rw [map_eq_pure_bind]
  exact .bind (.ask (.versions (by simp))) fun _ => .pure _

/-- To fail where there is none takes no query. -/
theorem reads_newest (formId : Text) : Asks (Query.Reads formId) (newest formId) := by
  unfold newest
  refine .bind (reads_newest? formId) fun row? => ?_
  split
  · exact .pure _
  · exact .throw _

/-- The latest version is asked for behind the row of the form. -/
theorem reads_latestVersion (formId : Text) (user : Option Json) :
    Asks (Query.Reads formId) (latestVersion formId user) :=
  .bind (reads_form formId user) fun _ => reads_newest formId

/-- The next number is found by a read of the newest version. -/
theorem reads_nextNumber (formId : Text) : Asks (Query.Reads formId) (nextNumber formId) := by
  unfold nextNumber
  refine .bind (reads_newest? formId) fun row? => ?_
  split
  · exact .pure _
  · split
    · split
      · exact .pure _
      · exact .throw _
    · exact .throw _

/-- Whether a text can be sent is told without a query. -/
theorem asks_told (kind : Query → Prop) (v : Json) : Asks kind (told v) := by
  unfold told
  split
  · exact .pure _
  · exact .throw _

/-- A definition is loaded from rows that were read before. -/
theorem asks_formOf (kind : Query → Prop) (version form : Row) : Asks kind (formOf version form) := by
  unfold formOf
  refine .bind (.note _) fun _ => ?_
  split
  · exact .pure _
  · exact .throw _

/-- To load a definition takes reads of the form and of one version, by its id or the newest one. -/
theorem reads_definition (formId : Text) (versionId : Option Text) (user : Option Json) :
    Asks (Query.Reads formId) (definition formId versionId user) := by
  unfold definition
  refine .bind (reads_form formId user) fun row => ?_
  -- an empty id asks for the newest version, as no id does
  cases versionId with
  | none => exact .bind (reads_newest formId) fun version => asks_formOf _ version row
  | some id =>
    dsimp only
    split
    · exact .bind (reads_newest formId) fun version => asks_formOf _ version row
    · exact .bind (reads_version formId id none) fun version => asks_formOf _ version row

/-- A save reads first, then adds a version and brings the row of the form in line. -/
theorem concerns_save (formId : Text) (user : Json) (form : Form) (message : Json) :
    Asks (Query.Concerns formId) (save formId user form message) := by
  have hreads : ∀ {α : Type} {m : StoreM α}, Asks (Query.Reads formId) m → Asks (Query.Concerns formId) m :=
    fun h => h.mono fun _ => .inl
  unfold save
  refine .bind (hreads (reads_form formId _)) fun _ => .bind (hreads (reads_nextNumber formId)) fun number => ?_
  exact .bind (.ask (.inr (.version user form number message))) fun _ =>
    .bind (.ask (.inr (.form form))) fun _ => .pure _

/-- A restore reads a version and saves what it holds. -/
theorem concerns_restore (formId versionId : Text) (user : Json) :
    Asks (Query.Concerns formId) (restore formId versionId user) := by
  have hreads : ∀ {α : Type} {m : StoreM α}, Asks (Query.Reads formId) m → Asks (Query.Concerns formId) m :=
    fun h => h.mono fun _ => .inl
  unfold restore
  refine .bind (hreads (reads_version formId versionId _)) fun source => ?_
  refine .bind (hreads (reads_form formId none)) fun row => .bind (asks_formOf _ source row) fun form => ?_
  exact .bind (asks_told _ _) fun number => concerns_save formId user form _

end Store
end Questionnaire
