import Questionnaire.Proofs.StoreQueries

/-!
# Queries that fail

Mostly a failing query has no effect on the tables. Then a query with its repetitions either goes through
once, or fails and leaves the tables as they are. What an operation made of several queries may do follows
query by query, a failure being possible at each.

* `Connection.Harmless`: no failure to come takes effect; `Connection.Steady`: there is none.
* `Connection.Asked`: how a query can end; `Harmless.query` that there is no other way.
* `Connection.Reaches`: what calls lead from one moment to a later one.
* `Store.allows_ask`: how an operation that asks one query can end.
* `Store.Asks.looked`: operations that only read.
-/

namespace Questionnaire

namespace Connection

/-- No fault awaits a query. -/
def Steady (c : Connection) : Prop := ∀ fault ∈ c.faults, fault = none

/-- No failure that awaits a query takes effect on the tables. -/
def Harmless (c : Connection) : Prop := ∀ fault : Fault, some fault ∈ c.faults → fault.applied = false

variable {c d e : Connection} {q : Query}

/-- Where no query fails, none fails behind its effect. -/
theorem Steady.harmless (h : c.Steady) : c.Harmless := fun fault hfault => by
  cases h (some fault) hfault

/-! ## One query -/

/-- The connection after an attempt that has no effect. -/
def attempted (c : Connection) (q : Query) : Connection :=
  { c with calls := c.calls ++ [q.call], faults := c.faults.tail }

/-- An attempt takes one of the faults to come, and leaves the others as they are. -/
theorem Harmless.attempted (h : c.Harmless) (q : Query) : (c.attempted q).Harmless :=
  fun fault hfault => h fault (List.mem_of_mem_tail hfault)

/-- So the queries go on not to fail. -/
theorem Steady.attempted (h : c.Steady) (q : Query) : (c.attempted q).Steady :=
  fun fault hfault => h fault (List.mem_of_mem_tail hfault)

/-- An attempt goes through, or has no effect. -/
theorem Harmless.execute_cases (h : c.Harmless) (q : Query) :
    c.execute q = (.ok (q.run c.tables).1, { c.attempted q with tables := (q.run c.tables).2 }) ∨
      (∃ message, c.execute q = (.error message, c.attempted q)) ∧ ¬ c.Steady := by
  unfold execute
  cases hfaults : c.faults with
  | nil =>
    left
    simp [Connection.attempted, hfaults]
  | cons fault? rest =>
    cases fault? with
    | none =>
      left
      simp [Connection.attempted, hfaults]
    | some fault =>
      -- a failure that has no effect, which there is only where some query fails
      right
      have happlied : fault.applied = false := h fault (by simp [hfaults])
      refine ⟨⟨fault.message, ?_⟩, fun hsteady => ?_⟩
      · simp [Connection.attempted, hfaults, happlied]
      · cases hsteady (some fault) (by simp [hfaults])

/-- How a query with its repetitions can end. -/
structure Asked (c : Connection) (q : Query) (r : Except QueryFailure (List Row)) (c' : Connection) : Prop where
  harmless : c'.Harmless
  steady : c.Steady → c'.Steady
  calls : ∃ n, c'.calls = c.calls ++ List.replicate (n + 1) q.call
  outcome : r = .ok (q.run c.tables).1 ∧ c'.tables = (q.run c.tables).2 ∨
    (∃ e, r = .error e) ∧ c'.tables = c.tables ∧ ¬ c.Steady

/-- An attempt that fails is over with the query, or it is tried again. -/
theorem Asked.again {r : Except QueryFailure (List Row)} (h : (c.attempted q).Asked q r d) (hfaulty : ¬ c.Steady) :
    c.Asked q r d where
  harmless := h.harmless
  steady hsteady := absurd hsteady hfaulty
  calls := by
    obtain ⟨n, hcalls⟩ := h.calls
    refine ⟨n + 1, ?_⟩
    rw [hcalls, List.replicate_succ, attempted, List.append_assoc]
    rfl
  outcome := by
    rcases h.outcome with hdone | ⟨herror, htables, -⟩
    · exact .inl hdone
    · exact .inr ⟨herror, htables, hfaulty⟩

/-- A query that succeeds at the first attempt has its rows and its effect. -/
theorem Harmless.asked_done (h : c.Harmless) (q : Query) :
    c.Asked q (.ok (q.run c.tables).1) { c.attempted q with tables := (q.run c.tables).2 } where
  harmless := h.attempted q
  steady hsteady := hsteady.attempted q
  calls := ⟨0, rfl⟩
  outcome := .inl ⟨rfl, rfl⟩

/-- One that fails for good at the first attempt has neither. -/
theorem Harmless.asked_failed (h : c.Harmless) (q : Query) (hfaulty : ¬ c.Steady) (e : QueryFailure) :
    c.Asked q (.error e) (c.attempted q) where
  harmless := h.attempted q
  steady hsteady := hsteady.attempted q
  calls := ⟨0, rfl⟩
  outcome := .inr ⟨⟨e, rfl⟩, rfl, hfaulty⟩

/-- A query that is attempted again and again ends in one of these ways. -/
theorem Harmless.asked_go (h : c.Harmless) (q : Query) (base : Json) (limit left attempt : Nat) :
    c.Asked q (Retry.go base limit (execute q) left attempt c).result
      (Retry.go base limit (execute q) left attempt c).state := by
  -- on the repetitions left: the attempt goes through, fails for good, or leaves the rest to the others
  induction left generalizing attempt c with
  | zero =>
    unfold Retry.go
    rcases h.execute_cases q with hdone | ⟨⟨message, hfailed⟩, hfaulty⟩
    · rw [hdone]
      exact h.asked_done q
    · rw [hfailed]
      exact h.asked_failed q hfaulty (.failed message)
  | succ left ih =>
    unfold Retry.go
    rcases h.execute_cases q with hdone | ⟨⟨message, hfailed⟩, hfaulty⟩
    · rw [hdone]
      exact h.asked_done q
    · rw [hfailed]
      dsimp only
      split
      · cases Retry.delay base attempt with
        | error e => exact h.asked_failed q hfaulty e
        | ok pause => exact (ih (h.attempted q) (attempt + 1)).again hfaulty
      · exact h.asked_failed q hfaulty (.failed message)

/-- A query with its repetitions goes through once, or fails and leaves the tables as they are. -/
theorem Harmless.query (h : c.Harmless) (q : Query) : c.Asked q (c.query q).1 (c.query q).2 := by
  obtain ⟨hharmless, hsteady, hcalls, houtcome⟩ :=
    h.asked_go q Retry.storeBase Retry.storeLimit Retry.storeLimit 0
  exact ⟨hharmless, hsteady, hcalls, houtcome⟩

/-! ## Calls -/

/-- The call that brings the row of a form in line. -/
def syncCall : String := "update forms"

/-- From one moment to a later one calls are made, among them some that bring the row of a form in line, or
none such. -/
structure Reaches (synced : Prop) (c d : Connection) : Prop where
  harmless : d.Harmless
  steady : c.Steady → d.Steady
  calls : ∃ made, d.calls = c.calls ++ made ∧ (syncCall ∈ made ↔ synced)

variable {synced synced' : Prop}

/-- Without a query a connection stays as it is. -/
theorem Reaches.refl (h : c.Harmless) : Reaches False c c :=
  ⟨h, id, [], by simp, by simp⟩

/-- The calls of two steps are made one after the other. -/
theorem Reaches.trans (h : Reaches synced c d) (h' : Reaches synced' d e) : Reaches (synced ∨ synced') c e where
  harmless := h'.harmless
  steady := h'.steady ∘ h.steady
  calls := by
    obtain ⟨made, hcalls, hsynced⟩ := h.calls
    obtain ⟨made', hcalls', hsynced'⟩ := h'.calls
    exact ⟨made ++ made', by rw [hcalls', hcalls, List.append_assoc],
      by rw [List.mem_append, hsynced, hsynced']⟩

/-- Whether the row of the form was brought in line may be said in other words. -/
theorem Reaches.of_iff (h : Reaches synced c d) (hiff : synced ↔ synced') : Reaches synced' c d := by
  rwa [← propext hiff]

/-- A query is one call or several, all of them its own. -/
theorem Asked.reaches {r : Except QueryFailure (List Row)} (h : c.Asked q r d) :
    Reaches (q.call = syncCall) c d where
  harmless := h.harmless
  steady := h.steady
  calls := by
    obtain ⟨n, hcalls⟩ := h.calls
    exact ⟨_, hcalls, by simp [eq_comm]⟩

/-- Between the two moments something is read, at most. -/
structure Looked (c d : Connection) : Prop where
  reaches : Reaches False c d
  tables : d.tables = c.tables

/-- To do nothing is to look at most. -/
theorem Looked.refl (h : c.Harmless) : c.Looked c := ⟨.refl h, rfl⟩

/-- To look twice is to look. -/
theorem Looked.trans (h : c.Looked d) (h' : d.Looked e) : c.Looked e :=
  ⟨(h.reaches.trans h'.reaches).of_iff (by simp), h'.tables.trans h.tables⟩

end Connection

open Connection

/-- No read is the call that brings the row of the form in line. -/
theorem Query.Reads.call_ne {q : Query} {formId : Text} (h : q.Reads formId) : q.call ≠ syncCall := by
  cases h <;> simp only [formRow, call] <;> decide

namespace Store

/-! ## Operations -/

variable {α : Type} {m : StoreM α} {c : Connection}

/-- A query that is asked gives its rows and has its effect, or it fails and has none. -/
theorem allows_ask (hc : c.Harmless) (q : Query) :
    Allows (ask q) c fun r d => Reaches (q.call = syncCall) c d ∧
      (r = .ok (q.run c.tables).1 ∧ d.tables = (q.run c.tables).2 ∨
        (∃ e, r = .error e) ∧ d.tables = c.tables ∧ ¬ c.Steady) := by
  have hasked := hc.query q
  unfold Allows
  rw [run_ask]
  refine ⟨hasked.reaches, ?_⟩
  rcases hasked.outcome with ⟨hok, htables⟩ | ⟨⟨e, herror⟩, htables, hfaulty⟩
  · rw [hok]
    exact .inl ⟨rfl, htables⟩
  · rw [herror]
    exact .inr ⟨⟨_, rfl⟩, htables, hfaulty⟩

/-- What only reads leaves the tables as they are. -/
theorem Asks.looked {formId : Text} (h : Asks (Query.Reads formId) m) (hc : c.Harmless) :
    c.Looked (m.run.run c).2 := by
  induction h generalizing c with
  | pure a => exact .refl hc
  | throw e => exact .refl hc
  | note notices => exact ⟨⟨hc, id, [], (List.append_nil _).symm, by simp⟩, rfl⟩
  | @ask q hq =>
    obtain ⟨hreaches, houtcome⟩ := allows_ask hc q
    refine ⟨hreaches.of_iff (by simp [hq.call_ne]), ?_⟩
    -- with its rows or with a failure, a read leaves the tables alone
    rcases houtcome with ⟨-, htables⟩ | ⟨-, htables, -⟩
    · rw [htables, hq.run_tables]
    · exact htables
  | @bind _ _ m k _ _ ihm ihk =>
    -- the second step looks from where the first has looked to
    have hfirst := ihm hc
    rw [run_bind]
    rcases hm : m.run.run c with ⟨e | a, d⟩
    · rw [hm] at hfirst
      exact hfirst
    · rw [hm] at hfirst
      exact hfirst.trans (ihk a hfirst.reaches.harmless)

end Store
end Questionnaire
