import Mathlib.Data.List.Forall2
import Questionnaire.Checked

/-!
# Steps that may fail

A step gives a result or an error. Steps behind one another stop at the first error, and so do steps over the
elements of a list; what has been checked by parts has a result if all parts have.

* `bind_eq_ok_iff`, `bind_eq_error_iff`: two steps behind one another.
* `mapM_eq_ok_iff`, `mapM_fails_iff`: a step for each element of a list.
* `Checked.seq_result_eq_ok`: parts that are checked apart.
-/

namespace Questionnaire

section Except

variable {ε α β γ : Type} {e : ε}

/-! ## Two steps -/

/-- Two steps succeed if the first does and the second does with what the first gives. -/
theorem bind_eq_ok_iff {x : Except ε α} {f : α → Except ε β} {b : β} :
    x >>= f = .ok b ↔ ∃ a, x = .ok a ∧ f a = .ok b := by
  cases x <;> simp [bind, Except.bind]

/-- Their error is that of the first or, if this succeeds, that of the second. -/
theorem bind_eq_error_iff {x : Except ε α} {f : α → Except ε β} :
    x >>= f = .error e ↔ x = .error e ∨ ∃ a, x = .ok a ∧ f a = .error e := by
  cases x <;> simp [bind, Except.bind]

/-- A step behind which only what it gives is changed. -/
theorem map_eq_ok_iff {f : α → β} {x : Except ε α} {b : β} : f <$> x = .ok b ↔ ∃ a, x = .ok a ∧ f a = b := by
  cases x <;> simp [Functor.map, Except.map]

/-- A map passes an error on and makes none. -/
@[simp] theorem map_eq_error_iff {f : α → β} {x : Except ε α} : f <$> x = .error e ↔ x = .error e := by
  cases x <;> simp [Functor.map, Except.map]

/-- Telling an error in other words makes no step succeed. -/
@[simp] theorem mapError_eq_ok {ε' : Type} {x : Except ε α} {f : ε → ε'} {a : α} :
    x.mapError f = .ok a ↔ x = .ok a := by
  cases x <;> simp [Except.mapError]

/-- What does not fail gives a result. -/
theorem exists_eq_ok_iff {x : Except ε α} : (∃ a, x = .ok a) ↔ ¬ ∃ e, x = .error e := by
  cases x <;> simp

/-! ## Steps over a list -/

/-- Steps over a list succeed if each does. -/
theorem mapM_eq_ok_iff {f : α → Except ε β} {xs : List α} {ys : List β} :
    xs.mapM f = .ok ys ↔ List.Forall₂ (fun x y => f x = .ok y) xs ys := by
  induction xs generalizing ys with
  | nil => cases ys <;> simp [pure, Except.pure]
  | cons x xs ih =>
    rw [List.mapM_cons]
    cases hx : f x with
    | error e => cases ys <;> simp [bind, Except.bind, hx]
    | ok y =>
      cases hxs : xs.mapM f with
      | error e => cases ys <;> simp [bind, Except.bind, ← ih, hx, hxs]
      | ok rest => cases ys <;> simp [bind, Except.bind, pure, Except.pure, ← ih, hx, hxs]

/-- Steps that cannot fail on a list give what each gives. -/
theorem mapM_eq_ok_map {f : α → Except ε β} {g : α → β} {xs : List α} (h : ∀ x ∈ xs, f x = .ok (g x)) :
    xs.mapM f = .ok (xs.map g) := by
  rw [mapM_eq_ok_iff, List.forall₂_map_right_iff, List.forall₂_same]
  exact h

/-- The results are what the step gives for one of the elements or another. -/
theorem mem_iff_of_mapM_eq_ok {f : α → Except ε β} {xs : List α} {ys : List β} (h : xs.mapM f = .ok ys) {y : β} :
    y ∈ ys ↔ ∃ x ∈ xs, f x = .ok y := by
  induction mapM_eq_ok_iff.mp h with
  | nil => simp
  | cons hy hrest ih =>
    rw [List.mem_cons, List.exists_mem_cons_iff, ih (mapM_eq_ok_iff.mpr hrest), hy, Except.ok.injEq, eq_comm]

/-- Another element in the place of one changes one result alone. -/
theorem mapM_around {f : α → Except ε β} {before after : List α} {x : α} {ys : List β}
    (h : (before ++ x :: after).mapM f = .ok ys) :
    ∃ first y last, f x = .ok y ∧
      ∀ x' y', f x' = .ok y' → (before ++ x' :: after).mapM f = .ok (first ++ y' :: last) := by
  simp only [List.mapM_append, List.mapM_cons, bind_eq_ok_iff] at h
  obtain ⟨first, hfirst, _, ⟨y, hx, last, hlast, -⟩, -⟩ := h
  refine ⟨first, y, last, hx, ?_⟩
  intro x' y' hx'
  simp only [List.mapM_append, List.mapM_cons, hfirst, hx', hlast]
  rfl

/-- Their error is that of the step for one of the elements. -/
theorem exists_of_mapM_eq_error {f : α → Except ε β} {xs : List α} (h : xs.mapM f = .error e) :
    ∃ x ∈ xs, f x = .error e := by
  induction xs with
  | nil => cases h
  | cons x xs ih =>
    rw [List.mapM_cons, bind_eq_error_iff] at h
    rcases h with hx | ⟨y, -, hrest⟩
    · exact ⟨x, List.mem_cons_self, hx⟩
    · rcases bind_eq_error_iff.mp hrest with hxs | ⟨ys, -, hdone⟩
      · obtain ⟨x', hmem, hx'⟩ := ih hxs
        exact ⟨x', List.mem_cons_of_mem x hmem, hx'⟩
      · cases hdone

/-- Steps over a list fail if one of them does, wherever it is. -/
theorem mapM_fails_iff {f : α → Except ε β} {xs : List α} :
    (∃ e, xs.mapM f = .error e) ↔ ∃ x ∈ xs, ∃ e, f x = .error e := by
  induction xs with
  | nil => simp [pure, Except.pure]
  | cons x xs ih =>
    rw [List.mapM_cons, List.exists_mem_cons_iff, ← ih]
    cases f x with
    | error e => simp [bind, Except.bind]
    | ok y => cases xs.mapM f <;> simp [bind, Except.bind, pure, Except.pure]

/-- Steps that agree on a list give the same, errors included. -/
theorem mapM_congr_of_mem {f g : α → Except ε β} {xs : List α} (h : ∀ x ∈ xs, f x = g x) :
    xs.mapM f = xs.mapM g := by
  induction xs with
  | nil => rfl
  | cons x xs ih =>
    have hrest := ih fun y hy => h y (List.mem_cons_of_mem x hy)
    rw [List.mapM_cons, List.mapM_cons, h x (by simp), hrest]

/-- Steps of which some give nothing are the steps over what gives something. -/
theorem mapM_filterMap_id {f : α → Except ε (Option β)} {g : α → Option γ} {h : γ → Except ε β}
    (hnone : ∀ x, g x = none → f x = .ok none) (hsome : ∀ x y, g x = some y → f x = some <$> h y)
    (xs : List α) : (List.filterMap id <$> xs.mapM f) = (xs.filterMap g).mapM h := by
  induction xs with
  | nil => rfl
  | cons x xs ih =>
    rw [List.mapM_cons, List.filterMap_cons]
    cases hx : g x with
    | none =>
      rw [hnone x hx, ← ih]
      cases xs.mapM f <;> rfl
    | some y =>
      rw [hsome x y hx, List.mapM_cons, ← ih]
      cases h y with
      | error e => rfl
      | ok z => cases xs.mapM f <;> rfl

end Except

/-! ## Parts that are checked apart -/

namespace Checked

variable {α β : Type}

/-- A mapped check succeeds when the check does. -/
theorem map_result_eq_ok {f : α → β} {c : Checked α} {b : β} :
    (f <$> c).result = .ok b ↔ ∃ a, c.result = .ok a ∧ f a = b := by
  change c.result.map f = .ok b ↔ _
  cases c.result <;> simp [Except.map]

/-- Two checks in sequence succeed when both do. -/
theorem seq_result_eq_ok {f : Checked (α → β)} {c : Checked α} {b : β} :
    (f <*> c).result = .ok b ↔ ∃ g a, f.result = .ok g ∧ c.result = .ok a ∧ g a = b := by
  change combine f.result c.result = .ok b ↔ _
  cases f.result <;> cases c.result <;> simp [combine]

end Checked

end Questionnaire
