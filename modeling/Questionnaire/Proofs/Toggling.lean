import Mathlib.Algebra.Ring.Parity
import Mathlib.Data.List.Dedup
import Mathlib.Logic.Basic
import Questionnaire.Proofs.Answers

/-!
# Selections that are toggled

A selection stays a set in the order of its making, however often options are toggled: what was never toggled comes
first, in its old order, then the options that are in it now, in the order in which each was toggled last. Changes
of the answers to other questions do not show in it, nor does toggling show in them.

* `Answers.toggled_eq`: what a toggle does to a selection.
* `Answers.toggledAll_eq`: what toggles make of a selection, one after the other.
* `Answers.erase_changed`: the other answers are what the other changes make of them.
* `toggling_keeps_ordered_set`: a selection after any changes of the answers.
-/

namespace Questionnaire

/-- Where a key is removed, it does not matter what was set under it. -/
theorem Fields.erase_set (fields : Fields) (key k : Text) (v : Json) :
    erase (set fields key v) k = if key = k then erase fields k else set (erase fields k) key v := by
  induction fields with
  | nil =>
    by_cases h : key = k
    · subst h
      simp [set, erase]
    · rw [if_neg h]
      simp [set, erase, h]
  | cons entry rest ih =>
    obtain ⟨k', v'⟩ := entry
    have hcons : ∀ w rest, erase ((k', w) :: rest) k =
        if k' = k then erase rest k else (k', w) :: erase rest k := by
      intro w rest
      by_cases h : k' = k <;> simp [erase, h]
    by_cases hk : k' = key
    · -- the key is set in its place
      subst hk
      rw [set, if_pos rfl, hcons, hcons]
      by_cases h : k' = k
      · simp [h]
      · simp [set, h]
    · rw [set, if_neg hk, hcons, hcons, ih]
      by_cases h : k' = k
      · simp [h]
      · by_cases hkey : key = k <;> simp [set, h, hk, hkey]

/-- The order in which two fields are taken out does not matter. -/
theorem Fields.erase_comm (fields : Fields) (key k : Text) :
    erase (erase fields key) k = erase (erase fields k) key := by
  rw [erase, erase, erase, erase, List.filter_filter, List.filter_filter]
  apply List.filter_congr
  intro entry _
  rw [Bool.and_comm]

/-! ## One toggle -/

namespace Answers

/-- Are no two values of a list equal? -/
def NoRepeats (vs : List Json) : Prop := vs.Pairwise fun v w => v.equals w = false

instance (vs : List Json) : Decidable (NoRepeats vs) :=
  inferInstanceAs (Decidable (vs.Pairwise fun v w => v.equals w = false))

/-- An option that is a text is selected when it is in the list. -/
theorem isSelected_str_iff {s : Text} {vs : List Json} : isSelected (.str s) vs = true ↔ .str s ∈ vs := by
  simp only [isSelected, List.any_eq_true, Json.equals_str, exists_eq_right]

/-- Without repeats, to remove an option once is to remove it for good. -/
theorem deselect_str {s : Text} {vs : List Json} (h : NoRepeats vs) :
    deselect (.str s) vs = vs.filter (· ≠ .str s) := by
  induction vs with
  | nil => rfl
  | cons v vs ih =>
    obtain ⟨hv, hvs⟩ := List.pairwise_cons.mp h
    by_cases heq : v = .str s
    · have hrest : ∀ w ∈ vs, w ≠ .str s := by
        intro w hw hws
        have hne := hv w hw
        rw [hws, heq, Json.equals_str.mpr rfl] at hne
        cases hne
      have hall : vs.filter (· ≠ .str s) = vs := List.filter_eq_self.mpr (by simpa using hrest)
      have herase : deselect (.str s) (v :: vs) = vs := List.eraseP_cons_of_pos (Json.equals_str.mpr heq)
      rw [herase, List.filter_cons_of_neg (by simp [heq]), hall]
    · have herase : deselect (.str s) (v :: vs) = v :: deselect (.str s) vs :=
        List.eraseP_cons_of_neg (Json.equals_str.not.mpr heq)
      rw [herase, List.filter_cons_of_pos (by simpa using heq), ih hvs]

/-- A toggle takes an option out of its place, or puts it at the end. -/
theorem toggled_eq {s : Text} {vs : List Json} (h : NoRepeats vs) :
    toggled (.str s) vs = vs.filter (· ≠ .str s) ++ if .str s ∈ vs then [] else [.str s] := by
  unfold toggled
  by_cases hs : .str s ∈ vs
  · rw [if_pos (isSelected_str_iff.mpr hs), if_pos hs, deselect_str h, List.append_nil]
  · have hall : vs.filter (· ≠ .str s) = vs := by
      apply List.filter_eq_self.mpr
      intro v hv
      simpa using fun heq : v = .str s => hs (heq ▸ hv)
    rw [if_neg (isSelected_str_iff.not.mpr hs), if_neg hs, hall]

/-- A toggle does not select anything twice. -/
theorem noRepeats_toggled {s : Text} {vs : List Json} (h : NoRepeats vs) : NoRepeats (toggled (.str s) vs) := by
  rw [toggled_eq h]
  apply List.pairwise_append.mpr
  refine ⟨h.filter _, ?_, ?_⟩
  · split <;> simp
  · intro v hv w hw
    split at hw
    · simp at hw
    · rw [List.mem_singleton.mp hw]
      have hne : v ≠ .str s := by simpa using (List.mem_filter.mp hv).2
      exact Bool.eq_false_iff.mpr (Json.equals_str.not.mpr hne)

/-- A toggle changes whether its option is selected, and no other. -/
theorem mem_toggled_iff {s t : Text} {vs : List Json} (h : NoRepeats vs) :
    .str t ∈ toggled (.str s) vs ↔ Xor (.str t ∈ vs) (s = t) := by
  rw [toggled_eq h, List.mem_append, List.mem_filter]
  by_cases hst : s = t
  · subst hst
    by_cases hs : .str s ∈ vs <;> simp [hs, Xor]
  · have hts : t ≠ s := Ne.symm hst
    by_cases hs : .str s ∈ vs <;> simp [hs, hst, hts, Xor]

/-! ## Toggles one after the other -/

/-- A selection after toggles of options, one after the other. -/
def toggledAll (options : List Text) (vs : List Json) : List Json :=
  options.foldl (fun vs s => toggled (.str s) vs) vs

/-- Nor do toggles one after the other. -/
theorem noRepeats_toggledAll (options : List Text) {vs : List Json} (h : NoRepeats vs) :
    NoRepeats (toggledAll options vs) := by
  induction options generalizing vs with
  | nil => exact h
  | cons s options ih => exact ih (noRepeats_toggled h)

/-- An option is selected in the end if it was at first, unless it was toggled an odd number of times; then if it was
not. -/
theorem mem_toggledAll_iff (options : List Text) {vs : List Json} (h : NoRepeats vs) (t : Text) :
    .str t ∈ toggledAll options vs ↔ Xor (.str t ∈ vs) (Odd (options.count t)) := by
  induction options generalizing vs with
  | nil => simp [toggledAll, Xor]
  | cons s options ih =>
    rw [toggledAll, List.foldl_cons, ← toggledAll, ih (noRepeats_toggled h), mem_toggled_iff h, List.count_cons]
    by_cases hst : s = t
    · subst hst
      by_cases ht : .str s ∈ vs <;> simp [ht, Xor, Nat.odd_add_one]
    · simp [hst, Xor]

/-- A value that is met again counts where it is met last. -/
theorem dedup_concat {α : Type} [DecidableEq α] (xs : List α) (x : α) :
    (xs ++ [x]).dedup = xs.dedup.filter (· ≠ x) ++ [x] := by
  induction xs with
  | nil => simp
  | cons y xs ih =>
    rw [List.cons_append, List.dedup_cons, List.dedup_cons, ih]
    by_cases hmem : y ∈ xs
    · simp [hmem]
    · by_cases hy : y = x
      · subst hy
        simp [hmem]
      · simp [hmem, hy]

/-- Toggles leave what they do not name in front, and behind it the options that are selected in the end, each where it
was toggled last. -/
theorem toggledAll_eq (options : List Text) {vs : List Json} (h : NoRepeats vs) :
    toggledAll options vs = vs.filter (fun v => ∀ s ∈ options, v ≠ .str s) ++
      (options.dedup.filter fun s => .str s ∈ toggledAll options vs).map .str := by
  induction options using List.reverseRecOn with
  | nil => simp [toggledAll]
  | append_singleton options s ih =>
    have hbefore : NoRepeats (toggledAll options vs) := noRepeats_toggledAll options h
    have hlast : toggledAll (options ++ [s]) vs = toggled (.str s) (toggledAll options vs) := by
      rw [toggledAll, List.foldl_append]
      rfl
    -- the last toggle takes its option out of both parts, and puts it at the end if it was in neither
    have hfront : vs.filter (fun v => ∀ t ∈ options ++ [s], v ≠ .str t) =
        (vs.filter fun v => ∀ t ∈ options, v ≠ .str t).filter (· ≠ .str s) := by
      rw [List.filter_filter]
      apply List.filter_congr
      intro v _
      simp [or_imp, forall_and, and_comm]
    have hback : ((options ++ [s]).dedup.filter fun t => .str t ∈ toggledAll (options ++ [s]) vs).map Json.str =
        ((options.dedup.filter fun t => .str t ∈ toggledAll options vs).map Json.str).filter (· ≠ .str s) ++
          if .str s ∈ toggledAll options vs then [] else [.str s] := by
      rw [dedup_concat, List.filter_append, List.map_append, List.filter_map, List.filter_filter, List.filter_filter,
        hlast]
      have hother : (options.dedup.filter fun t => .str t ∈ toggled (.str s) (toggledAll options vs) && t ≠ s) =
          options.dedup.filter fun t =>
            ((fun v => decide (v ≠ Json.str s)) ∘ Json.str) t && .str t ∈ toggledAll options vs := by
        apply List.filter_congr
        intro t _
        by_cases hts : t = s
        · simp [hts]
        · simp [hts, mem_toggled_iff hbefore, Ne.symm hts, Xor]
      have hends : ([s].filter fun t => .str t ∈ toggled (.str s) (toggledAll options vs)).map Json.str =
          if .str s ∈ toggledAll options vs then [] else [.str s] := by
        have hflip : .str s ∈ toggled (.str s) (toggledAll options vs) ↔ .str s ∉ toggledAll options vs := by
          rw [mem_toggled_iff hbefore]
          simp [Xor]
        by_cases hs : .str s ∈ toggledAll options vs
        · simp [hflip, hs]
        · simp [hflip, hs]
      rw [hends, hother]
    rw [hfront, hback, ← List.append_assoc, ← List.filter_append, ← ih, hlast, toggled_eq hbefore]

/-! ## Changes of the answers -/

/-- A change of the answer to one question. -/
inductive Change where
  | put (question : Text) (value : Json)
  | toggle (question option : Text)
deriving DecidableEq

namespace Change

/-- The question whose answer is changed. -/
def question : Change → Text
  | put q _ | toggle q _ => q

/-- The option that is toggled, if one is. -/
def option? : Change → Option Text
  | put _ _ => none
  | toggle _ option => some option

/-- The answers after a change. -/
def apply (answers : Answers) : Change → Answers
  | put q value => answers.put q value
  | toggle q option => answers.toggle q (.str option)

end Change

/-- The answers after changes, one after the other. -/
def changed (answers : Answers) (changes : List Change) : Answers := changes.foldl Change.apply answers

/-- The options that changes toggle in the answer to a question, in order. -/
def toggledOptions (q : Text) (changes : List Change) : List Text :=
  (changes.filter (·.question = q)).filterMap Change.option?

/-- To put a null is to take the answer out. -/
theorem put_eq (answers : Answers) (q : Text) (value : Json) :
    answers.put q value = if value = .null then answers.erase q else answers.set q value := by
  cases value <;> simp [put]

/-- A change leaves the answers to other questions as they are. -/
theorem get?_apply_of_ne {c : Change} {q : Text} (h : c.question ≠ q) (answers : Answers) :
    (c.apply answers).get? q = answers.get? q := by
  have hne : q ≠ c.question := Ne.symm h
  cases c with
  | put q' value =>
    rw [Change.apply, put_eq]
    split
    · rw [Fields.get?_erase]
      exact if_neg hne
    · rw [Fields.get?_set]
      exact if_neg hne
  | toggle q' option =>
    rw [Change.apply, toggle, Fields.get?_set]
    exact if_neg hne

/-- Nothing but the answer to its own question does a change leave behind. -/
theorem erase_apply_of_eq {c : Change} {q : Text} (h : c.question = q) (answers : Answers) :
    (c.apply answers).erase q = answers.erase q := by
  subst h
  cases c with
  | put q value =>
    rw [Change.apply, Change.question, put_eq]
    split
    · simp [Fields.erase]
    · rw [Fields.erase_set, if_pos rfl]
  | toggle q option =>
    rw [Change.apply, Change.question, toggle, Fields.erase_set, if_pos rfl]

/-- Nor does a change depend on the answers to other questions. -/
theorem erase_apply_of_ne {c : Change} {q : Text} (h : c.question ≠ q) (answers : Answers) :
    (c.apply answers).erase q = c.apply (answers.erase q) := by
  cases c with
  | put q' value =>
    have hne : q' ≠ q := h
    rw [Change.apply, Change.apply, put_eq, put_eq]
    split
    · rw [Fields.erase_comm]
    · rw [Fields.erase_set, if_neg hne]
  | toggle q' option =>
    have hne : q' ≠ q := h
    rw [Change.apply, Change.apply, toggle, toggle, Fields.erase_set, if_neg hne, Fields.get?_erase, if_neg hne]

/-- Without the answer to a question, the answers are what the changes of the others make of them. -/
theorem erase_changed (changes : List Change) (answers : Answers) (q : Text) :
    (changed answers changes).erase q = (changed answers (changes.filter (·.question ≠ q))).erase q := by
  induction changes using List.reverseRecOn with
  | nil => rfl
  | append_singleton changes c ih =>
    have hlast : changed answers (changes ++ [c]) = c.apply (changed answers changes) := by
      rw [changed, List.foldl_append]
      rfl
    rw [hlast, List.filter_append]
    by_cases h : c.question = q
    · rw [erase_apply_of_eq h]
      simpa [h] using ih
    · have hkept : changed answers (changes.filter (·.question ≠ q) ++ [c].filter (·.question ≠ q)) =
          c.apply (changed answers (changes.filter (·.question ≠ q))) := by
        rw [changed, List.foldl_append]
        simp [h, changed]
      rw [hkept, erase_apply_of_ne h, erase_apply_of_ne h, ih]

/-- Where the answer to a question is toggled alone, it becomes a list by the first toggle, which each one changes. -/
theorem get?_changed {changes : List Change} {q : Text}
    (h : ∀ c ∈ changes, c.question = q → ∃ option, c = .toggle q option) (answers : Answers) :
    (changed answers changes).get? q = if toggledOptions q changes = [] then answers.get? q
      else some (.arr (toggledAll (toggledOptions q changes) (selection (answers.get? q)))) := by
  induction changes generalizing answers with
  | nil => rfl
  | cons c changes ih =>
    obtain ⟨hc, hchanges⟩ := List.forall_mem_cons.mp h
    have hfirst : changed answers (c :: changes) = changed (c.apply answers) changes := rfl
    rw [hfirst, ih hchanges]
    by_cases hq : c.question = q
    · obtain ⟨option, rfl⟩ := hc hq
      -- a toggle of the question leaves a list, from which the others go on
      have hoptions : toggledOptions q (.toggle q option :: changes) = option :: toggledOptions q changes := by
        simp [toggledOptions, Change.question, Change.option?]
      have hanswer : ((Change.toggle q option).apply answers).get? q =
          some (.arr (toggled (.str option) (selection (answers.get? q)))) := by
        rw [Change.apply, toggle, Fields.get?_set, if_pos rfl]
      rw [hoptions, hanswer, if_neg (List.cons_ne_nil _ _)]
      split
      · next hnone => rw [hnone]; rfl
      · rfl
    · have hoptions : toggledOptions q (c :: changes) = toggledOptions q changes := by
        simp [toggledOptions, hq]
      rw [hoptions, get?_apply_of_ne hq]

/-- What is selected in the end is what the toggles make of what was selected at first. -/
theorem selection_changed {changes : List Change} {q : Text}
    (h : ∀ c ∈ changes, c.question = q → ∃ option, c = .toggle q option) (answers : Answers) :
    selection ((changed answers changes).get? q) =
      toggledAll (toggledOptions q changes) (selection (answers.get? q)) := by
  rw [get?_changed h]
  split
  · next hnone => rw [hnone]; rfl
  · rfl

end Answers

open Answers

/-- **Toggling keeps an ordered set.** While the options of one question are toggled and any other answers changed, its
selection stays without repeats; it holds an option if it held it at first, unless the option was toggled an odd number
of times, and then if it did not; what was never toggled stands in front in its first order, and behind it what is in it
of the options that were toggled, in the order of their last toggles. The other answers are those that the changes of
them give. No answer and an answer that is no list count as an empty selection. -/
theorem toggling_keeps_ordered_set {answers : Answers} {q : Text} {changes : List Change}
    (hselection : NoRepeats (selection (answers.get? q)))
    (htoggles : ∀ c ∈ changes, c.question = q → ∃ option, c = .toggle q option) :
    let before := selection (answers.get? q)
    let options := toggledOptions q changes
    let after := selection ((changed answers changes).get? q)
    (changed answers changes).get? q = (if options = [] then answers.get? q else some (.arr after)) ∧
      NoRepeats after ∧
      (∀ o, .str o ∈ after ↔ Xor (.str o ∈ before) (Odd (options.count o))) ∧
      after = before.filter (fun v => ∀ o ∈ options, v ≠ .str o) ++
        (options.dedup.filter fun o => .str o ∈ after).map .str ∧
      (changed answers changes).erase q = (changed answers (changes.filter (·.question ≠ q))).erase q := by
  intro before options after
  have hafter : after = toggledAll options before := selection_changed htoggles answers
  refine ⟨?_, ?_, ?_, ?_, erase_changed changes answers q⟩
  · rw [hafter]
    exact get?_changed htoggles answers
  · rw [hafter]
    exact noRepeats_toggledAll options hselection
  · intro o
    rw [hafter]
    exact mem_toggledAll_iff options hselection o
  · rw [hafter]
    exact toggledAll_eq options hselection

/-- A selection that holds more than texts, toggled between changes of another answer. -/
theorem toggling_keeps_ordered_set_between_changes :
    ∃ (answers : Answers) (changes : List Change),
      NoRepeats (selection (answers.get? "q")) ∧
      (∀ c ∈ changes, c.question = "q" → ∃ option, c = .toggle "q" option) ∧
      selection (answers.get? "q") = [.str "a", .int 7, .str "b"] ∧
      toggledOptions "q" changes = ["c", "a", "d", "c", "b", "a", "c"] ∧
      NoRepeats (selection ((changed answers changes).get? "q")) ∧
      selection ((changed answers changes).get? "q") = [.int 7, .str "d", .str "a", .str "c"] ∧
      (changed answers changes).erase "q" = (changed answers (changes.filter (·.question ≠ "q"))).erase "q" := by
  let answers : Answers := [("q", .arr [.str "a", .int 7, .str "b"]), ("p", .str "x")]
  let changes : List Change := [.toggle "q" "c", .put "p" .null, .toggle "q" "a", .toggle "q" "d", .toggle "q" "c",
    .toggle "p" "z", .toggle "q" "b", .toggle "q" "a", .toggle "q" "c"]
  have hselection : NoRepeats (selection (answers.get? "q")) := by decide
  have htoggles : ∀ c ∈ changes, c.question = "q" → ∃ option, c = .toggle "q" option := by
    have hne : Text.ofString "p" ≠ Text.ofString "q" := by decide
    simp [changes, Change.question, hne]
  rcases toggling_keeps_ordered_set hselection htoggles with ⟨-, hafter, -, -, hothers⟩
  exact ⟨answers, changes, hselection, htoggles, by decide, by decide, hafter, by decide, hothers⟩

end Questionnaire
