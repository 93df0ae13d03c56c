import Mathlib.Data.List.Basic
import Questionnaire.Proofs.ClassPrefixes
import Questionnaire.Text.Basic

/-!
# Texts taken apart

A text is taken apart at every separator or only at the first. What was put together from parts without the separator
falls apart into these parts again.

* `Text.pieces_append`: the first piece ends at the first separator.
* `Text.pieces_intercalate`: parts that were put together with separators are the pieces.
* `Text.forall_mem_intercalate`: what holds in the parts holds in what they make.
* `Text.splitAt_append_left`: a text split at the first separator.
-/

namespace Questionnaire.Text

variable {separator : CodePoint} {t : Text}

/-- A text without the separator is one piece. -/
theorem pieces_of_notMem (h : separator ∉ t) : pieces separator t = [t] := by
  induction t with
  | nil => rfl
  | cons p t ih =>
    rw [List.mem_cons, not_or] at h
    rw [pieces, if_neg (Ne.symm h.1), ih h.2]

/-- The first piece ends at the first separator. -/
theorem pieces_append (h : separator ∉ t) (rest : Text) :
    pieces separator (t ++ separator :: rest) = t :: pieces separator rest := by
  induction t with
  | nil => rw [List.nil_append, pieces, if_pos rfl]
  | cons p t ih =>
    rw [List.mem_cons, not_or] at h
    rw [List.cons_append, pieces, if_neg (Ne.symm h.1), ih h.2]

/-- Parts without the separator are the pieces of the text that they make. -/
theorem pieces_intercalate {parts : List Text} (hne : parts ≠ []) (h : ∀ part ∈ parts, separator ∉ part) :
    pieces separator (intercalate [separator] parts) = parts := by
  induction parts with
  | nil => exact absurd rfl hne
  | cons part parts ih =>
    rw [List.forall_mem_cons] at h
    rcases h with ⟨hpart, hparts⟩
    cases parts with
    | nil =>
      rw [intercalate, List.intercalate_singleton]
      exact pieces_of_notMem hpart
    | cons next rest =>
      rw [intercalate, List.intercalate_cons_cons, List.append_assoc, List.singleton_append, pieces_append hpart]
      exact congrArg _ (ih (List.cons_ne_nil _ _) hparts)

/-- What holds in each part and in the separator holds in the text that they make. -/
theorem forall_mem_intercalate {α : Type} {P : α → Prop} {separator : List α} {parts : List (List α)}
    (hseparator : ∀ a ∈ separator, P a) (h : ∀ part ∈ parts, ∀ a ∈ part, P a) :
    ∀ a ∈ List.intercalate separator parts, P a := by
  induction parts with
  | nil => nofun
  | cons part parts ih =>
    rw [List.forall_mem_cons] at h
    cases parts with
    | nil =>
      rw [List.intercalate_singleton]
      exact h.1
    | cons next rest =>
      rw [List.intercalate_cons_cons, List.forall_mem_append, List.forall_mem_append]
      exact ⟨⟨h.1, hseparator⟩, ih h.2⟩

/-- Strings are joined as their texts are. -/
theorem ofString_intercalate (separator : String) (parts : List String) :
    ofString (separator.intercalate parts) = intercalate separator (parts.map ofString) := by
  induction parts with
  | nil => rfl
  | cons part parts ih =>
    cases parts with
    | nil => simp [intercalate]
    | cons next rest =>
      rw [String.intercalate_cons_cons, ofString_append, ofString_append, ih, intercalate, intercalate,
        List.map_cons, List.map_cons, List.map_cons, List.intercalate_cons_cons]

/-- What is in front of the first separator is told apart from it point by point. -/
theorem splitAt_append_left (h : separator ∉ t) (rest : Text) :
    splitAt separator (t ++ rest) = (t ++ (splitAt separator rest).1, (splitAt separator rest).2) := by
  have hkept : ∀ p ∈ t, decide (p ≠ separator) = true := by
    intro p hp
    exact decide_eq_true fun heq => h (heq ▸ hp)
  unfold splitAt
  rw [List.takeWhile_append_of_pos hkept, List.dropWhile_append_of_pos hkept]

/-- A text is split at the first separator, with everything behind it as the rest. -/
theorem splitAt_append (h : separator ∉ t) (rest : Text) :
    splitAt separator (t ++ separator :: rest) = (t, some rest) := by
  rw [splitAt_append_left h]
  simp [splitAt]

end Questionnaire.Text
