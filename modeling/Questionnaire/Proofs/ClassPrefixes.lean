import Mathlib.Data.List.Basic
import Questionnaire.Artifact.Basic

/-!
# Accepted prefixes

A form is exported if the start of its class names is a word of letters, digits, `_` and `-`, perhaps with a line
feed at the end. Such a word is a string as it stands.

* `Artifact.ofForm_eq_ok`: when there is an artifact of a form, and which.
* `Artifact.isPrefixPoint_of_mem`: the characters of an accepted prefix.
* `Artifact.ofString_classPrefix`: the prefix of an artifact is the one that was chosen.
-/

namespace Questionnaire

/-- The code points of strings that are put together. -/
theorem Text.ofString_append (s t : String) : ofString (s ++ t) = ofString s ++ ofString t := by
  simp [ofString]

/-- Halves come behind all characters that stand before them, so a range of such characters holds none. -/
theorem CodePoint.not_half_le_char (index : Fin 0x800) {c : Char} (hc : c.toNat < 0xD800) : ¬ half index ≤ .char c := by
  intro hle
  have hle : 0xD800 + index.val ≤ c.toNat := hle
  omega

/-- A text without halves is the text of a string. -/
theorem Text.ofString_string {t : Text} (h : ∀ p ∈ t, p.isHalf = false) : ofString t.string = t := by
  have hchars : ∀ t : Text, (∀ p ∈ t, p.isHalf = false) → (t.flatMap CodePoint.chars).map .char = t := by
    intro t
    induction t with
    | nil => simp
    | cons p t ih =>
      intro h
      cases p with
      | half index => exact absurd (h (.half index) (by simp)) (by simp [CodePoint.isHalf])
      | char c => simp [CodePoint.chars, ih fun p hp => h p (List.mem_cons_of_mem _ hp)]
  simpa [ofString, string] using hchars t h

namespace Artifact

variable {form : Form} {options : ArtifactOptions} {a : Artifact}

/-- May a code point stand in an accepted prefix? -/
def isPrefixPoint (p : CodePoint) : Bool := p.isAlphanum || p = '_' || p = '-' || p = '\n'

/-- The characters of an accepted prefix. -/
theorem isPrefixPoint_of_mem {t : Text} (h : isClassPrefix t = true) : ∀ p ∈ t, isPrefixPoint p = true := by
  unfold isClassPrefix at h
  split at h
  · simp at h
  · next first rest heq =>
    -- the prefix without its line feed, if there is one
    have hword : ∀ p ∈ first :: rest, isPrefixPoint p = true := by
      intro p hp
      simp only [Bool.and_eq_true, List.all_eq_true] at h
      rcases List.mem_cons.mp hp with rfl | hp
      · simp [isPrefixPoint, CodePoint.isAlphanum, h.1]
      · have hrest := h.2 p hp
        simp only [Bool.or_eq_true, decide_eq_true_eq] at hrest
        rcases hrest with (hrest | hrest) | hrest <;> simp [isPrefixPoint, hrest]
    rw [← heq] at hword
    split_ifs at hword with hlast
    · intro p hp
      have hsplit : t.dropLast ++ [.char '\n'] = t := List.dropLast_append_getLast? (CodePoint.char '\n') hlast
      rw [← hsplit] at hp
      rcases List.mem_append.mp hp with hp | hp
      · exact hword p hp
      · rw [List.mem_singleton.mp hp]
        rfl
    · exact hword

/-- No half of a pair may stand in a prefix. -/
theorem isHalf_of_isPrefixPoint {p : CodePoint} (h : isPrefixPoint p = true) : p.isHalf = false := by
  cases p with
  | char c => rfl
  | half index => simp [isPrefixPoint, CodePoint.isAlphanum, CodePoint.isAlpha, CodePoint.not_half_le_char] at h

/-- There is an artifact of a form if the prefix is accepted and the other options can be told, and one only. -/
theorem ofForm_eq_ok : ofForm form options = .ok a ↔
    (isClassPrefix options.classPrefix = true ∧ options.areTellable = true) ∧ a = {
      form, options
      button := Color.safe form.settings.buttonColor "#000000"
      background := Color.safe form.settings.backgroundColor "#ffffff" } := by
  unfold ofForm
  by_cases haccepted : isClassPrefix options.classPrefix = true
  · rw [if_pos haccepted]
    by_cases htellable : options.areTellable = true
    · simp [haccepted, htellable, eq_comm]
    · simp [htellable]
  · simp [haccepted]

/-- The prefix of an artifact is the one that was chosen. -/
theorem ofString_classPrefix (h : ofForm form options = .ok a) : Text.ofString a.classPrefix = options.classPrefix := by
  obtain ⟨⟨haccepted, -⟩, rfl⟩ := ofForm_eq_ok.mp h
  exact Text.ofString_string fun p hp => isHalf_of_isPrefixPoint (isPrefixPoint_of_mem haccepted p hp)

end Artifact
end Questionnaire
