import Mathlib.Data.List.Basic
import Mathlib.Logic.Function.Basic
import Questionnaire.Numbering
import Questionnaire.Text.Digits

/-!
# Names by position

A name by position ends in the digits of the position, so positions can be read off names.

* `digits_injective`: different numbers have different digits.
* `questionName_injective`, `choiceName_injective`: a name belongs to one position.
* `positionDigits_questionName`, `positionDigits_choiceName`: the position of the question, read off either name.
-/

namespace Questionnaire

/-- A string is told by its text. -/
theorem Text.ofString_injective : Function.Injective Text.ofString := by
  intro s t h
  have hback := congrArg Text.string h
  rwa [Text.string_ofString, Text.string_ofString] at hback

@[simp] theorem Text.ofString_inj {s t : String} : Text.ofString s = Text.ofString t ↔ s = t :=
  Text.ofString_injective.eq_iff

/-- Different numbers have different digits. -/
theorem digits_injective : Function.Injective fun n : Nat => Text.ofString (toString n) := by
  intro m n h
  have hdigits : Nat.toDigits 10 m = Nat.toDigits 10 n := by
    have hlists := congrArg String.toList (Text.ofString_injective h)
    simpa [Nat.toString_eq_ofList_toDigits] using hlists
  -- reading the digits gives the number back
  have hread := congrArg (fun digits => Nat.ofDigitChars 10 digits 0) hdigits
  simpa using hread

/-- The name of a question belongs to one position. -/
theorem questionName_injective : Function.Injective questionName := by
  intro m n h
  exact digits_injective (List.append_cancel_left h)

/-- Among the choices of a question, a name belongs to one position. -/
theorem choiceName_injective (question : Text) : Function.Injective (choiceName question) := by
  intro m n h
  exact digits_injective (List.append_cancel_left h)

/-- The characters of a number are digits. -/
theorem isDigit_of_mem_toString {n : Nat} {p : CodePoint} (h : p ∈ Text.ofString (toString n)) :
    Text.isDigit p = true := by
  obtain ⟨c, hc, rfl⟩ := List.mem_map.mp h
  have hdigit : c ∈ Nat.toDigits 10 n := by simpa [Nat.toString_eq_ofList_toDigits] using hc
  have hc : c.isDigit = true := Nat.isDigit_of_mem_toDigits (by decide) (by decide) hdigit
  exact hc

/-- The digits in the name of a question, and in a name that is made from it. -/
def positionDigits (id : Text) : Text := (id.drop 2).takeWhile Text.isDigit

/-- The name of a question is read back as its place. -/
theorem positionDigits_questionName (n : Nat) : positionDigits (questionName n) = Text.ofString (toString n) := by
  have hdrop : (questionName n).drop 2 = Text.ofString (toString n) ++ [] := by
    rw [questionName, List.append_nil]
    rfl
  rw [positionDigits, hdrop, List.takeWhile_append_of_pos fun _ => isDigit_of_mem_toString]
  simp

/-- A name of a choice goes on with something else than a digit behind that of its question. -/
theorem positionDigits_choiceName (n k : Nat) :
    positionDigits (choiceName (questionName n) k) = Text.ofString (toString n) := by
  have hdrop : (choiceName (questionName n) k).drop 2 =
      Text.ofString (toString n) ++ (Text.ofString "_opt_" ++ Text.ofString (toString k)) := by
    rw [choiceName, questionName, List.append_assoc, List.append_assoc]
    rfl
  have hrest : (Text.ofString "_opt_" ++ Text.ofString (toString k)).takeWhile Text.isDigit = [] := rfl
  rw [positionDigits, hdrop, List.takeWhile_append_of_pos fun _ => isDigit_of_mem_toString, hrest, List.append_nil]

end Questionnaire
