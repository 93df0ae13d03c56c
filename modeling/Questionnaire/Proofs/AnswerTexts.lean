import Questionnaire.Proofs.HugeIntegers
import Questionnaire.Proofs.Steps

/-!
# Which answers have a text

A value has no text if it is or holds an integer beyond all doubles, at whatever depth, or if it is a list or
object in which more values stand in one another than the stack has room for. Every other value has a text,
however much room there is.

* `Json.lt_depth_arr_iff`, `lt_depth_obj_iff`: the depth of a list or object by its parts.
* `Json.nestedText_fails_iff`: by induction on the room, the values without a text in a list or object.
* `Json.LacksText`: the values without a text; `answerText_fails_iff` that they are.
* `Json.answerText_eq_error`: what an error says of the value.
-/

namespace Questionnaire.Json

/-! ## Depth -/

/-- A list of values is deeper than a bound if one of them is. -/
theorem lt_depthItems_iff {n : Nat} {items : List Json} : n < depthItems items ↔ ∃ v ∈ items, n < v.depth := by
  induction items with
  | nil => simp [depthItems]
  | cons v items ih => rw [depthItems, lt_max_iff, List.exists_mem_cons_iff, ih]

/-- So are entries, by their values. -/
theorem lt_depthFields_iff {n : Nat} {fields : Fields} :
    n < depthFields fields ↔ ∃ entry ∈ fields, n < entry.2.depth := by
  induction fields with
  | nil => simp [depthFields]
  | cons entry fields ih => rw [depthFields, lt_max_iff, List.exists_mem_cons_iff, ih]

/-- A list is deeper than one of its items if this is the deepest. -/
theorem lt_depth_arr_iff {n : Nat} {items : List Json} :
    n + 1 < (Json.arr items).depth ↔ ∃ v ∈ items, n < v.depth := by
  rw [depth, Nat.add_lt_add_iff_right, lt_depthItems_iff]

/-- An object takes one more than its values. -/
theorem lt_depth_obj_iff {n : Nat} {fields : Fields} :
    n + 1 < (Json.obj fields).depth ↔ ∃ entry ∈ fields, n < entry.2.depth := by
  rw [depth, Nat.add_lt_add_iff_right, lt_depthFields_iff]

/-! ## Values in lists and objects -/

/-- A text by itself needs no separator. -/
theorem intercalate_mapM_singleton {ε α : Type} (separator : Text) (f : α → Except ε Text) (x : α) :
    Text.intercalate separator <$> [x].mapM f = f x := by
  rw [List.mapM_cons, List.mapM_nil]
  cases f x with
  | error e => rfl
  | ok first => exact congrArg Except.ok (List.intercalate_singleton ..)

/-- Texts that are put together with separators are made from the first on. -/
theorem intercalate_mapM_cons {ε α : Type} (separator : Text) (f : α → Except ε Text) (x y : α) (xs : List α) :
    Text.intercalate separator <$> (x :: y :: xs).mapM f = (do
      let first ← f x
      let rest ← Text.intercalate separator <$> (y :: xs).mapM f
      return first ++ separator ++ rest) := by
  rw [List.mapM_cons]
  cases f x with
  | error e => rfl
  | ok first =>
    cases hrest : (y :: xs).mapM f with
    | error e => rfl
    | ok texts =>
      cases mapM_eq_ok_iff.mp hrest with
      | cons _ _ =>
        simp only [Functor.map, Except.map, bind, Except.bind, pure, Except.pure, Text.intercalate,
          List.intercalate_cons_cons]

/-- Items are written one by one. -/
theorem nestedItems_eq (room : Nat) (items : List Json) :
    nestedItems room items = Text.intercalate "," <$> items.mapM (nestedText room) := by
  induction items with
  | nil => rfl
  | cons v items ih =>
    cases items with
    | nil => rw [nestedItems, intercalate_mapM_singleton]
    | cons w items =>
      rw [nestedItems, ih, intercalate_mapM_cons]
      exact nofun

/-- An entry of an object is its key with the text of its value. -/
def nestedEntry (room : Nat) (entry : Text × Json) : Except TextError Text := do
  return quote entry.1 ++ ":" ++ (← nestedText room entry.2)

/-- Entries are written one by one, with commas between them. -/
theorem nestedFields_eq (room : Nat) (fields : Fields) :
    nestedFields room fields = Text.intercalate "," <$> fields.mapM (nestedEntry room) := by
  induction fields with
  | nil => rfl
  | cons entry fields ih =>
    cases fields with
    | nil => rw [nestedFields, intercalate_mapM_singleton, nestedEntry]
    | cons entry' fields =>
      rw [nestedFields, ih, intercalate_mapM_cons, nestedEntry]
      · cases nestedText room entry.2 <;> rfl
      · exact nofun

/-- An entry fails with its value; a key can always be written. -/
@[simp] theorem nestedEntry_eq_error_iff {room : Nat} {entry : Text × Json} {e : TextError} :
    nestedEntry room entry = .error e ↔ nestedText room entry.2 = .error e := by
  simp [nestedEntry, bind_eq_error_iff, pure, Except.pure]

/-- The text of a list is made of the texts of its items. -/
theorem nestedText_arr (room : Nat) (items : List Json) :
    nestedText (room + 1) (.arr items) =
      (fun texts => "[" ++ Text.intercalate "," texts ++ "]") <$> items.mapM (nestedText room) := by
  rw [nestedText, nestedItems_eq]
  cases items.mapM (nestedText room) <;> rfl

/-- An object is its entries in braces. -/
theorem nestedText_obj (room : Nat) (fields : Fields) :
    nestedText (room + 1) (.obj fields) =
      (fun texts => "\x7b" ++ Text.intercalate "," texts ++ "\x7d") <$> fields.mapM (nestedEntry room) := by
  rw [nestedText, nestedFields_eq]
  cases fields.mapM (nestedEntry room) <;> rfl

/-- With room for some values in one another, a value in a list or object has no text exactly if it is or holds an
integer too large or is deeper than that. -/
theorem nestedText_fails_iff (room : Nat) (v : Json) :
    (∃ e, nestedText room v = .error e) ↔ v.Overflows ∨ room < v.depth := by
  induction room generalizing v with
  | zero =>
    have hdepth : 0 < v.depth := by cases v <;> simp [depth]
    simp [nestedText, hdepth]
  | succ room ih =>
    cases v with
    | int n => simp [nestedText, integerText_eq_error_iff, depth]
    | arr items =>
      simp only [nestedText_arr, map_eq_error_iff, mapM_fails_iff, ih, overflows_arr, lt_depth_arr_iff, ← exists_or,
        ← and_or_left]
    | obj fields =>
      simp only [nestedText_obj, map_eq_error_iff, mapM_fails_iff, nestedEntry_eq_error_iff, ih, overflows_obj,
        lt_depth_obj_iff, ← exists_or, ← and_or_left]
    | _ => simp [nestedText, depth]

/-- The error tells which of the two it is. -/
theorem nestedText_eq_error {room : Nat} {v : Json} {e : TextError} (h : nestedText room v = .error e) :
    e = .integerTooLarge ∧ v.Overflows ∨ e = .tooDeep ∧ room < v.depth := by
  induction room generalizing v with
  | zero =>
    have hdepth : 0 < v.depth := by cases v <;> simp [depth]
    rw [nestedText, Except.error.injEq] at h
    exact .inr ⟨h.symm, hdepth⟩
  | succ room ih =>
    cases v with
    | int n => exact .inl (integerText_eq_error_iff.mp h)
    | arr items =>
      -- the error is that of an item, and what it says of the item it says of the list
      rw [nestedText_arr, map_eq_error_iff] at h
      obtain ⟨v, hmem, hv⟩ := exists_of_mapM_eq_error h
      exact (ih hv).imp (And.imp_right fun hoverflows => (overflows_arr items).mpr ⟨v, hmem, hoverflows⟩)
        (And.imp_right fun hdeep => lt_depth_arr_iff.mpr ⟨v, hmem, hdeep⟩)
    | obj fields =>
      rw [nestedText_obj, map_eq_error_iff] at h
      obtain ⟨entry, hmem, hentry⟩ := exists_of_mapM_eq_error h
      exact (ih (nestedEntry_eq_error_iff.mp hentry)).imp
        (And.imp_right fun hoverflows => (overflows_obj fields).mpr ⟨entry, hmem, hoverflows⟩)
        (And.imp_right fun hdeep => lt_depth_obj_iff.mpr ⟨entry, hmem, hdeep⟩)
    | _ => cases h

/-! ## Lists and objects in one another -/

/-- Is a value a list or an object? -/
def isStructured : Json → Bool
  | .arr _ | .obj _ => true
  | _ => false

/-- The empty list, in so many lists that stand in one another. -/
def nested : Nat → Json
  | 0 => .arr []
  | n + 1 => .arr [nested n]

theorem isStructured_nested (n : Nat) : (nested n).isStructured = true := by cases n <;> rfl

/-- Lists that stand in one another are as deep as there are lists. -/
theorem depth_nested (n : Nat) : (nested n).depth = n + 1 := by
  induction n with
  | zero => rfl
  | succ n ih => simp [nested, depth, depthItems, ih]

/-- They hold no integer at all. -/
theorem not_overflows_nested (n : Nat) : ¬ (nested n).Overflows := by
  induction n with
  | zero => simp [nested]
  | succ n ih => simpa [nested] using ih

/-! ## Answers -/

variable [Stack]

/-- Do more values stand in one another in a list or object than the stack has room for? -/
def IsTooDeep (v : Json) : Prop := v.isStructured = true ∧ Stack.writingRoom < v.depth

/-- Is or holds a value an integer too large, or is it too deep? -/
def LacksText (v : Json) : Prop := v.Overflows ∨ v.IsTooDeep

/-- A list or object lacks a text for either of two reasons. -/
theorem lacksText_of_isStructured {v : Json} (h : v.isStructured = true) :
    v.LacksText ↔ v.Overflows ∨ Stack.writingRoom < v.depth := by
  rw [LacksText, IsTooDeep, and_iff_right h]

/-- The text of a list or object is the one that it has in others. -/
theorem answerText_of_isStructured {v : Json} (h : v.isStructured = true) :
    v.answerText = nestedText Stack.writingRoom v := by
  cases v with
  | arr items => rfl
  | obj fields => rfl
  | _ => cases h

/-- **A value has no text exactly if it is or holds an integer too large for a double, or is too deep.** -/
theorem answerText_fails_iff (v : Json) : (∃ e, v.answerText = .error e) ↔ v.LacksText := by
  cases v with
  | int n => simp [answerText, integerText_eq_error_iff, LacksText, IsTooDeep, isStructured]
  | arr items => exact (nestedText_fails_iff _ _).trans (lacksText_of_isStructured rfl).symm
  | obj fields => exact (nestedText_fails_iff _ _).trans (lacksText_of_isStructured rfl).symm
  | _ => simp [answerText, LacksText, IsTooDeep, isStructured]

/-- Values have texts together if each has one. -/
theorem mapM_answerText_succeeds_iff (vs : List Json) :
    (∃ texts, vs.mapM answerText = .ok texts) ↔ ∀ v ∈ vs, ¬ v.LacksText := by
  simp [exists_eq_ok_iff, mapM_fails_iff, answerText_fails_iff]

/-- The error tells which of the two it is. -/
theorem answerText_eq_error {v : Json} {e : TextError} (h : v.answerText = .error e) :
    e = .integerTooLarge ∧ v.Overflows ∨ e = .tooDeep ∧ v.IsTooDeep := by
  cases v with
  | int n => exact .inl (integerText_eq_error_iff.mp h)
  | arr items => exact (nestedText_eq_error h).imp_right (And.imp_right fun hdeep => ⟨rfl, hdeep⟩)
  | obj fields => exact (nestedText_eq_error h).imp_right (And.imp_right fun hdeep => ⟨rfl, hdeep⟩)
  | _ => cases h

/-- Lists in one another have no text from the depth on for which there is no room. -/
theorem answerText_nested {n : Nat} (h : Stack.writingRoom ≤ n) : (nested n).answerText = .error .tooDeep := by
  have hdeep : (nested n).IsTooDeep := ⟨isStructured_nested n, by rw [depth_nested]; omega⟩
  obtain ⟨e, he⟩ := (nested n).answerText_fails_iff.mpr (.inr hdeep)
  rcases answerText_eq_error he with ⟨-, hoverflows⟩ | ⟨rfl, -⟩
  · exact absurd hoverflows (not_overflows_nested n)
  · exact he

end Questionnaire.Json
