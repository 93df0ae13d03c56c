import Questionnaire.Proofs.CompactReading
import Questionnaire.Proofs.RelaxedRule

/-!
# The texts of lists and objects

A list or object is compared by its text, if the stack has room to write it. Where it holds no doubles and no integers
that are not told by all their digits, the text says all that the value is: it is the value on one line, and is read
back as it was. So different lists and objects have different texts, and a rule that names some of them holds for them
alone.

* `Json.SpelledOut`: values whose text says all that they are; `SpelledOut.nestedText_eq` gives the text.
* `Json.SpelledOut.write_inj`: different values have different texts.
* `structured_texts_are_read_back`: the texts of lists and objects, and the rules that name them.
-/

namespace Questionnaire

namespace Json

/-- Is a value made of nulls, truth values, texts, integers below `10²¹`, lists, and objects with distinct keys? -/
inductive SpelledOut : Json → Prop
  | null : SpelledOut .null
  | bool (b : Bool) : SpelledOut (.bool b)
  | int {n : Int} (h : n.natAbs < 10 ^ 21) : SpelledOut (.int n)
  | str (s : Text) : SpelledOut (.str s)
  | arr {items : List Json} (h : ∀ v ∈ items, SpelledOut v) : SpelledOut (.arr items)
  | obj {fields : Fields} (hdistinct : (Fields.keys fields).Nodup) (h : ∀ e ∈ fields, SpelledOut e.2) :
    SpelledOut (.obj fields)

/-- What is spelled out is read back exactly. -/
theorem SpelledOut.exact {v : Json} (h : v.SpelledOut) : v.Exact := by
  induction h with
  | null => exact .null
  | bool b => exact .bool b
  | @int n _ => exact .int n
  | str s => exact .str s
  | arr _ ih => exact .arr ih
  | obj hdistinct _ ih => exact .obj hdistinct ih

/-- An integer that is told by all its digits is far from those that are too large. -/
theorem SpelledOut.not_overflows {v : Json} (h : v.SpelledOut) : ¬ v.Overflows := by
  induction h with
  | null => simp
  | bool b => simp
  | @int n hn =>
    intro hoverflows
    have hfails : integerText n = .error .integerTooLarge := integerText_eq_error_iff.mpr ⟨rfl, hoverflows⟩
    rw [integerText, if_pos hn] at hfails
    cases hfails
  | str s => simp
  | arr _ ih => simpa using ih
  | obj _ _ ih => simpa using ih

/-! ## Their texts -/

/-- Items that are written on one line are written so one after the other. -/
theorem nestedItems_eq_writeItems {room : Nat} {items : List Json}
    (h : ∀ v ∈ items, nestedText room v = .ok v.write) : nestedItems room items = .ok (writeItems items) := by
  induction items with
  | nil => rfl
  | cons v items ih =>
    obtain ⟨hv, hitems⟩ := List.forall_mem_cons.mp h
    cases items with
    | nil => simp [nestedItems, writeItems, hv]
    | cons w items => simp [nestedItems, writeItems, hv, ih hitems, bind, Except.bind, pure, Except.pure]

/-- Fields whose values have their written texts have theirs. -/
theorem nestedFields_eq_writeFields {room : Nat} {fields : Fields}
    (h : ∀ e ∈ fields, nestedText room e.2 = .ok e.2.write) : nestedFields room fields = .ok (writeFields fields) := by
  induction fields with
  | nil => rfl
  | cons e fields ih =>
    obtain ⟨k, v⟩ := e
    obtain ⟨hv, hfields⟩ := List.forall_mem_cons.mp h
    cases fields with
    | nil => simp [nestedFields, writeFields, hv, bind, Except.bind, pure, Except.pure]
    | cons e fields => simp [nestedFields, writeFields, hv, ih hfields, bind, Except.bind, pure, Except.pure]

/-- With room for the value, its text inside a list or object is the value on one line. -/
theorem SpelledOut.nestedText_eq {v : Json} (h : v.SpelledOut) {room : Nat} (hroom : v.depth ≤ room) :
    nestedText room v = .ok v.write := by
  induction h generalizing room with
  | arr _ ih =>
    cases room with
    | zero => simp [depth] at hroom
    | succ room =>
      have hitems := nestedItems_eq_writeItems fun v hv => ih v hv (not_lt.mp fun hdeep =>
        absurd (lt_depth_arr_iff.mpr ⟨v, hv, hdeep⟩) (not_lt.mpr hroom))
      simp [nestedText, write, hitems, bind, Except.bind, pure, Except.pure]
  | obj _ _ ih =>
    cases room with
    | zero => simp [depth] at hroom
    | succ room =>
      have hfields := nestedFields_eq_writeFields fun e he => ih e he (not_lt.mp fun hdeep =>
        absurd (lt_depth_obj_iff.mpr ⟨e, he, hdeep⟩) (not_lt.mpr hroom))
      simp [nestedText, write, hfields, bind, Except.bind, pure, Except.pure]
  -- An integer below `10²¹` keeps its digits; a larger one is not spelled out.
  | int hn =>
    cases room with
    | zero => simp [depth] at hroom
    | succ room => rw [nestedText, integerText, if_pos hn, write]
  | null | bool _ | str _ =>
    cases room with
    | zero => simp [depth] at hroom
    | succ room => rfl

/-- So is the text of a list or object by itself, unless it is too deep. -/
theorem SpelledOut.answerText_eq [Stack] {v : Json} (h : v.SpelledOut) (hstructured : v.isStructured = true)
    (hshallow : ¬ v.IsTooDeep) : v.answerText = .ok v.write := by
  rw [answerText_of_isStructured hstructured]
  exact h.nestedText_eq (not_lt.mp fun hdeep => hshallow ⟨hstructured, hdeep⟩)

/-- A list or object that is too deep has no text. -/
theorem SpelledOut.answerText_of_isTooDeep [Stack] {v : Json} (h : v.SpelledOut) (hdeep : v.IsTooDeep) :
    v.answerText = .error .tooDeep := by
  obtain ⟨e, he⟩ := v.answerText_fails_iff.mpr (.inr hdeep)
  rcases answerText_eq_error he with ⟨-, hoverflows⟩ | ⟨rfl, -⟩
  · exact absurd hoverflows h.not_overflows
  · exact he

/-- Different values are written differently, since each is read back. -/
theorem SpelledOut.write_inj {v w : Json} (hv : v.SpelledOut) (hw : w.SpelledOut) : v.write = w.write ↔ v = w := by
  constructor
  · intro h
    have hread := hv.exact.parse_write
    rw [h, hw.exact.parse_write] at hread
    exact (Except.ok.inj hread).symm
  · rintro rfl
    rfl

variable [Stack]

/-- Are values lists and objects that are spelled out and not too deep? -/
def AllSpelledOut (vs : List Json) : Prop := ∀ v ∈ vs, v.SpelledOut ∧ v.isStructured = true ∧ ¬ v.IsTooDeep

/-- The texts of such parts are what is written of them. -/
theorem AllSpelledOut.mapM_answerText {vs : List Json} (h : AllSpelledOut vs) :
    vs.mapM answerText = .ok (vs.map write) := by
  refine mapM_eq_ok_map ?_
  intro v hv
  obtain ⟨hspelled, hstructured, hshallow⟩ := h v hv
  exact hspelled.answerText_eq hstructured hshallow

/-- Among their texts is one of some others exactly if one of the others is among them. -/
theorem AllSpelledOut.any_contains_write {vs ws : List Json} (hv : AllSpelledOut vs) (hw : AllSpelledOut ws) :
    ((ws.map write).any ((vs.map write).contains ·)) = ws.any fun w => decide (w ∈ vs) := by
  have hmem : ∀ w ∈ ws, w.write ∈ vs.map write ↔ w ∈ vs := by
    intro w hmem
    rw [List.mem_map]
    constructor
    · rintro ⟨v, hv', hsame⟩
      rwa [← ((hv v hv').1.write_inj (hw w hmem).1).mp hsame]
    · intro hmem'
      exact ⟨w, hmem', rfl⟩
  rw [List.any_map, Bool.eq_iff_iff, List.any_eq_true, List.any_eq_true]
  refine exists_congr fun w => and_congr_right fun hw => ?_
  rw [Function.comp_apply, List.contains_iff_mem, decide_eq_true_iff, hmem w hw]

end Json

/-! ## Rules that name them -/

section

open Json

variable [Stack] {c : Condition} {vs : List Json} (hvs : AllSpelledOut vs) (hc : vs.mapM answerText = .ok c.values)

include hvs hc

/-- A rule that names lists and objects holds for a list exactly if one of its items is among them. -/
theorem Condition.matchedByAny_arr_of_spelledOut {items : List Json} (hitems : AllSpelledOut items) :
    c.matchedByAny (.arr items) = .ok (items.any fun w => decide (w ∈ vs)) := by
  rw [hvs.mapM_answerText] at hc
  rw [matchedByAny, hitems.mapM_answerText, ← hvs.any_contains_write hitems, Except.ok.inj hc]
  rfl

/-- It holds for an object exactly if one of the values of the object is. -/
theorem Condition.matchedByAny_obj_of_spelledOut {fields : Fields} (hfields : AllSpelledOut (fields.map (·.2))) :
    c.matchedByAny (.obj fields) = .ok ((fields.map (·.2)).any fun w => decide (w ∈ vs)) := by
  rw [← Condition.matchedByAny_arr_of_spelledOut hvs hc hfields, matchedByAny, matchedByAny, List.mapM_map]
  rfl

end

/-- **The texts of lists and objects are read back.** A list or object made of nulls, truth values, texts, integers
below `10²¹`, lists and objects has no text if it is too deep, and the error says so. Else it has a text, which is
read as the value that it was, with its items and keys in their order; no other such list or object, however deep, has
the same text. And a rule for success pages that names the texts of some of them holds, where the answer is a list or
object of such lists and objects, exactly if one of those that are named is in it. -/
theorem structured_texts_are_read_back [Stack] (v : Json) (hv : v.SpelledOut) (hstructured : v.isStructured = true) :
    (v.IsTooDeep → v.answerText = .error .tooDeep) ∧
    (¬ v.IsTooDeep → ∃ t, v.answerText = .ok t ∧ Json.parse t = .ok v ∧
      (∀ w : Json, w.SpelledOut → w.isStructured = true → (w.answerText = .ok t ↔ w = v)) ∧
      ∀ (c : Condition) (named : List Json), Json.AllSpelledOut named →
        named.mapM Json.answerText = .ok c.values →
        ∀ (A : Answers) (qs : List Question) (q : Question), find? qs c.source = some q →
          (∀ items, Json.AllSpelledOut items → A.given? c.source = some (.arr items) →
            c.holdsRelaxed A qs = .ok (items.any fun w => decide (w ∈ named))) ∧
          ∀ fields : Fields, Json.AllSpelledOut (fields.map (·.2)) → A.given? c.source = some (.obj fields) →
            c.holdsRelaxed A qs = .ok ((fields.map (·.2)).any fun w => decide (w ∈ named))) := by
  refine ⟨hv.answerText_of_isTooDeep, fun hshallow =>
    ⟨v.write, hv.answerText_eq hstructured hshallow, hv.exact.parse_write, ?_, ?_⟩⟩
  · intro w hw hwstructured
    by_cases hdeep : w.IsTooDeep
    · -- one that is too deep has no text, so it is not the value either
      have hne : w ≠ v := fun heq => hshallow (heq ▸ hdeep)
      rw [hw.answerText_of_isTooDeep hdeep]
      exact iff_of_false nofun hne
    · rw [hw.answerText_eq hwstructured hdeep, Except.ok.injEq, hw.write_inj hv]
  · intro c named hnamed hc A qs q hq
    constructor
    · intro items hitems hanswer
      rw [Condition.holdsRelaxed, hq, hanswer]
      exact Condition.matchedByAny_arr_of_spelledOut hnamed hc hitems
    · intro fields hfields hanswer
      rw [Condition.holdsRelaxed, hq, hanswer]
      exact Condition.matchedByAny_obj_of_spelledOut hnamed hc hfields

/-- A list with a literal that looks like its end, and an empty list under an empty key: the rule that names it holds
for it, and not for the one in which a truth value and a number have changed places. -/
theorem structured_texts_are_read_back_nested :
    let rest : List Json := [.str "],\"\\\n", .obj [("k", .null), ("", .arr [])]]
    let v : Json := .arr (.bool true :: .int (-1) :: rest)
    let w : Json := .arr (.int (-1) :: .bool true :: rest)
    let c : Condition := ⟨none, "q", ["[true,-1,\"],\\\"\\\\\\n\",\x7b\"k\":null,\"\":[]\x7d]"]⟩
    let qs := [Question.bare "q" .address [] .all]
    v.SpelledOut ∧ v.isStructured = true ∧ ¬ v.IsTooDeep ∧
    (∃ t, v.answerText = .ok t ∧ c.values = [t] ∧ Json.parse t = .ok v) ∧
    c.holdsRelaxed [("q", .obj [("x", w)])] qs = .ok false ∧
    c.holdsRelaxed [("q", .obj [("x", w), ("y", v)])] qs = .ok true := by
  intro rest v w c qs
  have hrest : ∀ u ∈ rest, u.SpelledOut := by
    intro u hu
    rcases List.mem_cons.mp hu with rfl | hu
    · exact .str _
    · rw [List.mem_singleton.mp hu]
      refine .obj (by decide) ?_
      simp [Json.SpelledOut.null, Json.SpelledOut.arr]
  have hbool : (Json.bool true).SpelledOut := .bool true
  have hint : (Json.int (-1)).SpelledOut := .int (by decide)
  have hv : v.SpelledOut := .arr (List.forall_mem_cons.mpr ⟨hbool, List.forall_mem_cons.mpr ⟨hint, hrest⟩⟩)
  have hw : w.SpelledOut := .arr (List.forall_mem_cons.mpr ⟨hint, List.forall_mem_cons.mpr ⟨hbool, hrest⟩⟩)
  have hvshallow : ¬ v.IsTooDeep := fun hdeep => absurd hdeep.2 (by decide)
  have hwshallow : ¬ w.IsTooDeep := fun hdeep => absurd hdeep.2 (by decide)
  have hnamed : Json.AllSpelledOut [v] := by simpa [Json.AllSpelledOut] using ⟨hv, rfl, hvshallow⟩
  have hone : Json.AllSpelledOut [w] := by simpa [Json.AllSpelledOut] using ⟨hw, rfl, hwshallow⟩
  have hboth : Json.AllSpelledOut [w, v] := by
    simpa [Json.AllSpelledOut] using ⟨⟨hw, rfl, hwshallow⟩, hv, rfl, hvshallow⟩
  -- The condition names the very text that is stored for the first part.
  have hc : [v].mapM Json.answerText = .ok c.values := by decide
  obtain ⟨t, ht, hread, -, hrule⟩ := (structured_texts_are_read_back v hv rfl).2 hvshallow
  have hvalues : c.values = [t] := by
    rw [List.mapM_cons, ht] at hc
    exact (Except.ok.inj hc).symm
  have hfalse := (hrule c [v] hnamed hc [("q", .obj [("x", w)])] qs _ rfl).2 [("x", w)] hone rfl
  have htrue := (hrule c [v] hnamed hc [("q", .obj [("x", w), ("y", v)])] qs _ rfl).2
    [("x", w), ("y", v)] hboth rfl
  refine ⟨hv, rfl, hvshallow, ⟨t, ht, hvalues, hread⟩, hfalse.trans ?_, htrue.trans ?_⟩
  · decide
  · decide

/-- Lists that stand in one another to a depth for which there is no room have no text that could be read. -/
theorem deep_list_is_not_read_back :
    (Json.nested 400).SpelledOut ∧ (Json.nested 400).isStructured = true ∧
    ¬ ∃ t, (Json.nested 400).answerText = .ok t ∧ Json.parse t = .ok (Json.nested 400) := by
  have hspelled (n : Nat) : (Json.nested n).SpelledOut := by
    induction n with
    | zero => exact .arr nofun
    | succ n ih => exact .arr (by simpa using ih)
  refine ⟨hspelled 400, rfl, ?_⟩
  rintro ⟨t, ht, -⟩
  rw [Json.answerText_nested (by decide)] at ht
  cases ht

end Questionnaire
