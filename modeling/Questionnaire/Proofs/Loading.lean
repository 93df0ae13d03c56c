import Mathlib.Data.List.TakeWhile
import Questionnaire.Proofs.WrittenForms

/-!
# Stored data that load

Reading stored data leaves out malformed entries of lists and fills in nulls, but it does not do so with a
value of another wrong kind: a number where a text belongs, a text where a list belongs, or settings that are
no object stop it. Which data become a form can be told from the kinds of the values under the keys.

* `Checked.Passes`: a reading goes through; one rule for each way to put readings together.
* `Form.Loadable` and its parts: what the values under the keys must be.
* `stored_data_load_iff_loadable`: which stored data become a form.
-/

namespace Questionnaire

/-! ## Readings that go through -/

namespace Checked

variable {α β : Type}

/-- Does a reading go through? -/
def Passes (c : Checked α) : Prop := ∃ a, c.result = .ok a

@[simp] theorem passes_accept (a : α) : (accept a).Passes := ⟨a, rfl⟩

@[simp] theorem not_passes_refuse (problem : Problem) (input : Json) :
    ¬ (refuse problem input : Checked α).Passes := by
  rintro ⟨a, h⟩
  cases h

/-- What is made of an accepted value is accepted. -/
@[simp] theorem passes_map (f : α → β) (c : Checked α) : (f <$> c).Passes ↔ c.Passes := by
  change (∃ b, c.result.map f = .ok b) ↔ ∃ a, c.result = .ok a
  cases c.result <;> simp [Except.map]

/-- Of two readings both must go through. -/
@[simp] theorem passes_seq (f : Checked (α → β)) (c : Checked α) : (f <*> c).Passes ↔ f.Passes ∧ c.Passes := by
  change (∃ b, combine f.result c.result = .ok b) ↔ (∃ g, f.result = .ok g) ∧ ∃ a, c.result = .ok a
  cases f.result <;> cases c.result <;> simp [combine]

/-- Where a value stands has no part in whether it passes. -/
@[simp] theorem passes_under (step : Step) (c : Checked α) : (c.under step).Passes ↔ c.Passes := by
  unfold Passes under
  cases c.result <;> simp [Except.mapError]

@[simp] theorem passes_withNotices (notices : List Notice) (c : Checked α) :
    (c.withNotices notices).Passes ↔ c.Passes := Iff.rfl

/-- Of the items of a list each must be read. -/
theorem passes_itemsFrom (read : Json → Checked α) (position : Nat) (items : List Json) :
    (itemsFrom read position items).Passes ↔ ∀ v ∈ items, (read v).Passes := by
  induction items generalizing position with
  | nil => simp [itemsFrom]
  | cons v items ih => simp [itemsFrom, ih]

end Checked

/-! ## Kinds of values -/

/-- The value of a text that may be missing. -/
def Json.ofText? (text : Option Text) : Json := text.elim .null .str

/-- A kind of values. -/
abbrev ValueKind := Json → Prop

namespace ValueKind

/-- Texts. -/
def text : ValueKind := fun v => ∃ s, v = .str s

/-- What may be an id: texts and integers. -/
def id : ValueKind := fun v => text v ∨ ∃ n, v = .int n

/-- What counts as a truth value: what is equal to 0 or 1, and the words for true and false. -/
def truth : ValueKind := fun v =>
  v.equals (.int 0) = true ∨ v.equals (.int 1) = true ∨
    ∃ s, v = .str s ∧ s.lowerAscii ∈ Shape.truthWords.map (·.1)

/-- Null besides the values of a kind. -/
def nullOr (kind : ValueKind) : ValueKind := fun v => v = .null ∨ kind v

/-- Objects with such fields. -/
def object (P : Fields → Prop) : ValueKind := fun v => ∃ fields, v = .obj fields ∧ P fields

/-- Lists in which every entry that is kept is of a kind. -/
def list (keeps : Json → Bool) (kind : ValueKind) : ValueKind := fun v =>
  ∃ items, v = .arr items ∧ ∀ item ∈ items, keeps item = true → kind item

end ValueKind

namespace Fields

/-- Is the value that is found under a key, if there is one, of a kind? -/
def Allows (fields : Fields) (key : Key) (kind : ValueKind) : Prop :=
  ∀ entry, key.find? fields = some entry → kind entry.2

/-- Is there a value under a key, and is it of a kind? -/
def Holds (fields : Fields) (key : Key) (kind : ValueKind) : Prop :=
  ∃ entry, key.find? fields = some entry ∧ kind entry.2

/-- The fields that are not null. -/
def given (fields : Fields) : Fields := fields.filter fun (_, v) => !v.isNull

end Fields

/-! ## Forms that load -/

/-- The fields of a choice that can be read. -/
structure Choice.Loadable (fields : Fields) : Prop where
  id : fields.Holds "id" .id
  text : fields.Allows "text" (.nullOr .text)
  icon : fields.Allows "icon" (.nullOr .text)
  description : fields.Allows "description" (.nullOr .text)

/-- The fields of a condition that can be read. Under the key of its values anything may stand. -/
structure Condition.Loadable (fields : Fields) : Prop where
  id : fields.Allows "id" (.nullOr .id)
  source : fields.Holds ⟨"questionId", "question_id"⟩ .id

/-- Lists of conditions that can be read. -/
def ValueKind.conditions : ValueKind := .list EntryKind.condition.keeps (.object Condition.Loadable)

/-- The fields of a question that can be read. The choices count also where the kind has none. -/
structure Question.Loadable (fields : Fields) : Prop where
  id : fields.Holds "id" .id
  text : fields.Allows "text" (.nullOr .text)
  description : fields.Allows "description" (.nullOr .text)
  required : fields.Allows "required" (.nullOr .truth)
  choices : fields.Allows "options" (.nullOr (.list EntryKind.choice.keeps (.object Choice.Loadable)))
  conditions : fields.Allows "conditions" (.nullOr .conditions)
  placeholder : fields.Allows "placeholder" (.nullOr .text)
  postcodeApi : fields.Allows ⟨"postcodeApi", "postcode_api"⟩ (.nullOr .text)

/-- Lists of questions that can be read. Entries that are no questions of a known kind do not count. -/
def ValueKind.questions : ValueKind :=
  .list (fun v => Question.hasKind v && EntryKind.question.keeps v) (.object Question.Loadable)

/-- The fields of a success page that can be read. -/
structure SuccessPage.Loadable (fields : Fields) : Prop where
  id : fields.Holds "id" .id
  name : fields.Allows "name" (.nullOr .text)
  url : fields.Allows "url" (.nullOr .text)
  conditions : fields.Allows "conditions" (.nullOr .conditions)

/-- The keys of the settings that are texts. -/
def FormSettings.textKeys : List Key :=
  [⟨"backgroundColor", "background_color"⟩, ⟨"buttonColor", "button_color"⟩, ⟨"submitUrl", "submit_url"⟩,
    ⟨"zapierWebhookUrl", "zapier_webhook_url"⟩, ⟨"postcodeApiUrl", "postcode_api_url"⟩,
    ⟨"postcodeApiKey", "postcode_api_key"⟩]

/-- The fields of settings that can be read: nulls do not count, under either spelling of a key. -/
structure FormSettings.Loadable (fields : Fields) : Prop where
  texts : ∀ key ∈ textKeys, fields.given.Allows key .text
  successPages : fields.given.Allows ⟨"successPages", "success_pages"⟩
    (.list EntryKind.successPage.keeps (.object SuccessPage.Loadable))

/-- The fields of a stored form that can be read. An empty title or description is filled in. -/
structure Form.Loadable (fields : Fields) : Prop where
  title : (fields.get "title").isEmpty = true ∨ ValueKind.text (fields.get "title")
  description : (fields.get "description").isEmpty = true ∨ ValueKind.text (fields.get "description")
  questions : fields.Allows "questions" (.nullOr .questions)
  settings : fields.Allows "settings" (.nullOr (.object FormSettings.Loadable))

/-! ## Which readings go through -/

namespace Key

variable {α : Type} {kind : ValueKind} {shape : Shape α}

/-- A key that is required has to be there, with a value that passes. -/
theorem passes_required (h : ∀ v, (shape v).Passes ↔ kind v) (key : Key) (fields : Fields) :
    (key.required shape fields).Passes ↔ fields.Holds key kind := by
  unfold required Fields.Holds
  cases key.find? fields with
  | none => simp
  | some entry => simp [h]

/-- A key that has a default may be missing. -/
theorem passes_withDefault (h : ∀ v, (shape v).Passes ↔ kind v) (key : Key) (default : α) (fields : Fields) :
    (key.withDefault shape default fields).Passes ↔ fields.Allows key kind := by
  unfold withDefault Fields.Allows
  cases key.find? fields with
  | none => simp
  | some entry => simp [h]

/-- A field that may be anything. -/
theorem passes_withDefault_any (h : ∀ v, (shape v).Passes) (key : Key) (default : α) (fields : Fields) :
    (key.withDefault shape default fields).Passes :=
  (passes_withDefault (fun v => iff_true_intro (h v)) key default fields).mpr fun _ _ => trivial

end Key

namespace Shape

variable {α : Type} {kind : ValueKind} {shape : Shape α}

/-- Texts pass as texts, and nothing else does. -/
theorem passes_text (v : Json) : (text v).Passes ↔ ValueKind.text v := by
  cases v <;> simp [text, ValueKind.text]

/-- So does a null, where it stands for the empty text. -/
theorem passes_textOrEmpty (v : Json) : (textOrEmpty v).Passes ↔ ValueKind.nullOr .text v := by
  cases v <;> simp [textOrEmpty, after, text, ValueKind.nullOr, ValueKind.text]

/-- An id is a text or an integer. -/
theorem passes_id (v : Json) : (id v).Passes ↔ ValueKind.id v := by
  cases v <;> simp [id, after, text, ValueKind.id, ValueKind.text]

/-- What may be missing may be null. -/
theorem passes_optional (h : ∀ v, (shape v).Passes ↔ kind v) (v : Json) :
    (optional shape v).Passes ↔ ValueKind.nullOr kind v := by
  cases v <;> simp [optional, ValueKind.nullOr, h]

/-- A logic that is not known stands for the standard one. -/
theorem passes_logic (v : Json) : (logic v).Passes := by
  cases v <;> simp [logic]

/-- A record is an object whose fields pass. -/
theorem passes_record {read : Fields → Checked α} {P : Fields → Prop} (h : ∀ fields, (read fields).Passes ↔ P fields)
    (name : Text) (v : Json) : (record name read v).Passes ↔ ValueKind.object P v := by
  cases v <;> simp [record, ValueKind.object, h]

/-- A list passes if the items that are kept pass. -/
theorem passes_list (h : ∀ v, (shape v).Passes ↔ kind v) (items : List Json) (keeps : Json → Bool) :
    (list shape (.arr (items.filter keeps))).Passes ↔ ValueKind.list keeps kind (.arr items) := by
  simp [list, Checked.passes_itemsFrom, ValueKind.list, h]

/-- Entries pass if they are a list of this kind. -/
theorem passes_entries (entry : EntryKind) (h : ∀ v, (shape v).Passes ↔ kind v) (v : Json) :
    (entries entry shape v).Passes ↔ ValueKind.list entry.keeps kind v := by
  cases v with
  | arr items => exact passes_list h items entry.keeps
  | _ => simp [entries, list, ValueKind.list]

end Shape

/-! ## Words -/

/-- A key is not found exactly if it is not there. -/
theorem lookup_eq_none_iff_notMem {β : Type} {entries : List (Text × β)} {key : Text} :
    entries.lookup key = none ↔ key ∉ entries.map (·.1) := by
  rw [List.lookup_eq_none_iff, List.mem_map]
  constructor
  · rintro h ⟨entry, hentry, rfl⟩
    simpa using h entry hentry
  · intro h entry hentry
    exact bne_iff_ne.mpr fun heq => h ⟨entry, hentry, heq.symm⟩

/-- A key that is found is there. -/
theorem mem_of_lookup_eq_some {β : Type} {entries : List (Text × β)} {key : Text} {b : β}
    (h : entries.lookup key = some b) : key ∈ entries.map (·.1) := by
  by_contra hnotMem
  rw [lookup_eq_none_iff_notMem.mpr hnotMem] at h
  cases h

/-- A text can be written as UTF-8 unless it holds half of a pair. -/
theorem Text.utf8Fault?_eq_none_iff {t : Text} : utf8Fault? t = none ↔ ∀ p ∈ t, p.isHalf = false := by
  have hnone : utf8Fault? t = none ↔ t.dropWhile (!CodePoint.isHalf ·) = [] := by
    unfold utf8Fault? fault?
    cases t.dropWhile (!CodePoint.isHalf ·) <;> simp
  simp [hnone, List.dropWhile_eq_nil_iff]

/-- Halves have no lower case. -/
theorem CodePoint.isHalf_lowerAscii (p : CodePoint) : p.lowerAscii.isHalf = p.isHalf := by
  cases p <;> rfl

namespace Shape

/-- The words for truth values are made of characters. -/
theorem utf8Fault?_of_truthWord {s : Text} (h : s.lowerAscii ∈ truthWords.map (·.1)) :
    Text.utf8Fault? s = none := by
  have hwords : ∀ w ∈ truthWords.map (·.1), ∀ p ∈ w, p.isHalf = false := by decide
  rw [Text.utf8Fault?_eq_none_iff]
  intro p hp
  rw [← CodePoint.isHalf_lowerAscii]
  exact hwords _ h _ (List.mem_map_of_mem hp)

/-- Some words stand for a truth value, in any case of their letters. -/
theorem passes_truthOfWord (s : Text) : (truthOfWord s).Passes ↔ s.lowerAscii ∈ truthWords.map (·.1) := by
  unfold truthOfWord
  cases hword : truthWords.lookup s.lowerAscii with
  | none =>
    have hnotMem := lookup_eq_none_iff_notMem.mp hword
    split <;> simp [hnotMem]
  | some b =>
    have hmem := mem_of_lookup_eq_some hword
    simp [utf8Fault?_of_truthWord hmem, hmem]

/-- Among numbers, zero and one do. -/
theorem passes_truthOfNumber (number : Option Int) (v : Json) :
    (truthOfNumber number v).Passes ↔ number = some 0 ∨ number = some 1 := by
  cases number with
  | none => simp [truthOfNumber]
  | some n =>
    unfold truthOfNumber
    by_cases h0 : n = 0
    · simp [h0]
    · by_cases h1 : n = 1 <;> simp [h0, h1]

/-- A double is read as the integer that it equals, if that is well within 64 bits. -/
theorem whole64?_eq_some_iff {x : Binary64} {n : Int} (hlow : -2 ^ 63 < n) (hhigh : n < 2 ^ 63) :
    whole64? x = some n ↔ x.equalsInt n = true := by
  have hunits : (Binary64.unitsPerOne : Int) ≠ 0 := by
    rw [Binary64.unitsPerOne, Int.natCast_ne_zero, Nat.ne_zero_iff_zero_lt]
    apply Nat.pow_pos Nat.two_pos
  -- an integer is read where the units are a multiple of those in one
  have hint : x.toInt? = some n ↔ x.scaled = some (n * Binary64.unitsPerOne) := by
    unfold Binary64.toInt?
    generalize (Binary64.unitsPerOne : Int) = units at hunits ⊢
    cases x.scaled with
    | none => simp
    | some scaled =>
      constructor
      · intro h
        by_cases hrest : scaled % units = 0
        · simp only [if_pos hrest, Option.some.injEq] at h
          rw [← h, Int.ediv_mul_cancel_of_emod_eq_zero hrest]
        · simp [hrest] at h
      · intro h
        obtain rfl := Option.some.inj h
        simp [hunits]
  have hwhole : whole64? x = some n ↔ x.toInt? = some n := by
    unfold whole64?
    cases x.toInt? with
    | none => simp
    | some m =>
      by_cases hm : -2 ^ 63 < m ∧ m < 2 ^ 63
      · simp only [if_pos hm]
      · have hne : m ≠ n := by
          rintro rfl
          exact hm ⟨hlow, hhigh⟩
        simp only [if_neg hm, Option.some.injEq, hne, reduceCtorEq]
  rw [hwhole, hint, Binary64.equalsInt, beq_iff_eq]

/-- A truth value may be told by itself, by a number or by a word. -/
theorem passes_truth (v : Json) : (truth v).Passes ↔ ValueKind.truth v := by
  cases v with
  | bool b => cases b <;> simp [truth, ValueKind.truth, Json.equals, Json.ofTruth]
  | int n =>
    -- an integer beyond 64 bits is neither zero nor one
    have hnumber : ∀ m : Int, fits64 m = true →
        ((if fits64 n then some n else none) = some m ↔ n = m) := by
      intro m hm
      by_cases hn : fits64 n = true
      · simp [hn]
      · have hne : n ≠ m := by
          rintro rfl
          exact hn hm
        simp [hn, hne]
    simp [truth, passes_truthOfNumber, hnumber 0 (by decide), hnumber 1 (by decide), ValueKind.truth, Json.equals]
  | float x =>
    have h0 := whole64?_eq_some_iff (x := x) (n := 0) (by decide) (by decide)
    have h1 := whole64?_eq_some_iff (x := x) (n := 1) (by decide) (by decide)
    simp [truth, passes_truthOfNumber, ValueKind.truth, Json.equals, h0, h1]
  | str s => simp [truth, ValueKind.truth, Json.equals, passes_truthOfWord]
  | _ => simp [truth, ValueKind.truth, Json.equals]

/-- So it may, or by a null for false. -/
theorem passes_truthOrFalse (v : Json) : (truthOrFalse v).Passes ↔ ValueKind.nullOr .truth v := by
  cases v with
  | null => simp [truthOrFalse, after, truth, ValueKind.nullOr]
  | _ => simp [truthOrFalse, after, passes_truth, ValueKind.nullOr]

end Shape

/-! ## The parts of a form -/

/-- A choice can be loaded exactly if its fields can. -/
theorem Choice.passes_shape (v : Json) : (shape v).Passes ↔ ValueKind.object Loadable v := by
  refine Shape.passes_record (fun fields => ?_) _ v
  simp only [Checked.passes_seq, Checked.passes_map, Key.passes_required Shape.passes_id,
    Key.passes_withDefault Shape.passes_textOrEmpty, Key.passes_withDefault (Shape.passes_optional Shape.passes_text)]
  constructor
  · rintro ⟨⟨⟨hid, htext⟩, hicon⟩, hdescription⟩
    exact ⟨hid, htext, hicon, hdescription⟩
  · rintro ⟨hid, htext, hicon, hdescription⟩
    exact ⟨⟨⟨hid, htext⟩, hicon⟩, hdescription⟩

namespace Condition

/-- Taking a single value for the list of values touches no other key. -/
theorem find?_liftValue {key : Key} (hname : key.name ≠ "values" ∧ key.name ≠ "value")
    (hplain : key.plain ≠ "values" ∧ key.plain ≠ "value") (fields : Fields) :
    key.find? (liftValue fields) = key.find? fields := by
  have hget : ∀ k : Text, k ≠ "values" ∧ k ≠ "value" → (liftValue fields).get? k = fields.get? k := by
    intro k hk
    unfold liftValue
    split
    · split <;> simp [Fields.get?_set, Fields.get?_erase, hk.1, hk.2]
    · rfl
  unfold Key.find?
  rw [hget _ hname, hget _ hplain]

/-- A condition can be loaded exactly if its fields can. -/
theorem passes_shape (v : Json) : (shape v).Passes ↔ ValueKind.object Loadable v := by
  refine Shape.passes_record (fun fields => ?_) _ v
  have hvalues := Key.passes_withDefault_any (fun v => Checked.passes_accept (storedValues v)) "values" []
    (liftValue fields)
  simp only [Checked.passes_seq, Checked.passes_map, Key.passes_required Shape.passes_id,
    Key.passes_withDefault (Shape.passes_optional Shape.passes_id), hvalues, and_true]
  unfold Fields.Allows Fields.Holds
  rw [find?_liftValue (by decide) (by decide), find?_liftValue (by decide) (by decide)]
  constructor
  · rintro ⟨hid, hsource⟩
    exact ⟨hid, hsource⟩
  · rintro ⟨hid, hsource⟩
    exact ⟨hid, hsource⟩

/-- Which lists of conditions are read. -/
theorem passes_entries (v : Json) :
    (Shape.entries .condition shape v).Passes ↔ ValueKind.conditions v :=
  Shape.passes_entries .condition passes_shape v

end Condition

namespace Question

/-- The words for kinds are made of characters. -/
theorem utf8Fault?_of_kindWord {s : Text} (h : s ∈ QuestionKind.words.map (·.1)) : Text.utf8Fault? s = none := by
  have hwords : ∀ w ∈ QuestionKind.words.map (·.1), Text.utf8Fault? w = none := by decide
  exact hwords s h

/-- The kind of an entry that names one is read. -/
theorem passes_type {fields : Fields} (h : hasKind (.obj fields) = true) :
    (Key.required "type" (.word QuestionKind.words) fields).Passes := by
  rw [Key.passes_required fun _ => Iff.rfl]
  unfold hasKind Json.field Fields.get at h
  cases hget : fields.get? "type" with
  | none => simp [hget] at h
  | some v =>
    cases v with
    | str s =>
      simp only [hget, Option.getD_some, Option.isSome_iff_exists] at h
      obtain ⟨kind, hkind⟩ := h
      have hfind : Key.find? "type" fields = some (("type" : Text), Json.str s) := by simp [Key.find?, hget]
      refine ⟨_, hfind, ?_⟩
      simp [Shape.word, Shape.thingOfWord, utf8Fault?_of_kindWord (mem_of_lookup_eq_some hkind), hkind]
    | _ => simp [hget] at h

/-- A question of a known kind can be loaded exactly if its fields can. -/
theorem passes_shape {fields : Fields} (h : hasKind (.obj fields) = true) :
    (shape (.obj fields)).Passes ↔ Loadable fields := by
  have htype := passes_type h
  -- the kind is known, and any logic passes, so the other fields decide
  have hlogic := Key.passes_withDefault_any Shape.passes_logic logicKey .all fields
  simp only [shape, Shape.record, Checked.passes_seq, Checked.passes_map, Key.passes_required Shape.passes_id,
    htype, hlogic, and_true,
    Key.passes_withDefault Shape.passes_textOrEmpty, Key.passes_withDefault Shape.passes_truthOrFalse,
    Key.passes_withDefault (Shape.passes_optional Shape.passes_text),
    Key.passes_withDefault (Shape.passes_optional (Shape.passes_entries .choice Choice.passes_shape)),
    Key.passes_withDefault (Shape.passes_optional Condition.passes_entries)]
  constructor
  · rintro ⟨⟨⟨⟨⟨⟨⟨hid, htext⟩, hdescription⟩, hrequired⟩, hchoices⟩, hconditions⟩, hplaceholder⟩, hpostcode⟩
    exact ⟨hid, htext, hdescription, hrequired, hchoices, hconditions, hplaceholder, hpostcode⟩
  · rintro ⟨hid, htext, hdescription, hrequired, hchoices, hconditions, hplaceholder, hpostcode⟩
    exact ⟨⟨⟨⟨⟨⟨⟨hid, htext⟩, hdescription⟩, hrequired⟩, hchoices⟩, hconditions⟩, hplaceholder⟩, hpostcode⟩

/-- Lists of questions that can be read. -/
theorem passes_listShape (v : Json) : (listShape v).Passes ↔ ValueKind.nullOr .questions v := by
  cases v with
  | null => simp [listShape, ValueKind.nullOr]
  | arr items =>
    have hentry : ∀ v, (hasKind v && EntryKind.question.keeps v) = true →
        ((shape v).Passes ↔ ValueKind.object Loadable v) := by
      intro v hv
      obtain ⟨hkind, hkeeps⟩ := Bool.and_eq_true_iff.mp hv
      cases v with
      | obj fields => simp [passes_shape hkind, ValueKind.object]
      | _ => simp [EntryKind.keeps] at hkeeps
    simp only [listShape, keepEntries, Checked.passes_withNotices, List.filter_filter, Shape.list,
      Checked.passes_itemsFrom, List.mem_filter, and_imp, ValueKind.nullOr, reduceCtorEq, false_or,
      ValueKind.questions, ValueKind.list, Json.arr.injEq, exists_eq_left']
    exact forall₃_congr fun v _ hv => hentry v hv
  | _ => simp [listShape, Shape.list, ValueKind.nullOr, ValueKind.questions, ValueKind.list]

end Question

namespace SuccessPage

/-- The conditions of a page may be null. -/
theorem passes_conditionsShape (v : Json) :
    (shape.conditionsShape v).Passes ↔ ValueKind.nullOr .conditions v := by
  cases v with
  | null => simp [shape.conditionsShape, ValueKind.nullOr]
  | _ => simp [shape.conditionsShape, Condition.passes_entries, ValueKind.nullOr]

/-- A page can be loaded exactly if its fields can. -/
theorem passes_shape (v : Json) : (shape v).Passes ↔ ValueKind.object Loadable v := by
  refine Shape.passes_record (fun fields => ?_) _ v
  have hlogic := Key.passes_withDefault_any Shape.passes_logic logicKey .all fields
  simp only [Checked.passes_seq, Checked.passes_map, Key.passes_required Shape.passes_id, hlogic, and_true,
    Key.passes_withDefault Shape.passes_textOrEmpty, Key.passes_withDefault passes_conditionsShape]
  constructor
  · rintro ⟨⟨⟨hid, hname⟩, hurl⟩, hconditions⟩
    exact ⟨hid, hname, hurl, hconditions⟩
  · rintro ⟨hid, hname, hurl, hconditions⟩
    exact ⟨⟨⟨hid, hname⟩, hurl⟩, hconditions⟩

end SuccessPage

namespace FormSettings

/-- Settings can be loaded exactly if their fields can. -/
theorem passes_shape (v : Json) : (shape v).Passes ↔ ValueKind.object Loadable v := by
  refine Shape.passes_record (fun fields => ?_) _ v
  simp only [Checked.passes_seq, Checked.passes_map, Key.passes_withDefault Shape.passes_text,
    Key.passes_withDefault (Shape.passes_entries .successPage SuccessPage.passes_shape)]
  constructor
  · rintro ⟨⟨⟨⟨⟨⟨hbackground, hbutton⟩, hsubmit⟩, hwebhook⟩, hurl⟩, hkey⟩, hpages⟩
    refine ⟨?_, hpages⟩
    simp only [textKeys, List.forall_mem_cons]
    exact ⟨hbackground, hbutton, hsubmit, hwebhook, hurl, hkey, List.forall_mem_nil _⟩
  · rintro ⟨htexts, hpages⟩
    simp only [textKeys, List.forall_mem_cons] at htexts
    obtain ⟨hbackground, hbutton, hsubmit, hwebhook, hurl, hkey, -⟩ := htexts
    exact ⟨⟨⟨⟨⟨⟨hbackground, hbutton⟩, hsubmit⟩, hwebhook⟩, hurl⟩, hkey⟩, hpages⟩

/-- Settings that are null are the standard ones. -/
theorem passes_shapeOrStandard (v : Json) :
    (shapeOrStandard v).Passes ↔ ValueKind.nullOr (.object Loadable) v := by
  cases v with
  | null =>
    have hstandard : (shape (.obj [])).Passes := ⟨standard, rfl⟩
    simp [shapeOrStandard, ValueKind.nullOr, hstandard]
  | _ => simp [shapeOrStandard, passes_shape, ValueKind.nullOr]

end FormSettings

/-! ## Which stored data become a form -/

namespace Form

/-- A form can be loaded exactly if each of its four parts can. -/
theorem passes_readFields (fields : Fields) :
    (readFields fields).Passes ↔
      ((fields.Allows "title" (.nullOr .text) ∧ fields.Allows "description" (.nullOr .text)) ∧
        fields.Allows "questions" (.nullOr .questions)) ∧
      fields.Allows "settings" (.nullOr (.object FormSettings.Loadable)) := by
  simp only [readFields, Checked.passes_seq, Checked.passes_map, Key.passes_withDefault Shape.passes_textOrEmpty,
    Key.passes_withDefault Question.passes_listShape, Key.passes_withDefault FormSettings.passes_shapeOrStandard]

/-- What is filled in is a text, and so what is there must be one unless it is empty. -/
theorem nullOr_text_orElse_iff (v : Json) (fallback : Option Text) (default : Text) :
    ValueKind.nullOr .text ((v.orElse (.ofText? fallback)).orElse (.str default)) ↔
      v.isEmpty = true ∨ ValueKind.text v := by
  by_cases hv : v.isEmpty = true
  · have htext : ValueKind.text ((v.orElse (.ofText? fallback)).orElse (.str default)) := by
      have hempty : v.orElse (.ofText? fallback) = .ofText? fallback := if_pos hv
      rw [hempty]
      cases fallback with
      | none => exact ⟨default, rfl⟩
      | some s => exact ⟨_, Json.orElse_str s default⟩
    simp [ValueKind.nullOr, htext, hv]
  · have hnotNull : v ≠ .null := by
      rintro rfl
      exact hv rfl
    simp [Json.orElse, hv, ValueKind.nullOr, hnotNull]

/-- A field that is there under its only key. -/
theorem allows_of_get? {fields : Fields} {name : Text} {v : Json} {kind : ValueKind}
    (h : fields.get? name = some v) : fields.Allows name kind ↔ kind v := by
  simp [Fields.Allows, Key.find?, h]

/-- Which fields are read after the title and the description were filled in. -/
theorem passes_readFields_fillIn (fields : Fields) (title description : Option Text) :
    (readFields (fillIn fields (.ofText? title) (.ofText? description))).Passes ↔ Loadable fields := by
  -- filling in touches no other key
  have hother : ∀ (name : Text) (kind : ValueKind), name ≠ "title" → name ≠ "description" →
      ((fillIn fields (.ofText? title) (.ofText? description)).Allows name kind ↔ fields.Allows name kind) := by
    intro name kind htitle hdescription
    simp [Fields.Allows, Key.find?, fillIn, Fields.get?_set, htitle, hdescription]
  have htitle : (fillIn fields (.ofText? title) (.ofText? description)).get? "title" =
      some (((fields.get "title").orElse (.ofText? title)).orElse (.str defaultTitle)) := by
    simp [fillIn, Fields.get?_set]
  have hdescription : (fillIn fields (.ofText? title) (.ofText? description)).get? "description" =
      some (((fields.get "description").orElse (.ofText? description)).orElse (.str "")) := by
    simp [fillIn, Fields.get?_set, Fields.get]
  rw [passes_readFields, allows_of_get? htitle, allows_of_get? hdescription,
    hother "questions" _ (by decide) (by decide), hother "settings" _ (by decide) (by decide),
    nullOr_text_orElse_iff, nullOr_text_orElse_iff]
  constructor
  · rintro ⟨⟨⟨htitle, hdescription⟩, hquestions⟩, hsettings⟩
    exact ⟨htitle, hdescription, hquestions, hsettings⟩
  · rintro ⟨htitle, hdescription, hquestions, hsettings⟩
    exact ⟨⟨⟨htitle, hdescription⟩, hquestions⟩, hsettings⟩

/-- Fields become a form, or there are issues that stand in the way. -/
theorem load_cases (title description : Option Text) (fields : Fields) :
    ((∃ form, (ofStored.load (.ofText? title) (.ofText? description) fields).result = .ok form) ∧ Loadable fields) ∨
    ((∃ issues, (ofStored.load (.ofText? title) (.ofText? description) fields).result = .error (.invalid issues)) ∧
      ¬ Loadable fields) := by
  rw [← passes_readFields_fillIn fields title description]
  simp only [ofStored.load, Checked.Passes]
  cases (readFields (fillIn fields (.ofText? title) (.ofText? description))).result with
  | error issues => exact .inr ⟨⟨issues, rfl⟩, by simp⟩
  | ok form => exact .inl ⟨⟨form, rfl⟩, form, rfl⟩

/-- Without any field there is still a form. -/
theorem loadable_nil : Loadable [] where
  title := .inl rfl
  description := .inl rfl
  questions := by simp [Fields.Allows, Key.find?]
  settings := by simp [Fields.Allows, Key.find?]

end Form

/-- **Which stored data become a form.** Stored data are told to be no object exactly if they are neither null
nor an object. They become a form exactly if they are null, or an object whose values are of the kinds that
reading knows: so an object with a value of another kind in a place that is not left out is refused as well. -/
theorem stored_data_load_iff_loadable (data : Json) (title description : Option Text) :
    ((Form.ofStored data (.ofText? title) (.ofText? description)).result = .error .notAnObject ↔
      data ≠ .null ∧ ¬ ValueKind.object (fun _ => True) data) ∧
    ((∃ form, (Form.ofStored data (.ofText? title) (.ofText? description)).result = .ok form) ↔
      data = .null ∨ ValueKind.object Form.Loadable data) := by
  cases data with
  | null =>
    rcases Form.load_cases title description [] with ⟨⟨form, hform⟩, -⟩ | ⟨-, hnot⟩
    · simp [Form.ofStored, hform]
    · exact absurd Form.loadable_nil hnot
  | obj fields =>
    rcases Form.load_cases title description fields with ⟨⟨form, hform⟩, h⟩ | ⟨⟨issues, hissues⟩, h⟩
    · simp [Form.ofStored, hform, ValueKind.object, h]
    · simp [Form.ofStored, hissues, ValueKind.object, h]
  | _ => simp [Form.ofStored, ValueKind.object]

/-- Data with a list of questions that is no list, with a question whose text is a number, with a condition whose
source is null under its key and a text under the plain one, or with a number for a title are objects, and none
of them becomes a form. -/
theorem stored_objects_refused :
    let blobs : List Fields := [
      [("questions", .int 5)],
      [("questions", .arr [.obj [("id", .str "a"), ("type", .str "text_input"), ("text", .int 7)]])],
      [("questions", .arr [.obj [("id", .str "a"), ("type", .str "text_input"),
        ("conditions", .arr [.obj [("questionId", .null), ("question_id", .str "b")]])]])],
      [("title", .int 7)]]
    ∀ fields ∈ blobs, ∃ issues, (Form.ofStored (.obj fields) .null .null).result = .error (.invalid issues) := by
  intro blobs fields hmem
  simp only [blobs, List.mem_cons, List.not_mem_nil, or_false] at hmem
  rcases hmem with rfl | rfl | rfl | rfl <;> exact ⟨_, rfl⟩

end Questionnaire
