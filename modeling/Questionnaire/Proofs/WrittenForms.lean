import Questionnaire.Form.Stored
import Questionnaire.Proofs.Answers
import Questionnaire.Proofs.Names

/-!
# Reading what was written

Reading is lenient towards what older editors stored, and exact about what is written now: a form that was
written is read as it was, nothing is left out and nothing is refused. From a stored form without a title or
a description, the row of the form fills them in.

* `Key.required_of_get?`, `Key.withDefault_of_get?`, `Key.withDefault_optional`: reading one field.
* `Shape.entries_map`: reading a list whose entries are all kept.
* `Choice.shape_toJson`, `Condition.shape_toJson`, `Question.shape_toJson`, `SuccessPage.shape_toJson`,
  `FormSettings.shape_toJson`, `Form.shape_toJson`: each part is read as it was written.
* `Form.rewritten`, `written_forms_are_read_back`: writing what was read settles a document at once.
* `Form.ofStored_toJson`: a stored form, and what fills it in.
-/

namespace Questionnaire

/-! ## Fields -/

namespace Fields

/-- A key is looked for in the first fields, and only then in those behind them. -/
theorem get?_append (a b : Fields) (key : Text) : get? (a ++ b) key = (get? a key).or (get? b key) :=
  List.lookup_append

/-- A field that may be left out is found if it was written. -/
@[simp] theorem get?_optional (k key : Text) (v? : Option Json) :
    get? (optional k v?) key = if key = k then v? else none := by
  cases v? with
  | none => simp [optional]
  | some v => simp [optional, get?_cons]

/-- The same for a text. -/
@[simp] theorem get?_optionalText (k key : Text) (text : Option Text) :
    get? (optionalText k text) key = if key = k then text.map .str else none :=
  get?_optional k key (text.map .str)

end Fields

/-! ## Readings that go through -/

namespace Checked

variable {α β : Type}

@[simp] theorem map_accept (f : α → β) (a : α) : f <$> accept a = accept (f a) := rfl

@[simp] theorem accept_seq_accept (f : α → β) (a : α) : accept f <*> accept a = accept (f a) := rfl

@[simp] theorem under_accept (step : Step) (a : α) : (accept a).under step = accept a := rfl

@[simp] theorem withNotices_nil (c : Checked α) : c.withNotices [] = c := rfl

/-- A list of written values is read back item by item. -/
theorem itemsFrom_map {read : Json → Checked α} {write : α → Json} (h : ∀ a, read (write a) = accept a)
    (position : Nat) (items : List α) : itemsFrom read position (items.map write) = accept items := by
  induction items generalizing position with
  | nil => rfl
  | cons a items ih => simp [itemsFrom, h, ih]

end Checked

namespace Key

variable {α : Type} {key : Key} {shape : Shape α} {fields : Fields}

/-- A key that is there is read by its shape. -/
theorem required_of_get? {v : Json} {a : α} (hget : fields.get? key.name = some v)
    (hread : shape v = .accept a) : key.required shape fields = .accept a := by
  simp [required, find?, hget, hread]

/-- So is one that has a default. -/
theorem withDefault_of_get? {default : α} {v : Json} {a : α} (hget : fields.get? key.name = some v)
    (hread : shape v = .accept a) : key.withDefault shape default fields = .accept a := by
  simp [withDefault, find?, hget, hread]

/-- A field that is left out when it has no value. -/
theorem withDefault_optional (write : α → Json) {a? : Option α} (hget : fields.get? key.name = a?.map write)
    (hplain : fields.get? key.plain = none ∨ key.plain = key.name)
    (hread : ∀ a, shape (write a) = .accept a) (hnull : ∀ a, write a ≠ .null) :
    key.withDefault (.optional shape) none fields = .accept a? := by
  cases a? with
  | none =>
    -- left out, the field must not be found under its other spelling either
    have hplain : fields.get? key.plain = none := by
      rcases hplain with hplain | hplain
      · exact hplain
      · rw [hplain, hget]
        rfl
    have hname : fields.get? key.name = none := hget
    simp [withDefault, find?, hname, hplain]
  | some a =>
    apply withDefault_of_get? hget
    have hoptional : Shape.optional shape (write a) = some <$> shape (write a) := by
      cases hv : write a with
      | null => exact absurd hv (hnull a)
      | _ => rfl
    rw [hoptional, hread, Checked.map_accept]

/-- A text that may be missing is read back as it was, or as missing. -/
theorem withDefault_optionalText {text? : Option Text} (hget : fields.get? key.name = text?.map .str)
    (hplain : fields.get? key.plain = none ∨ key.plain = key.name) :
    key.withDefault (.optional .text) none fields = .accept text? :=
  withDefault_optional .str hget hplain (fun _ => rfl) (fun _ => Json.noConfusion)

end Key

/-- Nothing is left out of a list whose entries are all kept. -/
theorem keepEntries_of_keeps {kind : EntryKind} {items : List Json} (h : ∀ v ∈ items, kind.keeps v = true) :
    keepEntries kind items = ([], items) := by
  have hdropped : items.zipIdx.filter (fun entry => !kind.keeps entry.1) = [] := by
    rw [List.filter_eq_nil_iff]
    intro entry hmem
    simp [h entry.1 (List.fst_mem_of_mem_zipIdx hmem)]
  have hkept : items.filter kind.keeps = items := List.filter_eq_self.mpr h
  calc keepEntries kind items
      = ((items.zipIdx.filter fun entry => !kind.keeps entry.1).map fun entry => kind.skipped entry.2,
          items.filter kind.keeps) := rfl
    _ = ([], items) := by rw [hdropped, hkept, List.map_nil]

/-- A list of entries that were written is read back with none left out. -/
theorem Shape.entries_map {α : Type} {kind : EntryKind} {shape : Shape α} {write : α → Json}
    (hkeeps : ∀ a, kind.keeps (write a) = true) (hread : ∀ a, shape (write a) = .accept a) (items : List α) :
    Shape.entries kind shape (.arr (items.map write)) = .accept items := by
  have hall : ∀ v ∈ items.map write, kind.keeps v = true := by
    intro v hv
    obtain ⟨a, -, rfl⟩ := List.mem_map.mp hv
    exact hkeeps a
  simp only [entries, keepEntries_of_keeps hall, list, Checked.itemsFrom_map hread, Checked.withNotices_nil]

/-! ## The parts of a form -/

/-- A choice is read back from what is written of it. -/
theorem Choice.shape_toJson (c : Choice) : Choice.shape c.toJson = .accept c := by
  -- each key is read by itself, the texts that may be missing too
  have hid : Key.required "id" .id c.fields = .accept c.id :=
    Key.required_of_get? (v := .str c.id) (by simp [fields, Fields.get?_cons]) rfl
  have htext : Key.withDefault "text" .textOrEmpty "" c.fields = .accept c.text :=
    Key.withDefault_of_get? (v := .str c.text) (by simp [fields, Fields.get?_cons]) rfl
  have hicon : Key.withDefault "icon" (.optional .text) none c.fields = .accept c.icon :=
    Key.withDefault_optionalText (by simp [fields, Fields.get?_append, Fields.get?_cons]) (.inr rfl)
  have hdescription : Key.withDefault "description" (.optional .text) none c.fields = .accept c.description :=
    Key.withDefault_optionalText (by simp [fields, Fields.get?_append, Fields.get?_cons]) (.inr rfl)
  simp only [shape, toJson, Shape.record, hid, htext, hicon, hdescription, Checked.map_accept,
    Checked.accept_seq_accept]

namespace Condition

/-- The values of a condition are stored as texts. -/
theorem storedValues_map_str (values : List Text) : storedValues (.arr (values.map .str)) = values := by
  unfold storedValues
  induction values with
  | nil => rfl
  | cons value values ih => simpa [valueText?] using ih

/-- A condition that was written has its list of values. -/
theorem liftValue_fields (c : Condition) : liftValue c.fields = c.fields := by
  simp [liftValue, fields, Fields.get, Fields.get?_append, Fields.get?_cons, Json.isNull]

/-- A condition is read back from what is written of it. -/
theorem shape_toJson (c : Condition) : Condition.shape c.toJson = .accept c := by
  have hid : Key.withDefault "id" (.optional .id) none c.fields = .accept c.id :=
    Key.withDefault_optional .str
      (by simp [fields, Fields.get?_append, Fields.get?_cons]) (.inr rfl) (fun _ => rfl)
      (fun _ => Json.noConfusion)
  have hsource : Key.required ⟨"questionId", "question_id"⟩ .id c.fields = .accept c.source :=
    Key.required_of_get? (v := .str c.source) (by simp [fields, Fields.get?_append, Fields.get?_cons]) rfl
  have hvalues : Key.withDefault "values" (fun v => .accept (storedValues v)) [] c.fields = .accept c.values :=
    Key.withDefault_of_get? (v := .arr (c.values.map .str))
      (by simp [fields, Fields.get?_append, Fields.get?_cons]) (by rw [storedValues_map_str])
  simp only [shape, toJson, Shape.record, liftValue_fields, hid, hsource, hvalues, Checked.map_accept,
    Checked.accept_seq_accept]

end Condition

/-- A written choice has its id, so it is not left out. -/
theorem EntryKind.keeps_choice (c : Choice) : EntryKind.choice.keeps c.toJson = true := by
  simp [keeps, key, Choice.toJson, Choice.fields, Fields.get, Fields.get?_cons, Json.isNull]

/-- Nor is a written condition, for it names its source. -/
theorem EntryKind.keeps_condition (c : Condition) : EntryKind.condition.keeps c.toJson = true := by
  simp [keeps, key, Condition.toJson, Condition.fields, Fields.get, Fields.get?_append, Fields.get?_cons,
    Json.isNull]

/-- Nor is a written question. -/
theorem EntryKind.keeps_question (q : Question) : EntryKind.question.keeps q.toJson = true := by
  simp [keeps, key, Question.toJson, Question.fields, Fields.get, Fields.get?_cons, Json.isNull]

/-- Nor is a written page. -/
theorem EntryKind.keeps_successPage (p : SuccessPage) : EntryKind.successPage.keeps p.toJson = true := by
  simp [keeps, key, SuccessPage.toJson, SuccessPage.fields, Fields.get, Fields.get?_cons, Json.isNull]

/-- Lists of conditions are read as they were written. -/
theorem Condition.entries_map (cs : List Condition) :
    Shape.entries .condition Condition.shape (.arr (cs.map Condition.toJson)) = .accept cs :=
  Shape.entries_map EntryKind.keeps_condition shape_toJson cs

/-- The word of a logic stands for it. -/
theorem Shape.logic_word (logic : Logic) : Shape.logic (.str logic.word) = .accept logic := by
  cases logic <;> rfl

/-- The word of a kind stands for it. -/
theorem Shape.word_kind (kind : QuestionKind) : Shape.word QuestionKind.words (.str kind.word) = .accept kind := by
  cases kind <;> rfl

/-- The choices of an input are those of a choice question of its kind. -/
theorem Input.ofKind_kind (input : Input) : Input.ofKind input.kind (input.choices?.getD []) = input := by
  cases input <;> rfl

namespace Question

/-- A question that was written names its kind. -/
theorem hasKind_toJson (q : Question) : hasKind q.toJson = true := by
  have htype : q.toJson.field "type" = .str q.kind.word := by
    simp [toJson, fields, Json.field, Fields.get, Fields.get?_append, Fields.get?_cons]
  unfold hasKind
  rw [htype]
  cases q.kind <;> rfl

/-- A question is what its fields make up. -/
theorem ofFields_self (q : Question) :
    ofFields q.id q.text q.description q.kind q.required q.input.choices? q.conditions? q.logic q.placeholder
      q.postcodeApi = q := by
  simp [ofFields, kind, Input.ofKind_kind]

/-- Choices are written for a choice question, and for no other. -/
theorem isSome_get?_options (q : Question) : (Fields.get? q.fields "options").isSome = q.isChoice := by
  have hget : Fields.get? q.fields "options" = q.input.choices?.map fun cs => .arr (cs.map Choice.toJson) := by
    simp [fields, Fields.get?_append, Fields.get?_cons]
  rw [hget, Option.isSome_map, Input.choices?_isSome]
  rfl

/-- A question is read back from what is written of it. -/
theorem shape_toJson (q : Question) : Question.shape q.toJson = .accept q := by
  -- each key is read by itself, and one that was not written gets the default that it stands for
  have hid : Key.required "id" .id q.fields = .accept q.id :=
    Key.required_of_get? (v := .str q.id) (by simp [fields, Fields.get?_cons]) rfl
  have htext : Key.withDefault "text" .textOrEmpty "" q.fields = .accept q.text :=
    Key.withDefault_of_get? (v := .str q.text) (by simp [fields, Fields.get?_cons]) rfl
  have hdescription : Key.withDefault "description" (.optional .text) none q.fields = .accept q.description :=
    Key.withDefault_optionalText (by simp [fields, Fields.get?_append, Fields.get?_cons]) (.inr rfl)
  have htype : Key.required "type" (.word QuestionKind.words) q.fields = .accept q.kind :=
    Key.required_of_get? (by simp [fields, Fields.get?_append, Fields.get?_cons]) (Shape.word_kind q.kind)
  have hrequired : Key.withDefault "required" .truthOrFalse false q.fields = .accept q.required :=
    Key.withDefault_of_get? (v := .bool q.required)
      (by simp [fields, Fields.get?_append, Fields.get?_cons]) rfl
  have hoptions : Key.withDefault "options" (.optional (.entries .choice Choice.shape)) none q.fields =
      .accept q.input.choices? :=
    Key.withDefault_optional (fun cs => .arr (cs.map Choice.toJson))
      (by simp [fields, Fields.get?_append, Fields.get?_cons]) (.inr rfl)
      (Shape.entries_map EntryKind.keeps_choice Choice.shape_toJson) (fun _ => Json.noConfusion)
  have hconditions : Key.withDefault "conditions" (.optional (.entries .condition Condition.shape)) none
      q.fields = .accept q.conditions? :=
    Key.withDefault_optional (fun cs => .arr (cs.map Condition.toJson))
      (by simp [fields, Fields.get?_append, Fields.get?_cons]) (.inr rfl) Condition.entries_map
      (fun _ => Json.noConfusion)
  have hlogic : Key.withDefault logicKey .logic .all q.fields = .accept q.logic :=
    Key.withDefault_of_get? (by simp [fields, logicKey, Fields.get?_append, Fields.get?_cons])
      (Shape.logic_word q.logic)
  have hplaceholder : Key.withDefault "placeholder" (.optional .text) none q.fields = .accept q.placeholder :=
    Key.withDefault_optionalText (by simp [fields, Fields.get?_append, Fields.get?_cons]) (.inr rfl)
  have hpostcode : Key.withDefault ⟨"postcodeApi", "postcode_api"⟩ (.optional .text) none q.fields =
      .accept q.postcodeApi :=
    Key.withDefault_optionalText (by simp [fields, Fields.get?_append, Fields.get?_cons])
      (.inl (by simp [fields, Fields.get?_append, Fields.get?_cons]))
  simp only [shape, toJson, Shape.record, hid, htext, hdescription, htype, hrequired, hoptions, hconditions,
    hlogic, hplaceholder, hpostcode, Checked.map_accept, Checked.accept_seq_accept, ofFields_self]

/-- Lists of questions are read as they were written. -/
theorem listShape_map (qs : List Question) : Question.listShape (.arr (qs.map toJson)) = .accept qs := by
  have hkeeps : ∀ v ∈ qs.map toJson, EntryKind.question.keeps v = true ∧ hasKind v = true := by
    intro v hv
    obtain ⟨q, -, rfl⟩ := List.mem_map.mp hv
    exact ⟨EntryKind.keeps_question q, hasKind_toJson q⟩
  have hknown : (qs.map toJson).filter hasKind = qs.map toJson :=
    List.filter_eq_self.mpr fun v hv => (hkeeps v hv).2
  have hunknown : (qs.map toJson).filter (fun v => !hasKind v) = [] :=
    List.filter_eq_nil_iff.mpr fun v hv => by simp [(hkeeps v hv).2]
  simp only [listShape, keepEntries_of_keeps fun v hv => (hkeeps v hv).1, hknown, hunknown, Shape.list,
    Checked.itemsFrom_map shape_toJson, List.map_nil, List.append_nil, Checked.withNotices_nil]

end Question

/-- A page is read back from what is written of it. -/
theorem SuccessPage.shape_toJson (p : SuccessPage) : SuccessPage.shape p.toJson = .accept p := by
  -- each key is read by itself
  have hid : Key.required "id" .id p.fields = .accept p.id :=
    Key.required_of_get? (v := .str p.id) (by simp [fields, Fields.get?_cons]) rfl
  have hname : Key.withDefault "name" .textOrEmpty "" p.fields = .accept p.name :=
    Key.withDefault_of_get? (v := .str p.name) (by simp [fields, Fields.get?_cons]) rfl
  have hurl : Key.withDefault "url" .textOrEmpty "" p.fields = .accept p.url :=
    Key.withDefault_of_get? (v := .str p.url) (by simp [fields, Fields.get?_cons]) rfl
  have hconditions : Key.withDefault "conditions" shape.conditionsShape [] p.fields = .accept p.conditions :=
    Key.withDefault_of_get? (v := .arr (p.conditions.map Condition.toJson))
      (by simp [fields, Fields.get?_cons]) (Condition.entries_map p.conditions)
  have hlogic : Key.withDefault logicKey .logic .all p.fields = .accept p.logic :=
    Key.withDefault_of_get? (by simp [fields, logicKey, Fields.get?_cons]) (Shape.logic_word p.logic)
  simp only [shape, toJson, Shape.record, hid, hname, hurl, hconditions, hlogic, Checked.map_accept,
    Checked.accept_seq_accept]

namespace FormSettings

/-- No setting that was written is null. -/
theorem filter_fields (s : FormSettings) : s.fields.filter (fun (_, v) => !v.isNull) = s.fields := by
  simp [fields, Json.isNull]

/-- Settings are read back from what is written of them. -/
theorem shape_toJson (s : FormSettings) : FormSettings.shape s.toJson = .accept s := by
  -- the six texts are read alike, each under its own key
  have htext : ∀ (key : Key) (default text : Text), s.fields.get? key.name = some (.str text) →
      key.withDefault .text default s.fields = .accept text :=
    fun _ _ _ hget => Key.withDefault_of_get? hget rfl
  have hpages : Key.withDefault ⟨"successPages", "success_pages"⟩ (.entries .successPage SuccessPage.shape)
      standard.successPages s.fields = .accept s.successPages :=
    Key.withDefault_of_get? (by simp [fields, Fields.get?_cons])
      (Shape.entries_map EntryKind.keeps_successPage SuccessPage.shape_toJson s.successPages)
  simp only [shape, toJson, Shape.record, filter_fields, hpages]
  -- the texts are given, since a reading does not tell what it is to find
  rw [htext _ _ s.backgroundColor (by simp [fields, Fields.get?_cons]),
    htext _ _ s.buttonColor (by simp [fields, Fields.get?_cons]),
    htext _ _ s.submitUrl (by simp [fields, Fields.get?_cons]),
    htext _ _ s.webhookUrl (by simp [fields, Fields.get?_cons]),
    htext _ _ s.postcodeApiUrl (by simp [fields, Fields.get?_cons]),
    htext _ _ s.postcodeApiKey (by simp [fields, Fields.get?_cons])]
  rfl

end FormSettings

/-! ## Forms -/

/-- Of two texts the second stands in where the first is empty. -/
theorem Json.orElse_str (a b : Text) : (Json.str a).orElse (.str b) = .str (if a = [] then b else a) := by
  cases a <;> rfl

namespace Form

/-- A form is read back from its fields. -/
theorem readFields_fields (form : Form) : readFields form.fields = .accept form := by
  have htitle : Key.withDefault "title" .textOrEmpty "" form.fields = .accept form.title :=
    Key.withDefault_of_get? (v := .str form.title) (by simp [fields, Fields.get?_cons]) rfl
  have hdescription : Key.withDefault "description" .textOrEmpty "" form.fields = .accept form.description :=
    Key.withDefault_of_get? (v := .str form.description) (by simp [fields, Fields.get?_cons]) rfl
  have hquestions : Key.withDefault "questions" Question.listShape [] form.fields = .accept form.questions :=
    Key.withDefault_of_get? (by simp [fields, Fields.get?_cons]) (Question.listShape_map form.questions)
  have hsettings : Key.withDefault "settings" FormSettings.shapeOrStandard .standard form.fields =
      .accept form.settings :=
    Key.withDefault_of_get? (v := form.settings.toJson) (by simp [fields, Fields.get?_cons])
      (FormSettings.shape_toJson form.settings)
  simp only [readFields, htitle, hdescription, hquestions, hsettings, Checked.map_accept,
    Checked.accept_seq_accept]

/-- A form that was written is read as it was. -/
theorem shape_toJson (form : Form) : Form.shape form.toJson = .accept form := readFields_fields form

/-- The form of a document, written again. -/
def rewritten (document : Json) : Checked Json := toJson <$> shape document

/-- A document is written anew if a form can be read from it. -/
theorem rewritten_eq_ok {document written : Json} :
    (rewritten document).result = .ok written ↔
      ∃ form, (shape document).result = .ok form ∧ form.toJson = written := by
  change (shape document).result.map toJson = .ok written ↔ _
  cases (shape document).result <;> simp [Except.map]

/-- A document that was written is written again as it was. -/
theorem rewritten_toJson (form : Form) : rewritten form.toJson = .accept form.toJson := by
  rw [rewritten, shape_toJson, Checked.map_accept]

end Form

/-- **What is written is read back.** Every form, whether it was read from a document, loaded from stored data or
numbered, is written as a document that is read without a notice and as that very form; the questions written with
options are the choice questions. So a document that can be read needs to be rewritten once: rewriting leaves the
result as it is. -/
theorem written_forms_are_read_back :
    (∀ form : Form,
      (Form.shape form.toJson).notices = [] ∧ (Form.shape form.toJson).result = .ok form ∧
        ∀ q ∈ form.questions, (Fields.get? q.fields "options").isSome = q.isChoice) ∧
    ∀ document written : Json, (Form.rewritten document).result = .ok written →
      (Form.rewritten written).notices = [] ∧ (Form.rewritten written).result = .ok written := by
  constructor
  · intro form
    rw [Form.shape_toJson]
    exact ⟨rfl, rfl, fun q _ => q.isSome_get?_options⟩
  · intro document written hwritten
    obtain ⟨form, -, rfl⟩ := Form.rewritten_eq_ok.mp hwritten
    rw [Form.rewritten_toJson]
    exact ⟨rfl, rfl⟩

/-- A form as older editors stored it: with entries to leave out, numeric ids, a single value, nulls, and choices
on a question that takes none. -/
def olderDocument : Json := .obj [
  ("title", .null),
  ("questions", .arr [
    .str "stray",
    .obj [("id", .int 7), ("type", .str "single_choice"), ("options", .arr [.obj [("id", .int 1)], .null])],
    .obj [("id", .str "b"), ("type", .str "text_input"), ("options", .arr []), ("conditionLogic", .str "or"),
      ("conditions", .arr [.obj [("question_id", .int 7), ("value", .bool true)]])]]),
  ("settings", .obj [("buttonColor", .null)])]

/-- A document that is not yet written as it is read changes the first time only. -/
theorem written_forms_are_read_back_after_older_document :
    ∃ written, (Form.rewritten olderDocument).result = .ok written ∧ written ≠ olderDocument ∧
      (Form.rewritten written).notices = [] ∧ (Form.rewritten written).result = .ok written := by
  have hread : (Form.rewritten olderDocument).result.isOk = true := by decide +kernel
  have hnoticed : (Form.rewritten olderDocument).notices ≠ [] := by decide +kernel
  cases hwritten : (Form.rewritten olderDocument).result with
  | error issues =>
    rw [hwritten] at hread
    exact absurd hread Bool.false_ne_true
  | ok written =>
    have hback := written_forms_are_read_back.2 olderDocument written hwritten
    have hne : written ≠ olderDocument := by
      rintro rfl
      exact hnoticed hback.1
    exact ⟨written, rfl, hne, hback⟩

namespace Form

/-- The form with its title and description, where they are empty, taken from elsewhere. -/
def filled (form : Form) (title description : Text) : Form :=
  { form with
    title := if form.title = [] then (if title = [] then defaultTitle else title) else form.title
    description := if form.description = [] then description else form.description }

/-- There is nothing to fill in where nothing is empty. -/
theorem filled_eq_self {form : Form} {title description : Text} (htitle : form.title ≠ [])
    (hdescription : form.description ≠ []) : form.filled title description = form := by
  simp [filled, htitle, hdescription]

/-- Texts of the row stand in for those that the written form lacks. -/
theorem fillIn_fields (form : Form) (title description : Text) :
    fillIn form.fields (.str title) (.str description) = (form.filled title description).fields := by
  -- each of the two is the first of the texts that is not empty
  have htitle : ((Json.str form.title).orElse (.str title)).orElse (.str defaultTitle) =
      .str (form.filled title description).title := by
    rw [Json.orElse_str, Json.orElse_str]
    unfold filled
    by_cases h : form.title = [] <;> simp [h]
  have hdescription : ((Json.str form.description).orElse (.str description)).orElse (.str "") =
      .str (form.filled title description).description := by
    rw [Json.orElse_str, Json.orElse_str]
    unfold filled
    by_cases h : form.description = [] <;> simp [h, Text.ofString]
  have hquestions : (form.filled title description).questions = form.questions := rfl
  have hsettings : (form.filled title description).settings = form.settings := rfl
  simp [fillIn, fields, Fields.set, Fields.get, Fields.get?_cons, htitle, hdescription, hquestions, hsettings]

/-- A stored form is read as it was, but for an empty title or description. -/
theorem ofStored_toJson (form : Form) (title description : Text) :
    ofStored form.toJson (.str title) (.str description) = ⟨[], .ok (form.filled title description)⟩ := by
  unfold ofStored ofStored.load toJson
  simp only [fillIn_fields, readFields_fields]
  rfl

end Form
end Questionnaire
