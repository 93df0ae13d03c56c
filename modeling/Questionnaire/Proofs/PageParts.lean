import Questionnaire.Artifact.Files
import Questionnaire.Proofs.ClassPrefixes
import Questionnaire.Proofs.MarkupReading

/-!
# The parts of the page

All that authors write stands in texts and attribute values of the page, escaped, and the class prefix and the colour
of the page are made of characters that are no marks. So every part of the page is plain, but for the elements that
hold text alone: the title, the styles and the script.
-/

namespace Questionnaire.Markup

open Artifact Html

/-! ## Texts without marks -/

/-- Escaped text is free of marks. -/
@[simp] theorem noMarks_escape (t : Text) : NoMarks (escape t) := by
  intro p hp
  obtain ⟨q, -, hq⟩ := List.mem_flatMap.mp hp
  have hall : ∀ s ∈ (["&amp;", "&lt;", "&gt;", "&quot;", "&#x27;"] : List Text), NoMarks s := by decide
  unfold escapePoint at hq
  split_ifs at hq with hamp hlt hgt hquote hsingle
  · exact hall "&amp;" (by decide) p hq
  · exact hall "&lt;" (by decide) p hq
  · exact hall "&gt;" (by decide) p hq
  · exact hall "&quot;" (by decide) p hq
  · exact hall "&#x27;" (by decide) p hq
  · rw [List.mem_singleton.mp hq]
    exact ⟨hlt, hgt, hquote⟩

/-- What is true of the characters of strings is true of those of the strings put together. -/
theorem forall_ofString_append {P : CodePoint → Prop} {s t : String} :
    (∀ p ∈ Text.ofString (s ++ t), P p) ↔ (∀ p ∈ Text.ofString s, P p) ∧ ∀ p ∈ Text.ofString t, P p := by
  rw [Text.ofString_append, List.forall_mem_append]

/-- So it is of strings that are joined by a separator of such characters. -/
theorem forall_intercalate {P : CodePoint → Prop} {separator : String} {strings : List String}
    (hseparator : ∀ p ∈ Text.ofString separator, P p) (h : ∀ s ∈ strings, ∀ p ∈ Text.ofString s, P p) :
    ∀ p ∈ Text.ofString (separator.intercalate strings), P p := by
  match strings with
  | [] => simp [Text.ofString]
  | [s] => simpa using h s (by simp)
  | s :: s' :: strings =>
    -- the first string and the separator, and then the others as the list that they are
    obtain ⟨hs, hrest⟩ := List.forall_mem_cons.mp h
    rw [String.intercalate_cons_cons, forall_ofString_append, forall_ofString_append]
    exact ⟨⟨hs, hseparator⟩, forall_intercalate hseparator hrest⟩

/-- What stands for halves in a string is no mark. -/
theorem noMarks_string {t : Text} (h : NoMarks t) : NoMarks t.string := by
  intro p hp
  obtain ⟨c, hc, rfl⟩ := List.mem_map.mp hp
  rw [Text.string, String.toList_ofList] at hc
  obtain ⟨q, hq, hc⟩ := List.mem_flatMap.mp hc
  cases q with
  | char d =>
    rw [List.mem_singleton.mp hc]
    exact h _ hq
  | half index =>
    have hreplacement : c = CodePoint.replacement := by simpa [CodePoint.chars] using hc
    rw [hreplacement]
    decide

/-- A colour that is used is free of marks. -/
theorem noMarks_safe (color : Text) {default : String} (hdefault : NoMarks default) :
    NoMarks (Color.safe color default) := by
  unfold Color.safe
  by_cases h : (!(Text.strip color).isEmpty && (Text.strip color).all Color.isAllowed) = true
  · rw [if_pos h]
    rw [Bool.and_eq_true, List.all_eq_true] at h
    -- halves are allowed nowhere, but their replacement would be no mark either
    apply noMarks_string
    intro p hp
    have hallowed := h.2 p hp
    refine ⟨?_, ?_, ?_⟩ <;> rintro rfl <;> exact absurd hallowed (by decide)
  · rw [if_neg h]
    exact hdefault

/-- An accepted prefix is free of marks. -/
theorem noMarks_classPrefix {form : Form} {options : ArtifactOptions} {a : Artifact}
    (h : Artifact.ofForm form options = .ok a) : NoMarks a.classPrefix := by
  rw [ofString_classPrefix h]
  intro p hp
  have hpoint := isPrefixPoint_of_mem (ofForm_eq_ok.mp h).1.1 p hp
  refine ⟨?_, ?_, ?_⟩ <;> rintro rfl <;> exact absurd hpoint (by decide)

/-! ## Plain documents -/

/-- Are all parts of a document plain? -/
def Plain (ts : List Token) : Prop := ∀ t ∈ ts, IsPlain t

/-- Is a name one of an element whose content is data? -/
def isDataName (name : String) : Bool := isName name && Content.ofElement name = .data

@[simp] theorem plain_nil : Plain [] := by simp [Plain]

@[simp] theorem plain_cons {t : Token} {ts : List Token} : Plain (t :: ts) ↔ IsPlain t ∧ Plain ts :=
  List.forall_mem_cons

@[simp] theorem plain_append {a b : List Token} : Plain (a ++ b) ↔ Plain a ∧ Plain b := List.forall_mem_append

/-- A part of the page for each item of a list is plain if it is for every item. -/
theorem plain_flatMap {α : Type} {f : α → List Token} {xs : List α} (h : ∀ x ∈ xs, Plain (f x)) :
    Plain (xs.flatMap f) := by
  intro t ht
  obtain ⟨x, hx, ht⟩ := List.mem_flatMap.mp ht
  exact h x hx t ht

/-- A text is plain if it is free of marks. -/
@[simp] theorem isPlain_text {t : Text} : IsPlain (.text t) ↔ NoMarks t := by simp [IsPlain, IsClean, KeepsData]

/-- An opening tag is plain if what follows it is data and its attributes are clean. -/
@[simp] theorem isPlain_start {name : String} {as : List Attribute} :
    IsPlain (.start name as) ↔ isDataName name = true ∧ ∀ a ∈ as, IsCleanAttribute a := by
  simp [IsPlain, IsClean, KeepsData, isDataName, and_right_comm]

/-- So is a tag without content. -/
@[simp] theorem isPlain_empty {name : String} {as : List Attribute} :
    IsPlain (.empty name as) ↔ isDataName name = true ∧ ∀ a ∈ as, IsCleanAttribute a := by
  simp [IsPlain, IsClean, KeepsData, isDataName, and_right_comm]

/-- A closing tag leads back to data, whatever it closes. -/
@[simp] theorem isPlain_stop {name : String} : IsPlain (.stop name) ↔ isName name = true := by
  simp [IsPlain, IsClean, KeepsData]

/-- Lines are indented by blanks. -/
theorem noMarks_replicate (n : Nat) : NoMarks (List.replicate n (.char ' ')) := by
  intro p hp
  rw [(List.mem_replicate.mp hp).2]
  decide

/-- To stand on a line of its own changes nothing. -/
@[simp] theorem plain_line {indent : Nat} {ts : List Token} : Plain (line indent ts) ↔ Plain ts := by
  have hindent : NoMarks ("\n" ++ Text.ofString (String.ofList (List.replicate indent ' '))) := by
    rw [noMarks_append]
    refine ⟨by decide, ?_⟩
    simpa [Text.ofString] using noMarks_replicate indent
  simp [line, hindent]

/-- An element is plain if its tags and its content are. -/
@[simp] theorem plain_element {name : String} {as : List Attribute} {ts : List Token} :
    Plain (element name as ts) ↔ isDataName name = true ∧ (∀ a ∈ as, IsCleanAttribute a) ∧ Plain ts := by
  -- the closing tag needs a name alone, which the opening tag has
  have hname : isDataName name = true → isName name = true := by
    intro h
    exact (Bool.and_eq_true_iff.mp h).1
  simp only [element, plain_cons, plain_append, isPlain_start, isPlain_stop, plain_nil, and_true]
  constructor
  · rintro ⟨⟨h, has⟩, hts, -⟩
    exact ⟨h, has, hts⟩
  · rintro ⟨h, has, hts⟩
    exact ⟨⟨h, has⟩, hts, hname h⟩

/-! ## Attributes -/

/-- An attribute is clean if its name is one and its value is free of marks. -/
@[simp] theorem isCleanAttribute_attr {name : String} {v : Text} :
    IsCleanAttribute (attr name v) ↔ isName name = true ∧ NoMarks v := by simp [IsCleanAttribute, attr]

@[simp] theorem isCleanAttribute_flag {name : String} : IsCleanAttribute (flag name) ↔ isName name = true := by
  simp [IsCleanAttribute, flag]

/-- Class names are those of the artifact behind the prefix. -/
theorem isCleanAttribute_classes {p : String} (hp : NoMarks p) {names : List String}
    (hnames : ∀ n ∈ names, NoMarks (Text.ofString n)) : IsCleanAttribute (classes p names) := by
  rw [classes, isCleanAttribute_attr]
  have hspace : NoMarks " " := by decide
  refine ⟨by decide, forall_intercalate hspace ?_⟩
  intro s hs
  obtain ⟨n, hn, rfl⟩ := List.mem_map.mp hs
  exact forall_ofString_append.mpr ⟨hp, hnames n hn⟩

/-- The same of a single class. -/
theorem isCleanAttribute_cls {p name : String} (hp : NoMarks p) (hname : NoMarks name) :
    IsCleanAttribute (cls p name) :=
  isCleanAttribute_classes hp (by simpa using hname)

/-- An id of the page itself is the prefix with a name. -/
theorem isCleanAttribute_fixedId {p name : String} (hp : NoMarks p) (hname : NoMarks name) :
    IsCleanAttribute (fixedId p name) := by
  rw [fixedId, isCleanAttribute_attr]
  exact ⟨by decide, noMarks_append.mpr ⟨hp, hname⟩⟩

/-- The id of a part of a question ends in the id of the question, escaped. -/
theorem isCleanAttribute_partId {p name : String} (hp : NoMarks p) (hname : NoMarks name) (id : Text) :
    IsCleanAttribute (partId p name id) := by
  have hdash : NoMarks "-" := by decide
  rw [partId, isCleanAttribute_attr]
  exact ⟨by decide, by simp [hp, hname, hdash]⟩

/-- What hides a part of the page is the same for all parts. -/
@[simp] theorem isCleanAttribute_hidden : IsCleanAttribute Artifact.hidden := by
  rw [Artifact.hidden, isCleanAttribute_attr]
  decide

/-! ## Parts of the page -/

/-- What an author writes is escaped, and so it is plain. -/
@[simp] theorem isPlain_authored {t : Text} : IsPlain (authored t) := by simp [authored]

/-- A part that is left out where nothing is written is plain if it is for every text. -/
theorem plain_ifWritten {s : Option Text} {content : Text → List Token} (h : ∀ t, Plain (content t)) :
    Plain (ifWritten s content) := by
  unfold ifWritten
  split
  · exact plain_nil
  · split
    · exact plain_nil
    · exact h _

section
variable {p : String} (hp : NoMarks p)
include hp

/-- An icon is a picture or a text, both by what the author writes. -/
theorem plain_choiceIcon (choice : Choice) : Plain (choiceIcon p choice) := by
  apply plain_ifWritten
  intro icon
  split <;> simp +decide [isCleanAttribute_cls hp]

/-- The description of a choice is a text, and the id of the choice a value. -/
theorem plain_choiceInfo (choice : Choice) : Plain (choiceInfo p choice) := by
  apply plain_ifWritten
  intro description
  simp +decide [isCleanAttribute_cls hp, isCleanAttribute_partId hp]

/-- A tile holds the choice as an attribute value and as text. -/
theorem plain_choiceTile (question : Text) (multiple : Bool) (choice : Choice) :
    Plain (choiceTile p question multiple choice) := by
  cases multiple <;>
    simp +decide [choiceTile, isCleanAttribute_cls hp, isCleanAttribute_classes hp, plain_choiceInfo hp,
      plain_choiceIcon hp]

/-- Choices are shown in tiles, one for each. -/
theorem plain_choiceInput (question : Text) (multiple : Bool) (choices : List Choice) :
    Plain (choiceInput p question multiple choices) := by
  have htiles : Plain (choices.flatMap (choiceTile p question multiple)) :=
    plain_flatMap fun choice _ => plain_choiceTile hp question multiple choice
  simp +decide [choiceInput, isCleanAttribute_cls hp, htiles]

/-- The placeholder is the only text of an author in the input of a text. -/
theorem plain_textInput (q : Question) : Plain (textInput p q) := by
  unfold textInput
  split <;> simp +decide [isCleanAttribute_cls hp, isCleanAttribute_partId hp]

/-- An address is looked up by its postcode. -/
theorem plain_addressInput (q : Question) : Plain (addressInput p q) := by
  simp +decide [addressInput, isCleanAttribute_cls hp, isCleanAttribute_classes hp, isCleanAttribute_partId hp]

/-- A contact has an input for each of its fields. -/
theorem plain_contactInput (q : Question) : Plain (contactInput p q) := by
  simp +decide [contactInput, contactInputs, isCleanAttribute_cls hp, isCleanAttribute_partId hp, hp]

/-- Each kind of question has an input of its own. -/
theorem plain_questionInput (q : Question) : Plain (questionInput p q) := by
  unfold questionInput
  split
  · exact plain_choiceInput hp q.id false _
  · exact plain_choiceInput hp q.id true _
  · exact plain_textInput hp q
  · exact plain_addressInput hp q
  · exact plain_contactInput hp q

/-- A question has its text, its description if there is one, and its input. -/
theorem plain_question (q : Question) (position : Nat) : Plain (question p q position) := by
  have hword : NoMarks q.kind.word := by cases q.kind <;> decide
  have hdescription : Plain (ifWritten q.description fun description =>
      line 14 (element "p" [cls p "question-description"] [authored description])) :=
    plain_ifWritten fun description => by simp +decide [isCleanAttribute_cls hp]
  unfold question
  -- with a mark for required questions or without one, and shown or hidden
  split <;> split <;>
    simp +decide [isCleanAttribute_cls hp, isCleanAttribute_partId hp, hword, hdescription, plain_questionInput hp]

/-- The screen of a form without questions says the same in all artifacts. -/
theorem plain_emptyScreen : Plain (emptyScreen p) := by
  simp +decide [emptyScreen, isCleanAttribute_cls hp, isCleanAttribute_fixedId hp]

/-- So does the screen after a submission. -/
theorem plain_thankYouScreen : Plain (thankYouScreen p) := by
  simp +decide [thankYouScreen, isCleanAttribute_cls hp, isCleanAttribute_fixedId hp]

/-- Of the navigation nothing but the prefix depends on the form. -/
theorem plain_navigation : Plain (navigation p) := by
  simp +decide [navigation, isCleanAttribute_cls hp, isCleanAttribute_fixedId hp]

end

/-! ## The page between its assets -/

/-- The start of the page, up to its title. -/
def pageOpening : List Token :=
  [.declaration "DOCTYPE html"]
    ++ line 0 [.start "html" [attr "lang" "en"]]
    ++ line 0 [.start "head" []]
    ++ line 2 [.start "meta" [attr "charset" "UTF-8"]]
    ++ line 2 [.start "meta" [attr "name" "viewport", attr "content" "width=device-width, initial-scale=1.0"]]
    ++ line 2 []

/-- The questions one after the other. -/
def questionParts (p : String) (qs : List Question) : List Token :=
  qs.zipIdx.flatMap fun (q, i) => question p q i

/-- What stands between the stylesheet and the script. -/
def pageBody (a : Artifact) : List Token :=
  let p := a.classPrefix
  line 0 [.stop "head"]
    ++ line 0 [.start "body" [attr "style" ("background-color: " ++ a.background)]]
    ++ line 2 [.start "div" [cls p "container"]]
    ++ line 4 [.start "div" [cls p "card"]]
    ++ line 6 [.start "div" [cls p "progress-bar"]]
    ++ line 8 (element "div" [cls p "progress-bar-fill", fixedId p "progress-bar"] [])
    ++ line 6 [.stop "div"]
    ++ emptyLine
    ++ line 6 [.start "div" [cls p "form-content", fixedId p "form-content"]]
    ++ line 8 [.start "div" [fixedId p "questions-container"]]
    ++ questionParts p a.form.questions
    ++ emptyScreen p
    ++ emptyLine
    ++ thankYouScreen p
    ++ line 8 [.stop "div"]
    ++ emptyLine
    ++ navigation p
    ++ line 6 [.stop "div"]
    ++ line 4 [.stop "div"]
    ++ line 2 [.stop "div"]
    ++ emptyLine
    ++ line 2 []

/-- The end of the page, behind the script. -/
def pageClosing : List Token :=
  line 0 [.stop "body"] ++ line 0 [.stop "html"] ++ [.text "\n"]

/-- The page from its start to its end. -/
theorem page_eq (a : Artifact) (styles script : List Token) :
    a.page styles script = pageOpening ++ element "title" [] [authored a.form.title] ++ line 2 [] ++ styles ++
      pageBody a ++ script ++ pageClosing := by
  unfold page pageOpening pageBody pageClosing questionParts
  simp only [line, List.append_assoc, List.cons_append, List.nil_append]

/-- The start of the page is the same for all forms, and so is its end. -/
theorem plain_pageOpening : Plain pageOpening := by
  have hdeclaration : IsPlain (.declaration "DOCTYPE html") := ⟨⟨by decide, by decide⟩, trivial⟩
  simp +decide [pageOpening, hdeclaration]

theorem plain_pageClosing : Plain pageClosing := by
  simp +decide [pageClosing]

/-- What an artifact has between its assets is plain: its prefix has been accepted, and its colour is safe. -/
theorem plain_pageBody {form : Form} {options : ArtifactOptions} {a : Artifact}
    (h : Artifact.ofForm form options = .ok a) : Plain (pageBody a) := by
  have hp : NoMarks a.classPrefix := noMarks_classPrefix h
  have hbackground : NoMarks a.background := by
    obtain ⟨-, rfl⟩ := ofForm_eq_ok.mp h
    exact noMarks_safe _ (by decide)
  have hquestions : Plain (questionParts a.classPrefix a.form.questions) :=
    plain_flatMap fun e _ => plain_question hp e.1 e.2
  unfold pageBody
  -- down to the single tags first, whose names are then computed
  simp only [emptyLine, plain_append, plain_line, plain_cons, plain_nil, plain_element, hquestions,
    plain_emptyScreen hp, plain_thankYouScreen hp, plain_navigation hp, and_true]
  simp +decide [isCleanAttribute_cls hp, isCleanAttribute_fixedId hp, hbackground]

end Questionnaire.Markup
