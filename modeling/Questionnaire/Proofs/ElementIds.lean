import Questionnaire.Proofs.MarkupStructure
import Questionnaire.Proofs.Renumbering

/-!
# The ids of elements

The behavior script finds the elements of the page by their ids: those that there are once, and those of each question
and of each choice with a description. As a browser reads the page, its elements have these ids and no others, and in
the page of a numbered form no id is given twice.

* `Markup.elementIds`: the ids of the elements in what is read.
* `Markup.read_markup`: the page that refers to its assets is read as it was put together.
* `Markup.elementIds_markup`: the ids in the page of any form.
* `Markup.elementName_inj`: an id tells the element that it belongs to.
* `element_ids_unique_and_complete`: the ids in the page of a numbered form.
-/

namespace Questionnaire.Markup

open Artifact Html

/-! ## Ids that are read -/

/-- The id of the element that starts, if one starts and has an id. Of attributes of one name the first counts. -/
def elementId? : Event → Option Text
  | .start _ attributes => attributes.lookup (Text.ofString "id")
  | _ => none

/-- The ids of the elements in what is read, in order. -/
def elementIds (es : List Event) : List Text := es.filterMap elementId?

/-- The ids of the elements in a document as it was put together. -/
def writtenIds (ts : List Token) : List Text := elementIds (written ts)

/-- The id that attributes give. -/
def idOf (as : List Attribute) : List Text := ((as.map attributeRead).lookup (Text.ofString "id")).toList

/-- The ids of two documents are those of the first and then those of the second. -/
theorem elementIds_append (a b : List Event) : elementIds (a ++ b) = elementIds a ++ elementIds b :=
  List.filterMap_append

/-- A text has no ids. -/
theorem elementIds_chars (t : Text) : elementIds (chars t) = [] := by
  unfold elementIds chars
  rw [List.filterMap_map]
  apply List.filterMap_eq_nil_iff.mpr
  intro p _
  rfl

@[simp] theorem writtenIds_nil : writtenIds [] = [] := rfl

/-- The ids of parts that follow each other are put together. -/
@[simp] theorem writtenIds_append (a b : List Token) : writtenIds (a ++ b) = writtenIds a ++ writtenIds b := by
  rw [writtenIds, written_append, elementIds_append]
  rfl

/-- A text brings no id. -/
@[simp] theorem writtenIds_text (t : Text) (ts : List Token) : writtenIds (.text t :: ts) = writtenIds ts := by
  rw [writtenIds, written_cons, elementIds_append, tokenEvents, elementIds_chars]
  rfl

@[simp] theorem writtenIds_authored (t : Text) (ts : List Token) : writtenIds (authored t :: ts) = writtenIds ts :=
  writtenIds_text _ _

/-- A closing tag has none. -/
@[simp] theorem writtenIds_stop (name : String) (ts : List Token) : writtenIds (.stop name :: ts) = writtenIds ts :=
  rfl

@[simp] theorem writtenIds_declaration (s : String) (ts : List Token) :
    writtenIds (.declaration s :: ts) = writtenIds ts :=
  rfl

/-- An opening tag has the id among its attributes, if there is one. -/
@[simp] theorem writtenIds_start (name : String) (as : List Attribute) (ts : List Token) :
    writtenIds (.start name as :: ts) = idOf as ++ writtenIds ts := by
  rw [writtenIds, written_cons, elementIds_append]
  unfold idOf elementIds tokenEvents
  rw [List.filterMap_cons, elementId?]
  cases (as.map attributeRead).lookup (Text.ofString "id") <;> rfl

@[simp] theorem writtenIds_empty (name : String) (as : List Attribute) (ts : List Token) :
    writtenIds (.empty name as :: ts) = idOf as ++ writtenIds ts :=
  writtenIds_start name as ts

@[simp] theorem writtenIds_line (indent : Nat) (ts : List Token) : writtenIds (line indent ts) = writtenIds ts :=
  writtenIds_text _ _

/-- An element has its own id and those of what stands in it. -/
@[simp] theorem writtenIds_element (name : String) (as : List Attribute) (ts : List Token) :
    writtenIds (element name as ts) = idOf as ++ writtenIds ts := by
  rw [element, writtenIds_start, writtenIds_append, writtenIds_stop, writtenIds_nil, List.append_nil]

/-- Parts for the items of a list bring the ids of each. -/
theorem writtenIds_flatMap {α : Type} (xs : List α) (f : α → List Token) :
    writtenIds (xs.flatMap f) = xs.flatMap fun x => writtenIds (f x) := by
  induction xs with
  | nil => rfl
  | cons x xs ih => rw [List.flatMap_cons, List.flatMap_cons, writtenIds_append, ih]

/-- A part that may be left out brings its ids where it is written. -/
theorem writtenIds_ifWritten (s : Option Text) (content : Text → List Token) (ids : List Text)
    (h : ∀ t, writtenIds (content t) = ids) :
    writtenIds (ifWritten s content) = if isWritten s then ids else [] := by
  unfold ifWritten isWritten
  cases s with
  | none => rfl
  | some t =>
    by_cases ht : t = ""
    · simp [ht]
    · simp [ht, h]

/-! ## Ids of attributes -/

@[simp] theorem idOf_nil : idOf [] = [] := rfl

/-- An attribute of another name gives no id. -/
theorem idOf_cons_of_ne {a : Attribute} (h : a.name ≠ "id") (as : List Attribute) : idOf (a :: as) = idOf as := by
  have hne : (Text.ofString "id" == Text.ofString a.name) = false := by
    rw [beq_eq_false_iff_ne]
    intro heq
    exact h (Text.ofString_injective heq).symm
  unfold idOf
  rw [List.map_cons, attributeRead, List.lookup_cons, hne]

/-- The first attribute that is an id decides. -/
@[simp] theorem idOf_attr_id (id : Text) (as : List Attribute) : idOf (attr "id" id :: as) = [id] := by
  unfold idOf
  rw [List.map_cons, attr, attributeRead, List.lookup_cons_self]
  rfl

/-- An id of the page is the prefix and a word. -/
@[simp] theorem idOf_fixedId (p name : String) (as : List Attribute) :
    idOf (fixedId p name :: as) = [Text.ofString p ++ Text.ofString name] :=
  idOf_attr_id _ as

/-- An id of a part is the prefix, a word and the id of what the part is for. -/
@[simp] theorem idOf_partId (p name : String) (id : Text) (as : List Attribute) :
    idOf (partId p name id :: as) = [Text.ofString p ++ Text.ofString name ++ Text.ofString "-" ++ escape id] :=
  idOf_attr_id _ as

/-- Attributes of other names are passed over. -/
@[simp] theorem idOf_attr {name : String} (h : name ≠ "id") (value : Text) (as : List Attribute) :
    idOf (attr name value :: as) = idOf as :=
  idOf_cons_of_ne h as

@[simp] theorem idOf_classes (p : String) (names : List String) (as : List Attribute) :
    idOf (classes p names :: as) = idOf as :=
  idOf_attr (show "class" ≠ "id" by decide) _ as

@[simp] theorem idOf_cls (p name : String) (as : List Attribute) : idOf (cls p name :: as) = idOf as :=
  idOf_classes p [name] as

@[simp] theorem idOf_hidden (as : List Attribute) : idOf (Artifact.hidden :: as) = idOf as :=
  idOf_attr (show "style" ≠ "id" by decide) _ as

/-! ## The page as it is read -/

/-- The page that refers to its assets, as it is put together. -/
def linkedPage (a : Artifact) : List Token :=
  a.page [.start "link" [attr "rel" "stylesheet", attr "href" stylesheetName]]
    (element "script" [attr "src" behaviorName] [])

/-- The page that refers to its assets is read as it was put together. -/
theorem read_markup {form : Form} {options : ArtifactOptions} {a : Artifact}
    (h : Artifact.ofForm form options = .ok a) : read a.markup = written (linkedPage a) := by
  -- the two elements that do not hold data, and the plain parts around them
  have htitle : run (.content .data) (render (element "title" [] [authored a.form.title])) =
      (.content .data, written (element "title" [] [authored a.form.title])) := by
    have hless : .char '<' ∉ escape a.form.title := fun hmem => (noMarks_escape _ _ hmem).1 rfl
    exact run_raw_element (by decide) (by decide) hless (by decide)
  have hline : run (.content .data) (render (line 2 [])) = (.content .data, written (line 2 [])) :=
    run_render (plain_line.mpr plain_nil)
  have hstyles : run (.content .data) (render [.start "link" [attr "rel" "stylesheet", attr "href" stylesheetName]]) =
      (.content .data, written [.start "link" [attr "rel" "stylesheet", attr "href" stylesheetName]]) := by
    apply run_render
    simp +decide
  have hscript : run (.content .data) (render (element "script" [attr "src" behaviorName] [])) =
      (.content .data, written (element "script" [attr "src" behaviorName] [])) := by decide
  have hrun := run_append (run_append (run_append (run_append (run_append (run_append (run_render plain_pageOpening)
    htitle) hline) hstyles) (run_render (plain_pageBody h))) hscript) (run_render plain_pageClosing)
  have hpage : run (.content .data) a.markup = (.content .data, written (linkedPage a)) := by
    unfold linkedPage Artifact.markup
    rw [page_eq]
    simpa only [render, written, List.flatMap_append] using hrun
  rw [read, hpage]
  simp [finish]

/-! ## The ids of the page -/

/-- The words for what a respondent of a question enters it in, and for what goes with that. -/
def inputWords : QuestionKind → List String
  | .singleChoice | .multipleChoice => []
  | .textInput => ["input"]
  | .address => ["postcode", "lookup-button", "lookup-error", "address-select", "address-selected"]
  | .contact => ["firstName", "lastName", "phone", "email", "terms"].map ("contact-" ++ ·)

/-- The elements of a question: a word for each, and the id of the question or choice that it belongs to. -/
def questionElements (q : Question) : List (String × Text) :=
  ("question", q.id) :: ((inputWords q.kind).map (fun word => (word, q.id)) ++
    (q.choices.filter fun c => isWritten c.description).map (fun c => ("tooltip", c.id)) ++ [("next-button", q.id)])

/-- The words for the elements that there are once, those above the questions and those below. -/
def wordsAbove : List String := ["progress-bar", "form-content", "questions-container"]

/-- The words of the ids that stand behind those of the questions. -/
def wordsBelow : List String :=
  ["empty-screen", "empty-submit-button", "thank-you-screen", "start-over-button", "form-navigation", "back-button"]

/-- The id of an element that there is once. -/
def fixedName (p : Text) (word : String) : Text := p ++ Text.ofString word

/-- The id of an element that belongs to a question or choice. -/
def elementName (p : Text) (e : String × Text) : Text := p ++ Text.ofString e.1 ++ Text.ofString "-" ++ e.2

section
variable (p : String)

/-- An icon has no id. -/
theorem writtenIds_choiceIcon (c : Choice) : writtenIds (choiceIcon p c) = [] := by
  have hshown : ∀ icon, writtenIds (element "div" [cls p "option-icon"] <|
      if isImage icon then
        [.start "img" [attr "src" (escape icon), attr "alt" (escape c.text), cls p "option-image"]]
      else element "span" [cls p "option-emoji"] [authored icon]) = [] := by
    intro icon
    split
    · simp
    · simp
  unfold choiceIcon
  rw [writtenIds_ifWritten _ _ [] hshown, ite_self]

/-- A tile has the id of its description, if it has a description. -/
theorem writtenIds_choiceTile (question : Text) (multiple : Bool) (c : Choice) :
    writtenIds (choiceTile p question multiple c) =
      if isWritten c.description then [elementName p ("tooltip", escape c.id)] else [] := by
  have hinfo : writtenIds (choiceInfo p c) =
      if isWritten c.description then [elementName p ("tooltip", escape c.id)] else [] := by
    apply writtenIds_ifWritten
    intro description
    simp [elementName]
  unfold choiceTile
  cases multiple with
  | false => simp [hinfo, writtenIds_choiceIcon]
  | true => simp [hinfo, writtenIds_choiceIcon]

/-- The tiles bring the ids of the described choices, in their order. -/
theorem writtenIds_choiceInput (question : Text) (multiple : Bool) (choices : List Choice) :
    writtenIds (choiceInput p question multiple choices) =
      (choices.filter fun c => isWritten c.description).map fun c => elementName p ("tooltip", escape c.id) := by
  have htiles : ∀ cs : List Choice, (cs.flatMap fun c => writtenIds (choiceTile p question multiple c)) =
      (cs.filter fun c => isWritten c.description).map fun c => elementName p ("tooltip", escape c.id) := by
    intro cs
    induction cs with
    | nil => rfl
    | cons c cs ih =>
      rw [List.flatMap_cons, writtenIds_choiceTile, ih]
      by_cases hc : isWritten c.description = true
      · simp [hc]
      · simp [hc]
  unfold choiceInput
  simp [writtenIds_flatMap, htiles]

/-- The ids of an input are those of its kind and those of the described choices. -/
theorem writtenIds_questionInput (q : Question) :
    writtenIds (questionInput p q) =
      (inputWords q.kind).map (fun word => elementName p (word, escape q.id)) ++
        (q.choices.filter fun c => isWritten c.description).map fun c => elementName p ("tooltip", escape c.id) := by
  have hinput : q.kind = q.input.kind := rfl
  have hchoices : q.choices = q.input.choices := rfl
  unfold questionInput
  rw [hinput, hchoices]
  -- choices have described tiles, and the other inputs parts with words of their own
  cases q.input with
  | singleChoice choices => exact writtenIds_choiceInput p q.id false choices
  | multipleChoice choices => exact writtenIds_choiceInput p q.id true choices
  | textInput => simp [textInput, inputWords, Input.kind, Input.choices, Input.choices?, elementName]
  | address =>
    simp [addressInput, inputWords, Input.kind, Input.choices, Input.choices?, elementName]
  | contact =>
    have hterms : Text.ofString "contact-terms" = Text.ofString "contact-" ++ Text.ofString "terms" := rfl
    simp [contactInput, contactInputs, inputWords, Input.kind, Input.choices,
      Input.choices?, elementName, Text.ofString_append, hterms, -String.reduceAppend]

/-- The ids of a question, with author text escaped. -/
theorem writtenIds_question (q : Question) (position : Nat) :
    writtenIds (question p q position) =
      (questionElements q).map fun e => elementName p (e.1, escape e.2) := by
  have hdescription : writtenIds (ifWritten q.description fun description =>
      line 14 (element "p" [cls p "question-description"] [authored description])) = [] := by
    rw [writtenIds_ifWritten _ _ [] (by simp), ite_self]
  unfold question questionElements
  by_cases hposition : position = 0 <;> cases q.required <;>
    simp [hposition, hdescription, writtenIds_questionInput, elementName, Function.comp_def]

end

/-- The ids of the elements of a page with a prefix, in order: of those above the questions, of the questions, and of
those below. The ids of the form need no escape here. -/
def pageIds (p : Text) (form : Form) : List Text :=
  wordsAbove.map (fixedName p) ++ (form.questions.flatMap questionElements).map (elementName p) ++
    wordsBelow.map (fixedName p)

/-- The ids in the page of a form. -/
theorem elementIds_markup {form : Form} {options : ArtifactOptions} {a : Artifact}
    (h : Artifact.ofForm form options = .ok a) :
    elementIds (read a.markup) = wordsAbove.map (fixedName options.classPrefix) ++
      (form.questions.flatMap questionElements).map (fun e => elementName options.classPrefix (e.1, escape e.2)) ++
      wordsBelow.map (fixedName options.classPrefix) := by
  have hform : a.form = form := by rw [(ofForm_eq_ok.mp h).2]
  have hquestions : writtenIds (questionParts a.classPrefix form.questions) =
      (form.questions.flatMap questionElements).map fun e => elementName options.classPrefix (e.1, escape e.2) := by
    have hparts : ∀ (qs : List Question) (n : Nat),
        ((qs.zipIdx n).flatMap fun e => writtenIds (question a.classPrefix e.1 e.2)) =
          (qs.flatMap questionElements).map fun e => elementName options.classPrefix (e.1, escape e.2) := by
      -- by induction on the questions, at any number that the first of them has
      intro qs
      induction qs with
      | nil => intro n; rfl
      | cons q qs ih =>
        intro n
        rw [List.zipIdx_cons, List.flatMap_cons, List.flatMap_cons, List.map_append, ih, writtenIds_question,
          ofString_classPrefix h]
    unfold questionParts
    rw [writtenIds_flatMap]
    exact hparts form.questions 0
  rw [read_markup h]
  change writtenIds (linkedPage a) = _
  unfold linkedPage
  rw [page_eq]
  unfold pageOpening pageBody pageClosing
  simp [hform, hquestions, ofString_classPrefix h, wordsAbove, wordsBelow, fixedName, emptyScreen, thankYouScreen,
    navigation, emptyLine]

/-! ## Ids that are told apart -/

/-- Is an id made of letters, digits and underscores, with one underscore at least? -/
def IsPlainId (id : Text) : Prop :=
  (∀ p ∈ id, p.isAlphanum = true ∨ p = .char '_') ∧ .char '_' ∈ id

/-- Such an id needs no escape. -/
theorem IsPlainId.escape {id : Text} (h : IsPlainId id) : escape id = id := by
  have hpoint : ∀ p : CodePoint, p.isAlphanum = true ∨ p = .char '_' → escapePoint p = [p] := by
    intro p hp
    -- none of the marks that are escaped is a letter, a digit or an underscore
    have hmark : ∀ q ∈ ([.char '&', .char '<', .char '>', .char '"', .char '\''] : Text), p ≠ q := by
      have hnone : ∀ q ∈ ([.char '&', .char '<', .char '>', .char '"', .char '\''] : Text),
          ¬ (q.isAlphanum = true ∨ q = .char '_') := by decide
      rintro q hq rfl
      exact hnone p hq hp
    simp only [List.forall_mem_cons] at hmark
    simp [escapePoint, hmark]
  unfold Artifact.Html.escape
  obtain ⟨hall, -⟩ := h
  induction id with
  | nil => rfl
  | cons p id ih =>
    obtain ⟨hp, hid⟩ := List.forall_mem_cons.mp hall
    rw [List.flatMap_cons, hpoint p hp, ih hid]
    rfl

/-- An id that is told apart from what follows it has no hyphen. -/
theorem IsPlainId.dash_notMem {id : Text} (h : IsPlainId id) : .char '-' ∉ id := by
  intro hmem
  have hdash : ¬ ((CodePoint.char '-').isAlphanum = true ∨ CodePoint.char '-' = .char '_') := by decide
  exact hdash (h.1 _ hmem)

/-- The last dash of a text is found, whatever stands in front of it. -/
theorem append_dash_inj {a b s t : Text} (hs : .char '-' ∉ s) (ht : .char '-' ∉ t)
    (h : a ++ CodePoint.char '-' :: s = b ++ CodePoint.char '-' :: t) : a = b ∧ s = t := by
  rcases List.append_eq_append_iff.mp h with ⟨c, rfl, hrest⟩ | ⟨c, rfl, hrest⟩
  · cases c with
    | nil => exact ⟨(List.append_nil a).symm, (List.cons.inj hrest).2⟩
    | cons p c =>
      have hmem : CodePoint.char '-' ∈ s := by
        rw [(List.cons.inj hrest).2]
        simp
      exact absurd hmem hs
  · cases c with
    | nil => exact ⟨List.append_nil b, (List.cons.inj hrest).2.symm⟩
    | cons p c =>
      have hmem : CodePoint.char '-' ∈ t := by
        rw [(List.cons.inj hrest).2]
        simp
      exact absurd hmem ht

/-- An id tells the word and the question or choice. -/
theorem elementName_inj {p : Text} {e e' : String × Text} (he : IsPlainId e.2) (he' : IsPlainId e'.2)
    (h : elementName p e = elementName p e') : e = e' := by
  unfold elementName at h
  rw [List.append_assoc, List.append_assoc, List.append_assoc, List.append_assoc] at h
  have hword := List.append_cancel_left h
  obtain ⟨hfirst, hsecond⟩ := append_dash_inj he.dash_notMem he'.dash_notMem hword
  exact Prod.ext (Text.ofString_injective hfirst) hsecond

/-- It is not the id of an element that there is once. -/
theorem elementName_ne_fixedName {p : Text} {e : String × Text} (he : IsPlainId e.2) {word : String}
    (hword : .char '_' ∉ Text.ofString word) : elementName p e ≠ fixedName p word := by
  intro h
  unfold elementName fixedName at h
  rw [List.append_assoc, List.append_assoc] at h
  apply hword
  rw [← List.append_cancel_left h]
  simp [he.2]

/-! ## The elements of a numbered form -/

/-- Letters, digits and underscores may be put behind such an id. -/
theorem isPlainId_append {id rest : Text} (h : IsPlainId id)
    (hrest : ∀ p ∈ rest, p.isAlphanum = true ∨ p = .char '_') : IsPlainId (id ++ rest) := by
  refine ⟨?_, List.mem_append_left rest h.2⟩
  intro p hp
  rcases List.mem_append.mp hp with hp | hp
  · exact h.1 p hp
  · exact hrest p hp

/-- The digits of a number are allowed in such an id. -/
theorem isAlphanum_of_mem_toString {n : Nat} {p : CodePoint} (h : p ∈ Text.ofString (toString n)) :
    p.isAlphanum = true ∨ p = .char '_' := by
  have hdigit := isDigit_of_mem_toString h
  left
  unfold Text.isDigit at hdigit
  unfold CodePoint.isAlphanum
  rw [hdigit, Bool.or_true]

/-- The new name of a question is such an id. -/
theorem isPlainId_questionName (n : Nat) : IsPlainId (questionName n) := by
  have hstart : IsPlainId (Text.ofString "q_") := ⟨by decide, by decide⟩
  exact isPlainId_append hstart fun p => isAlphanum_of_mem_toString

/-- So is the new name of a choice. -/
theorem isPlainId_choiceName {question : Text} (h : IsPlainId question) (n : Nat) :
    IsPlainId (choiceName question n) := by
  have hword : ∀ p ∈ Text.ofString "_opt_", p.isAlphanum = true ∨ p = .char '_' := by decide
  exact isPlainId_append (isPlainId_append h hword) fun p => isAlphanum_of_mem_toString

/-- An element of a question belongs to the question or to one of its choices. -/
theorem id_of_mem_questionElements {q : Question} {e : String × Text} (h : e ∈ questionElements q) :
    e.2 = q.id ∨ e.2 ∈ q.choiceIds := by
  unfold questionElements at h
  simp only [List.mem_cons, List.mem_append, List.mem_map, List.mem_filter, List.not_mem_nil, or_false] at h
  rcases h with rfl | (⟨word, -, rfl⟩ | ⟨c, ⟨hc, -⟩, rfl⟩) | rfl
  · exact .inl rfl
  · exact .inl rfl
  · exact .inr (List.mem_map_of_mem hc)
  · exact .inl rfl

/-- The elements of a question are told apart if its choices are. -/
theorem nodup_questionElements {q : Question} (h : q.choiceIds.Nodup) : (questionElements q).Nodup := by
  -- the words of the inputs are distinct, and none is a word of the other elements
  have hwords : (inputWords q.kind).Nodup ∧ "question" ∉ inputWords q.kind ∧ "tooltip" ∉ inputWords q.kind ∧
      "next-button" ∉ inputWords q.kind := by
    cases q.kind <;> decide
  rcases hwords with ⟨hnodup, hquestion, htooltip, hbutton⟩
  have hinputs : ((inputWords q.kind).map fun word => (word, q.id)).Nodup := by
    apply hnodup.map
    intro v w hvw
    exact congrArg Prod.fst hvw
  have htooltips : ((q.choices.filter fun c => isWritten c.description).map fun c => ("tooltip", c.id)).Nodup := by
    have hids : ((q.choices.filter fun c => isWritten c.description).map (·.id)).Nodup :=
      h.sublist (List.filter_sublist.map _)
    have hpairs := hids.map (f := fun id => ("tooltip", id)) fun _ _ hvw => congrArg Prod.snd hvw
    rwa [List.map_map] at hpairs
  unfold questionElements
  rw [List.nodup_cons, List.nodup_append', List.nodup_append']
  refine ⟨?_, ⟨hinputs, htooltips, ?_⟩, List.nodup_singleton _, ?_⟩
  · simp [hquestion]
  · -- an input and a tooltip have different words
    intro e hinput htip
    rcases List.mem_map.mp hinput with ⟨word, hword, rfl⟩
    rcases List.mem_map.mp htip with ⟨c, -, hsame⟩
    have hword' : "tooltip" = word := congrArg Prod.fst hsame
    exact htooltip (hword' ▸ hword)
  · simp [hbutton]

section
variable {form : Form} {k : Nat} {q : Question} (hq : form.renamed.questions[k]? = some q)
include hq

/-- The question at a position has the name of the position, and its choices have names made from that. -/
theorem ids_renamed_question : q.id = questionName (k + 1) ∧
    q.choiceIds = positionNames (choiceName (questionName (k + 1))) q.choices.length := by
  rw [Form.getElem?_renamed_questions] at hq
  rcases Option.map_eq_some_iff.mp hq with ⟨old, -, rfl⟩
  have hids := form.idMap.choiceIds_renamedQuestion old (k + 1)
  have hlength : (form.idMap.renamedQuestion old (k + 1)).choices.length = old.choices.length := by
    simpa [Question.choiceIds] using congrArg List.length hids
  rw [hlength]
  exact ⟨rfl, hids⟩

/-- The ids there are plain and tell the position. -/
theorem id_of_mem_renamed_question {e : String × Text} (he : e ∈ questionElements q) :
    IsPlainId e.2 ∧ positionDigits e.2 = Text.ofString (toString (k + 1)) := by
  rcases ids_renamed_question hq with ⟨hid, hchoices⟩
  rcases id_of_mem_questionElements he with hown | hchoice
  · rw [hown, hid]
    exact ⟨isPlainId_questionName _, positionDigits_questionName _⟩
  · rw [hchoices] at hchoice
    rcases List.mem_map.mp hchoice with ⟨j, -, hj⟩
    rw [← hj]
    exact ⟨isPlainId_choiceName (isPlainId_questionName _) _, positionDigits_choiceName _ _⟩

/-- The choices of a renamed question have distinct ids, and so have the parts of its input. -/
theorem nodup_renamed_question : (questionElements q).Nodup := by
  apply nodup_questionElements
  rw [(ids_renamed_question hq).2]
  exact nodup_positionNames (choiceName_injective _) _

end

/-- All ids of the renamed form are plain. -/
theorem isPlainId_renamed {form : Form} {e : String × Text}
    (he : e ∈ form.renamed.questions.flatMap questionElements) : IsPlainId e.2 := by
  rcases List.mem_flatMap.mp he with ⟨q, hq, he⟩
  rcases List.mem_iff_getElem?.mp hq with ⟨k, hk⟩
  exact (id_of_mem_renamed_question hk he).1

/-- The elements of all its questions are told apart: those of one question by `nodup_questionElements`, those of two
by their positions. -/
theorem nodup_renamed (form : Form) : (form.renamed.questions.flatMap questionElements).Nodup := by
  rw [List.nodup_flatMap]
  constructor
  · intro q hq
    rcases List.mem_iff_getElem?.mp hq with ⟨k, hk⟩
    exact nodup_renamed_question hk
  · rw [List.pairwise_iff_getElem]
    intro j k hj hk hlt e hej hek
    have hfirst := (id_of_mem_renamed_question (List.getElem?_eq_getElem hj) hej).2
    have hsecond := (id_of_mem_renamed_question (List.getElem?_eq_getElem hk) hek).2
    have hsame : j + 1 = k + 1 := digits_injective (hfirst.symm.trans hsecond)
    omega

/-- With any prefix, the ids of the renamed form are pairwise distinct. -/
theorem nodup_pageIds (p : Text) (form : Form) : (pageIds p form.renamed).Nodup := by
  have hfixed : ∀ words : List String, words.Nodup → (words.map (fixedName p)).Nodup := by
    intro words hwords
    apply hwords.map
    intro v w hvw
    exact Text.ofString_injective (List.append_cancel_left hvw)
  -- within the questions, names are told apart because renamed ids are plain
  have helements : ((form.renamed.questions.flatMap questionElements).map (elementName p)).Nodup := by
    apply (nodup_renamed form).map_on
    intro e he e' he' hsame
    exact elementName_inj (isPlainId_renamed he) (isPlainId_renamed he') hsame
  -- a fixed word has no underscore, while the name of an element ends in an id, which has one
  have hapart : ∀ e ∈ form.renamed.questions.flatMap questionElements, ∀ word ∈ wordsAbove ++ wordsBelow,
      elementName p e ≠ fixedName p word := by
    intro e he word hword
    have hplain : ∀ w ∈ wordsAbove ++ wordsBelow, .char '_' ∉ Text.ofString w := by decide
    exact elementName_ne_fixedName (isPlainId_renamed he) (hplain word hword)
  have hsides : ∀ v ∈ wordsAbove, ∀ w ∈ wordsBelow, fixedName p v ≠ fixedName p w := by
    intro v hv w hw hsame
    have hdiffer : ∀ v ∈ wordsAbove, ∀ w ∈ wordsBelow, v ≠ w := by decide
    exact hdiffer v hv w hw (Text.ofString_injective (List.append_cancel_left hsame))
  unfold pageIds
  rw [List.nodup_append, List.nodup_append]
  refine ⟨⟨hfixed _ (by decide), helements, ?_⟩, hfixed _ (by decide), ?_⟩
  · -- the elements above the questions, and those of the questions
    intro a ha b hb
    rcases List.mem_map.mp ha with ⟨word, hword, rfl⟩
    rcases List.mem_map.mp hb with ⟨e, he, rfl⟩
    exact (hapart e he word (List.mem_append_left _ hword)).symm
  · -- both of these, and the elements below the questions
    intro a ha b hb
    rcases List.mem_map.mp hb with ⟨word, hword, rfl⟩
    rcases List.mem_append.mp ha with ha | ha
    · rcases List.mem_map.mp ha with ⟨other, hother, rfl⟩
      exact hsides other hother word hword
    · rcases List.mem_map.mp ha with ⟨e, he, rfl⟩
      exact hapart e he word (List.mem_append_right _ hword)

end Questionnaire.Markup

namespace Questionnaire

open Markup

/-- **Element ids are unique and complete.** As the page of a numbered form is read, its elements have pairwise
distinct ids, and these are, in order: the three fixed ones above the questions; for each question the question itself,
what its kind is entered in, a tooltip for each choice with a description, and the button; and the six fixed ones below.
The form that was numbered may repeat ids, and its texts are arbitrary. -/
theorem element_ids_unique_and_complete {form numbered : Form} {options : ArtifactOptions} {a : Artifact}
    (hnumbered : form.numbered = .ok numbered) (ha : Artifact.ofForm numbered options = .ok a) :
    (elementIds (read a.markup)).Nodup ∧ elementIds (read a.markup) = pageIds options.classPrefix numbered := by
  have hrenamed : numbered = form.renamed := ((form.gives_numbered numbered).mp hnumbered).2
  have hread : elementIds (read a.markup) = pageIds options.classPrefix numbered := by
    rw [elementIds_markup ha]
    unfold pageIds
    congr 2
    apply List.map_congr_left
    intro e he
    rw [hrenamed] at he
    rw [(isPlainId_renamed he).escape]
  constructor
  · rw [hread, hrenamed]
    exact nodup_pageIds _ form
  · exact hread

/-- Ids that are repeated, among questions and among choices, with texts that look like attributes. -/
def repetitiveForm : Form where
  title := "\" id=\"p-question-q_1"
  description := ""
  questions := [
    .bare "x" (.multipleChoice [⟨"\" id=\"", "\" id=", some "/\" id=\"y", some "\" id=\"y"⟩,
      ⟨"b", "", none, some ""⟩, ⟨"b", "", none, some "c"⟩]) [] .all,
    .bare "x" .address [] .all]
  settings := .standard

/-- A form that repeats its ids has a page that does not. -/
theorem element_ids_unique_and_complete_of_repetitive_form :
    ∃ a, repetitiveForm.numbered = .ok repetitiveForm.renamed ∧
      Artifact.ofForm repetitiveForm.renamed { classPrefix := "p-" } = .ok a ∧
      (elementIds (read a.markup)).Nodup ∧
      elementIds (read a.markup) = ([
        "p-progress-bar", "p-form-content", "p-questions-container",
        "p-question-q_1", "p-tooltip-q_1_opt_1", "p-tooltip-q_1_opt_3", "p-next-button-q_1",
        "p-question-q_2", "p-postcode-q_2", "p-lookup-button-q_2", "p-lookup-error-q_2", "p-address-select-q_2",
        "p-address-selected-q_2", "p-next-button-q_2",
        "p-empty-screen", "p-empty-submit-button", "p-thank-you-screen", "p-start-over-button", "p-form-navigation",
        "p-back-button"] : List String).map Text.ofString := by
  have hnumbered : repetitiveForm.numbered = .ok repetitiveForm.renamed := by rfl
  obtain ⟨a, ha⟩ : ∃ a, Artifact.ofForm repetitiveForm.renamed { classPrefix := "p-" } = .ok a := ⟨_, rfl⟩
  rcases element_ids_unique_and_complete hnumbered ha with ⟨hdistinct, hids⟩
  refine ⟨a, hnumbered, ha, hdistinct, ?_⟩
  rw [hids]
  decide +kernel

end Questionnaire
