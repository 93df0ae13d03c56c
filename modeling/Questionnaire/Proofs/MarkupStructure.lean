import Questionnaire.Proofs.PageParts

/-!
# The structure of the markup

What authors write in a form never shows in the marks of its page, nor in its tags outside the values of attributes:
pages of forms of one shape agree in these, whatever is written in either.

* `outline`: the marks of a text and what stands in its tags.
* `bare`: a document without its texts and values; `outline_render`: it has the outline of the document.
* `SameShape`: forms alike but for what is written in them.
* `markup_structure_independent_of_texts`: forms of one shape have pages of one structure.
-/

namespace Questionnaire.Markup

open Artifact Html

/-! ## Outlines -/

/-- Is a code point one that sets off tags or values? -/
def isMark (p : CodePoint) : Bool := p = '<' || p = '>' || p = '"'

/-- Where a code point stands: in a text, in a tag, or in the value of an attribute. -/
inductive Region where
  | text
  | tag
  | value
deriving DecidableEq, Repr

/-- The region behind a code point. -/
def Region.next : Region → CodePoint → Region
  | text, p => if p = '<' then tag else text
  | tag, p => if p = '>' then text else if p = '"' then value else tag
  | value, p => if p = '"' then tag else value

/-- The marks of a text, and what stands in its tags outside the values of attributes. -/
def outline (r : Region) : Text → Text
  | [] => []
  | p :: t => if isMark p || r = .tag then p :: outline (r.next p) t else outline (r.next p) t

/-- An outline holds all marks. -/
theorem filter_outline (r : Region) (t : Text) : (outline r t).filter isMark = t.filter isMark := by
  induction t generalizing r with
  | nil => rfl
  | cons p t ih =>
    rw [outline]
    split
    · rw [List.filter_cons, List.filter_cons, ih]
    · next h =>
      have hp : isMark p = false := by
        simp only [Bool.or_eq_true, not_or] at h
        simpa using h.1
      simp [hp, ih]

/-- Text without marks changes no region, and shows in tags alone. -/
theorem outline_noMarks (r : Region) {t : Text} (h : NoMarks t) (rest : Text) :
    outline r (t ++ rest) = (if r = .tag then t else []) ++ outline r rest := by
  induction t with
  | nil => simp
  | cons p t ih =>
    obtain ⟨⟨hless, hgreater, hquote⟩, ht⟩ := List.forall_mem_cons.mp h
    have hnext : r.next p = r := by cases r <;> simp [Region.next, hless, hgreater, hquote]
    have hmark : isMark p = false := by simp [isMark, hless, hgreater, hquote]
    rw [List.cons_append, outline, hnext, ih ht, hmark]
    by_cases hr : r = .tag <;> simp [hr]

/-- Of a text without marks nothing is left in the outline. -/
theorem outline_text {t : Text} (h : NoMarks t) (rest : Text) : outline .text (t ++ rest) = outline .text rest :=
  outline_noMarks .text h rest

/-- Within a tag it is kept. -/
theorem outline_tag {t : Text} (h : NoMarks t) (rest : Text) : outline .tag (t ++ rest) = t ++ outline .tag rest :=
  outline_noMarks .tag h rest

/-- Within a value nothing is left of it. -/
theorem outline_value {t : Text} (h : NoMarks t) (rest : Text) : outline .value (t ++ rest) = outline .value rest :=
  outline_noMarks .value h rest

/-! ## Bare documents -/

/-- An attribute without its value. -/
def bareAttribute (a : Attribute) : Attribute := ⟨a.name, a.value.map fun _ => []⟩

/-- A part of a document without texts and values. -/
def bareToken : Token → Token
  | .start name attributes => .start name (attributes.map bareAttribute)
  | .empty name attributes => .empty name (attributes.map bareAttribute)
  | .text _ => .text []
  | t => t

/-- A document without texts and values. -/
def bare (ts : List Token) : List Token := ts.map bareToken

/-- Of an attribute the name is kept, and the value emptied. -/
theorem outline_attribute {a : Attribute} (h : IsCleanAttribute a) (rest : Text) :
    outline .tag (a.render ++ rest) = (bareAttribute a).render ++ outline .tag rest := by
  have hname : NoMarks (" " ++ (a.name : Text)) := noMarks_append.mpr ⟨by decide, noMarks_of_isName h.1⟩
  cases hv : a.value with
  | none =>
    have hrender : a.render = " " ++ (a.name : Text) := by simp [Attribute.render, hv]
    have hbare : (bareAttribute a).render = " " ++ (a.name : Text) := by simp [Attribute.render, bareAttribute, hv]
    rw [hrender, hbare, outline_tag hname]
  | some v =>
    have hvalue : NoMarks v := h.2 v (by rw [hv]; rfl)
    have hopen : ∀ t, outline .tag ("=\"" ++ t) = "=\"" ++ outline .value t := fun _ => rfl
    have hclose : ∀ t, outline .value ("\"" ++ t) = "\"" ++ outline .tag t := fun _ => rfl
    have hrender : a.render = " " ++ (a.name : Text) ++ "=\"" ++ v ++ "\"" := by simp [Attribute.render, hv]
    have hbare : (bareAttribute a).render = " " ++ (a.name : Text) ++ "=\"" ++ "\"" := by
      simp [Attribute.render, bareAttribute, hv]
    rw [hrender, hbare]
    -- the quotes stay, and what stands between them goes
    calc outline .tag (" " ++ (a.name : Text) ++ "=\"" ++ v ++ "\"" ++ rest)
        = outline .tag ((" " ++ (a.name : Text)) ++ ("=\"" ++ (v ++ ("\"" ++ rest)))) := by simp
      _ = (" " ++ (a.name : Text)) ++ ("=\"" ++ ("\"" ++ outline .tag rest)) := by
        rw [outline_tag hname, hopen, outline_value hvalue, hclose]
      _ = " " ++ (a.name : Text) ++ "=\"" ++ "\"" ++ outline .tag rest := by simp

/-- So it is with all attributes of a tag. -/
theorem outline_attributes {as : List Attribute} (h : ∀ a ∈ as, IsCleanAttribute a) (rest : Text) :
    outline .tag (renderAttributes as ++ rest) = renderAttributes (as.map bareAttribute) ++ outline .tag rest := by
  induction as with
  | nil => rfl
  | cons a as ih =>
    obtain ⟨ha, has⟩ := List.forall_mem_cons.mp h
    simp only [renderAttributes, List.flatMap_cons, List.map_cons, List.append_assoc] at ih ⊢
    rw [outline_attribute ha, ih has]

/-- A clean part of a document starts and ends outside of tags, and its outline shows neither texts nor values. -/
theorem outline_token {t : Token} (h : IsClean t) (rest : Text) :
    outline .text (t.render ++ rest) = (bareToken t).render ++ outline .text rest := by
  -- each kind of part is cut at its angle brackets, between which only the values of attributes are left out
  have hless : ∀ s : Text, outline .text ("<" ++ s) = "<" ++ outline .tag s := fun _ => rfl
  have hgreater : ∀ s : Text, outline .tag (">" ++ s) = ">" ++ outline .text s := fun _ => rfl
  cases t with
  | declaration s =>
    have hname : NoMarks ("!" ++ (s : Text)) := noMarks_append.mpr ⟨by decide, h.1⟩
    have hsplit : Token.render (.declaration s) ++ rest = "<" ++ (("!" ++ (s : Text)) ++ (">" ++ rest)) := by
      simp [Token.render, Text.ofString]
    rw [hsplit, hless, outline_tag hname, hgreater]
    simp [bareToken, Token.render, Text.ofString]
  | start name as =>
    have hsplit : Token.render (.start name as) ++ rest =
        "<" ++ ((name : Text) ++ (renderAttributes as ++ (">" ++ rest))) := by simp [Token.render]
    rw [hsplit, hless, outline_tag (noMarks_of_isName h.1), outline_attributes h.2, hgreater]
    simp [bareToken, Token.render]
  | empty name as =>
    have hslash : NoMarks " /" := by decide
    have hsplit : Token.render (.empty name as) ++ rest =
        "<" ++ ((name : Text) ++ (renderAttributes as ++ (" /" ++ (">" ++ rest)))) := by
      simp [Token.render, Text.ofString]
    rw [hsplit, hless, outline_tag (noMarks_of_isName h.1), outline_attributes h.2, outline_tag hslash, hgreater]
    simp [bareToken, Token.render, Text.ofString]
  | stop name =>
    have hname : NoMarks ("/" ++ (name : Text)) := noMarks_append.mpr ⟨by decide, noMarks_of_isName h⟩
    have hsplit : Token.render (.stop name) ++ rest = "<" ++ (("/" ++ (name : Text)) ++ (">" ++ rest)) := by
      simp [Token.render, Text.ofString]
    rw [hsplit, hless, outline_tag hname, hgreater]
    simp [bareToken, Token.render, Text.ofString]
  | text t => exact outline_text h rest

/-- The outline of a clean document is the document without its texts and values. -/
theorem outline_render {ts : List Token} (h : ∀ t ∈ ts, IsClean t) : outline .text (render ts) = render (bare ts) := by
  induction ts with
  | nil => rfl
  | cons t ts ih =>
    obtain ⟨ht, hts⟩ := List.forall_mem_cons.mp h
    have hsplit : render (t :: ts) = t.render ++ render ts := rfl
    rw [hsplit, outline_token ht, ih hts]
    rfl

/-- Parts are emptied one by one. -/
@[simp] theorem bare_append (a b : List Token) : bare (a ++ b) = bare a ++ bare b := List.map_append

@[simp] theorem bare_line (indent : Nat) (ts : List Token) : bare (line indent ts) = .text [] :: bare ts := rfl

/-! ## Forms of one shape -/

/-- Is an optional text there, and not empty? -/
def isWritten : Option Text → Bool
  | none => false
  | some t => t ≠ ""

/-- The ways in which the icon of a choice is shown. -/
inductive IconKind where
  | absent
  | image
  | character
deriving DecidableEq, Repr

/-- How an icon is shown. -/
def iconKind : Option Text → IconKind
  | none => .absent
  | some icon => if icon = "" then .absent else if isImage icon then .image else .character

/-- Are choices alike but for their texts? -/
structure SameChoiceShape (c d : Choice) : Prop where
  description : isWritten c.description = isWritten d.description
  icon : iconKind c.icon = iconKind d.icon

/-- Are questions alike but for their texts? -/
structure SameQuestionShape (q r : Question) : Prop where
  kind : q.kind = r.kind
  required : q.required = r.required
  description : isWritten q.description = isWritten r.description
  choices : List.Forall₂ SameChoiceShape q.choices r.choices

/-- Do forms ask questions that are alike but for their texts? -/
def SameShape (f g : Form) : Prop := List.Forall₂ SameQuestionShape f.questions g.questions

/-! ## The parts of the page -/

/-- A part that may be left out is there in both pages or in none. -/
theorem bare_ifWritten {s s' : Option Text} (h : isWritten s = isWritten s') {content content' : Text → List Token}
    (hcontent : ∀ t t', bare (content t) = bare (content' t')) :
    bare (ifWritten s content) = bare (ifWritten s' content') := by
  have hcases : ∀ (s : Option Text) (content : Text → List Token),
      isWritten s = true ∧ (∃ t, ifWritten s content = content t) ∨ isWritten s = false ∧ ifWritten s content = [] := by
    intro s content
    unfold ifWritten isWritten
    cases s with
    | none => simp
    | some t =>
      by_cases ht : t = ""
      · simp [ht]
      · exact .inl ⟨by simpa using ht, t, by simp [ht]⟩
  -- written in both, in one alone, which their shapes exclude, or in none
  rcases hcases s content with ⟨hs, t, heq⟩ | ⟨hs, heq⟩ <;>
    rcases hcases s' content' with ⟨hs', t', heq'⟩ | ⟨hs', heq'⟩
  · rw [heq, heq', hcontent t t']
  · simp [hs, hs'] at h
  · simp [hs, hs'] at h
  · rw [heq, heq']

/-- What is seen of an icon. -/
def iconOutline : IconKind → List Token
  | .absent => []
  | .image => bare (element "div" [attr "class" []]
      [.start "img" [attr "src" [], attr "alt" [], attr "class" []]])
  | .character => bare (element "div" [attr "class" []] (element "span" [attr "class" []] [.text []]))

/-- An icon is a picture, a text or nothing. -/
theorem bare_choiceIcon (p : String) (c : Choice) : bare (choiceIcon p c) = iconOutline (iconKind c.icon) := by
  unfold choiceIcon ifWritten iconKind
  cases c.icon with
  | none => rfl
  | some icon =>
    by_cases hicon : icon = ""
    · simp only [hicon, if_true]
      rfl
    · by_cases himage : isImage icon = true
      · simp only [hicon, himage, if_true, if_false]
        rfl
      · simp only [hicon, himage, if_false]
        rfl

/-- A choice has a description in both pages or in none. -/
theorem bare_choiceInfo {p p' : String} {c d : Choice} (h : isWritten c.description = isWritten d.description) :
    bare (choiceInfo p c) = bare (choiceInfo p' d) :=
  bare_ifWritten h fun _ _ => rfl

/-- Tiles of choices of one shape have one structure. -/
theorem bare_choiceTile {p p' : String} {id id' : Text} {multiple : Bool} {c d : Choice} (h : SameChoiceShape c d) :
    bare (choiceTile p id multiple c) = bare (choiceTile p' id' multiple d) := by
  have hinfo : bare (choiceInfo p c) = bare (choiceInfo p' d) := bare_choiceInfo h.description
  have hicon : bare (choiceIcon p c) = bare (choiceIcon p' d) := by rw [bare_choiceIcon, bare_choiceIcon, h.icon]
  unfold choiceTile
  -- what else a tile shows depends on the kind of question alone
  simp only [bare_append, bare_line, hinfo, hicon]
  cases multiple <;> rfl

/-- Lists of like items give like documents if each two like items do. -/
theorem bare_flatMap {α : Type} {R : α → α → Prop} {xs ys : List α} (h : List.Forall₂ R xs ys)
    {f g : α → List Token} (hfg : ∀ x y, R x y → bare (f x) = bare (g y)) :
    bare (xs.flatMap f) = bare (ys.flatMap g) := by
  induction h with
  | nil => rfl
  | cons hxy _ ih => simp only [List.flatMap_cons, bare_append, hfg _ _ hxy, ih]

/-- So have the inputs made of them. -/
theorem bare_choiceInput {p p' : String} {id id' : Text} {multiple : Bool} {cs ds : List Choice}
    (h : List.Forall₂ SameChoiceShape cs ds) :
    bare (choiceInput p id multiple cs) = bare (choiceInput p' id' multiple ds) := by
  have htiles : bare (cs.flatMap (choiceTile p id multiple)) = bare (ds.flatMap (choiceTile p' id' multiple)) :=
    bare_flatMap h fun _ _ hcd => bare_choiceTile hcd
  unfold choiceInput
  simp only [bare_append, bare_line, htiles]
  rfl

/-- A text is asked for alike, if it is required in both forms or in none. -/
theorem bare_textInput {p p' : String} {q r : Question} (h : q.required = r.required) :
    bare (textInput p q) = bare (textInput p' r) := by
  unfold textInput
  rw [h]
  cases r.required <;> rfl

/-- Inputs of questions of one shape have one structure. -/
theorem bare_questionInput {p p' : String} {q r : Question} (h : SameQuestionShape q r) :
    bare (questionInput p q) = bare (questionInput p' r) := by
  have hkind : q.input.kind = r.input.kind := h.kind
  have hchoices : List.Forall₂ SameChoiceShape q.input.choices r.input.choices := h.choices
  unfold questionInput
  cases hq : q.input <;> cases hr : r.input <;> simp only [hq, hr, Input.kind, reduceCtorEq] at hkind hchoices ⊢
  case singleChoice.singleChoice => exact bare_choiceInput hchoices
  case multipleChoice.multipleChoice => exact bare_choiceInput hchoices
  case textInput.textInput => exact bare_textInput h.required
  case address.address => rfl
  case contact.contact => rfl

/-- So have the questions themselves. -/
theorem bare_question {p p' : String} {q r : Question} (h : SameQuestionShape q r) (position : Nat) :
    bare (question p q position) = bare (question p' r position) := by
  have hinput : bare (questionInput p q) = bare (questionInput p' r) := bare_questionInput h
  have hdescription :
      bare (ifWritten q.description fun description =>
        line 14 (element "p" [cls p "question-description"] [authored description])) =
      bare (ifWritten r.description fun description =>
        line 14 (element "p" [cls p' "question-description"] [authored description])) :=
    bare_ifWritten h.description fun _ _ => rfl
  unfold question
  simp only [bare_append, bare_line, hinput, hdescription, h.required]
  -- of the position it matters only whether it is the first
  by_cases hposition : position = 0 <;> cases r.required <;> simp only [hposition, if_true, if_false] <;> rfl

/-! ## The page -/

/-- Lists that are related item by item are related at each place. -/
theorem forall₂_zipIdx {α : Type} {R : α → α → Prop} {xs ys : List α} (h : List.Forall₂ R xs ys) (n : Nat) :
    List.Forall₂ (fun e e' => R e.1 e'.1 ∧ e.2 = e'.2) (xs.zipIdx n) (ys.zipIdx n) := by
  induction h generalizing n with
  | nil => exact .nil
  | cons hxy _ ih => exact .cons ⟨hxy, rfl⟩ (ih (n + 1))

/-- Between its assets the page shows the shape of the form alone. -/
theorem bare_pageBody {a b : Artifact} (h : SameShape a.form b.form) : bare (pageBody a) = bare (pageBody b) := by
  have hquestions : bare (questionParts a.classPrefix a.form.questions) =
      bare (questionParts b.classPrefix b.form.questions) := by
    apply bare_flatMap (forall₂_zipIdx h 0)
    rintro ⟨q, i⟩ ⟨r, j⟩ ⟨hqr, rfl⟩
    exact bare_question hqr i
  unfold pageBody
  simp only [bare_append, bare_line, hquestions]
  rfl

/-- So pages of forms of one shape have one structure, whatever styles and script they have. -/
theorem bare_page {a b : Artifact} (h : SameShape a.form b.form) (styles script : List Token) :
    bare (a.page styles script) = bare (b.page styles script) := by
  rw [page_eq, page_eq]
  simp only [bare_append, bare_pageBody h]
  rfl

/-- All parts of the page are clean if those that bring in its assets are. -/
theorem clean_page {form : Form} {options : ArtifactOptions} {a : Artifact}
    (h : Artifact.ofForm form options = .ok a) {styles script : List Token} (hstyles : ∀ t ∈ styles, IsClean t)
    (hscript : ∀ t ∈ script, IsClean t) : ∀ t ∈ a.page styles script, IsClean t := by
  have hclean : ∀ ts, Plain ts → ∀ t ∈ ts, IsClean t := fun ts hts t ht => (hts t ht).1
  -- the title is not plain, for its element holds text alone
  have htitle : ∀ t ∈ element "title" [] [authored a.form.title], IsClean t := by
    simp +decide [element, IsClean, authored]
  rw [page_eq]
  simp only [List.forall_mem_append]
  exact ⟨⟨⟨⟨⟨⟨hclean _ plain_pageOpening, htitle⟩, hclean _ (plain_line.mpr plain_nil)⟩, hstyles⟩,
    hclean _ (plain_pageBody h)⟩, hscript⟩, hclean _ plain_pageClosing⟩

/-- The outline of the page that refers to its assets. -/
theorem outline_markup {form : Form} {options : ArtifactOptions} {a : Artifact}
    (h : Artifact.ofForm form options = .ok a) :
    outline .text a.markup = render (bare (a.page [.start "link" [attr "rel" "stylesheet", attr "href" stylesheetName]]
      (element "script" [attr "src" behaviorName] []))) := by
  apply outline_render
  apply clean_page h
  · simp +decide [IsClean]
  · simp +decide [element, IsClean]

end Questionnaire.Markup

namespace Questionnaire

open Markup

/-- Forms of one shape have pages of one structure, whatever is written in the forms and whatever the prefixes: the same
marks, and the same text in tags outside the values of attributes. -/
theorem markup_structure_independent_of_texts {f g : Form} {options options' : ArtifactOptions} {a b : Artifact}
    (ha : Artifact.ofForm f options = .ok a) (hb : Artifact.ofForm g options' = .ok b) (h : SameShape f g) :
    a.markup.filter isMark = b.markup.filter isMark ∧ outline .text a.markup = outline .text b.markup := by
  have hshape : SameShape a.form b.form := by
    rw [(Artifact.ofForm_eq_ok.mp ha).2, (Artifact.ofForm_eq_ok.mp hb).2]
    exact h
  have houtline : outline .text a.markup = outline .text b.markup := by
    rw [outline_markup ha, outline_markup hb, bare_page hshape]
  constructor
  · rw [← filter_outline .text a.markup, ← filter_outline .text b.markup, houtline]
  · exact houtline

/-- A form with an empty text or none wherever that leaves the shape of `markedForm` as it is. -/
def blankForm : Form where
  title := ""
  description := ""
  questions := [
    { id := "", text := "", description := some "d", required := true, conditions? := none, logic := .all,
      placeholder := none, postcodeApi := none,
      input := .multipleChoice [⟨"", "", some "/", some "d"⟩, ⟨"", "", some "i", none⟩, ⟨"", "", none, some ""⟩] },
    { id := "", text := "", description := none, required := true, conditions? := none, logic := .all,
      placeholder := none, postcodeApi := none, input := .textInput }]
  settings := .standard

/-- A form of that shape with marks in everything that is written in it. -/
def markedForm : Form where
  title := "</title><script>"
  description := "<"
  questions := [
    { id := "\" onclick=\"", text := "</h2>", description := some "<!--", required := true, conditions? := none,
      logic := .any, placeholder := some "\"", postcodeApi := some "<",
      input := .multipleChoice [⟨"\">", "<b>", some "https://\"onerror=\"", some "</div>"⟩,
        ⟨"'", "&", some "<script>", some ""⟩, ⟨"<", ">", some "", none⟩] },
    { id := "<", text := "<", description := some "", required := true, conditions? := none, logic := .all,
      placeholder := some "\"><input \"", postcodeApi := none, input := .textInput }]
  settings := { FormSettings.standard with backgroundColor := "red\">", buttonColor := "<style>" }

/-- Marks in all texts, ids, icons and colours change nothing in the structure of the page. -/
theorem markup_structure_independent_of_texts_of_marked_form :
    ∃ a b, Artifact.ofForm blankForm {} = .ok a ∧ Artifact.ofForm markedForm {} = .ok b ∧
      a.markup.filter isMark = b.markup.filter isMark ∧ outline .text a.markup = outline .text b.markup := by
  have hchoices : List.Forall₂ SameChoiceShape
      [⟨"", "", some "/", some "d"⟩, ⟨"", "", some "i", none⟩, ⟨"", "", none, some ""⟩]
      [⟨"\">", "<b>", some "https://\"onerror=\"", some "</div>"⟩, ⟨"'", "&", some "<script>", some ""⟩,
        ⟨"<", ">", some "", none⟩] :=
    .cons ⟨by decide, by decide⟩ (.cons ⟨by decide, by decide⟩ (.cons ⟨by decide, by decide⟩ .nil))
  have hshape : SameShape blankForm markedForm :=
    .cons ⟨rfl, rfl, by decide, hchoices⟩ (.cons ⟨rfl, rfl, by decide, .nil⟩ .nil)
  obtain ⟨a, ha⟩ : ∃ a, Artifact.ofForm blankForm {} = .ok a := ⟨_, rfl⟩
  obtain ⟨b, hb⟩ : ∃ b, Artifact.ofForm markedForm {} = .ok b := ⟨_, rfl⟩
  exact ⟨a, b, ha, hb, markup_structure_independent_of_texts ha hb hshape⟩

end Questionnaire
