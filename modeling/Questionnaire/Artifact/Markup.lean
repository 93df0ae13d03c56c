import Questionnaire.Artifact.Basic
import Questionnaire.Artifact.Html

/-!
# The page

The page holds an element for each question, the two closing screens and the navigation. The elements
that the behavior script looks up have ids made of the class prefix, a word for their purpose and the id
of the question.

* `Artifact.page`: the document, given what stands in its head and at its end.
-/

namespace Questionnaire.Artifact

open Html

/-- An attribute that names classes, each with the prefix in front. -/
def classes (p : String) (names : List String) : Attribute :=
  attr "class" (" ".intercalate (names.map (p ++ ·)))

/-- An attribute that names one class. -/
def cls (p name : String) : Attribute := classes p [name]

/-- The id attribute of an element that there is once. -/
def fixedId (p name : String) : Attribute := attr "id" (p ++ name)

/-- The id attribute of an element that belongs to a question or choice with an id. -/
def partId (p name : String) (id : Text) : Attribute := attr "id" (p ++ name ++ "-" ++ escape id)

/-- The attribute that hides an element. -/
def hidden : Attribute := attr "style" "display: none;"

/-- Author text as content. -/
def authored (s : Text) : Token := .text (escape s)

/-- The content if the author wrote something. -/
def ifWritten (s : Option Text) (content : Text → List Token) : List Token :=
  match s with
  | none => []
  | some s => if s = "" then [] else content s

/-- The first text that is not empty. -/
def writtenOr (s : Option Text) (default : Text) : Text :=
  match s with
  | none => default
  | some s => if s = "" then default else s

/-- Does an icon name an image? Any other icon is shown as a character. -/
def isImage (icon : Text) : Bool :=
  (["http://", "https://", "/", "data:image/"] : List Text).any fun start => start.isPrefixOf icon

/-- The icon of a choice. -/
def choiceIcon (p : String) (choice : Choice) : List Token :=
  ifWritten choice.icon fun icon =>
    element "div" [cls p "option-icon"] <|
      if isImage icon then
        [.start "img" [attr "src" (escape icon), attr "alt" (escape choice.text), cls p "option-image"]]
      else element "span" [cls p "option-emoji"] [authored icon]

/-- The description of a choice. -/
def choiceInfo (p : String) (choice : Choice) : List Token :=
  ifWritten choice.description fun description =>
    line 16 [.start "div" [cls p "info-button", attr "data-option-id" (escape choice.id)]]
      ++ line 18 (element "span" [cls p "info-icon"] [.text "i"])
      ++ line 18 (element "div" [cls p "info-tooltip", partId p "tooltip" choice.id] [authored description])
      ++ line 16 [.stop "div"]

/-- The tile of a choice. -/
def choiceTile (p : String) (question : Text) (multiple : Bool) (choice : Choice) : List Token :=
  let kind := if multiple then "multiple-option" else "single-option"
  let checkbox :=
    if multiple then
      line 16 (element "div" [cls p "checkbox"] (element "div" [cls p "checkbox-inner"] []))
    else []
  line 14 [.start "div" [classes p ["option", kind], attr "data-option-id" (escape choice.id),
      attr "data-question-id" (escape question)]]
    ++ choiceInfo p choice ++ checkbox
    ++ line 16 [.start "div" [cls p "option-content"]]
    ++ line 18 (choiceIcon p choice ++ element "span" [cls p "option-text"] [authored choice.text])
    ++ line 16 [.stop "div"]
    ++ line 14 [.stop "div"]

/-- The tiles of a choice question. -/
def choiceInput (p : String) (question : Text) (multiple : Bool) (choices : List Choice) : List Token :=
  [.start "div" [cls p "options-container"]]
    ++ line 14 [.start "div" [cls p "options-grid"]]
    ++ choices.flatMap (choiceTile p question multiple)
    ++ line 14 [.stop "div"]
    ++ line 12 [.stop "div"]

/-- The field of a text question. -/
def textInput (p : String) (q : Question) : List Token :=
  let required := if q.required then [flag "required"] else []
  let placeholder := attr "placeholder" (escape (writtenOr q.placeholder "Type your answer here..."))
  [.start "div" [cls p "text-input-container"]]
    ++ line 14 [.empty "input" ([attr "type" "text", cls p "text-input", partId p "input" q.id, placeholder]
      ++ required)]
    ++ line 12 [.stop "div"]

/-- The postcode field and the found addresses of an address question. -/
def addressInput (p : String) (q : Question) : List Token :=
  let placeholder := attr "placeholder" (escape (writtenOr q.placeholder "Enter your postcode"))
  [.start "div" [cls p "address-container"]]
    ++ line 14 [.start "div" [cls p "postcode-row"]]
    ++ line 16 [.empty "input" [attr "type" "text", classes p ["text-input", "postcode-input"],
      partId p "postcode" q.id, placeholder, attr "autocomplete" "postal-code"]]
    ++ line 16 (element "button" [attr "type" "button", cls p "lookup-button", partId p "lookup-button" q.id]
      [.text "Find address"])
    ++ line 14 [.stop "div"]
    ++ line 14 (element "p" [cls p "lookup-error", partId p "lookup-error" q.id, attr "role" "alert"] [])
    ++ line 14 (element "select" [cls p "address-select", partId p "address-select" q.id, hidden] [])
    ++ line 14 (element "p" [cls p "address-selected", partId p "address-selected" q.id] [])
    ++ line 12 [.stop "div"]

/-- The fields of a contact: the name of the answer's part, the label and the kind of field. -/
def contactInputs : List (String × String × String) :=
  [("firstName", "First name", "text"), ("lastName", "Last name", "text"), ("phone", "Phone number", "tel"),
    ("email", "Email address", "email")]

/-- The fields of a contact question. -/
def contactInput (p : String) (q : Question) : List Token :=
  let field : String × String × String → List Token := fun (name, label, kind) =>
    let id := p ++ "contact-" ++ name ++ "-" ++ escape q.id
    line 14 (element "label" [cls p "contact-label", attr "for" id] [.text label])
      ++ line 14 [.empty "input" [attr "type" kind, cls p "text-input", attr "id" id]]
  [.start "div" [cls p "contact-container"]]
    ++ contactInputs.flatMap field
    ++ line 14 [.start "label" [cls p "terms-label"]]
    ++ line 16 [.empty "input" [attr "type" "checkbox", partId p "contact-terms" q.id],
      .text " I agree to be contacted about my quote"]
    ++ line 14 [.stop "label"]
    ++ line 12 [.stop "div"]

/-- What the respondent of a question enters. -/
def questionInput (p : String) (q : Question) : List Token :=
  match q.input with
  | .singleChoice choices => choiceInput p q.id false choices
  | .multipleChoice choices => choiceInput p q.id true choices
  | .textInput => textInput p q
  | .address => addressInput p q
  | .contact => contactInput p q

/-- A question at a position from zero; the first is shown. -/
def question (p : String) (q : Question) (position : Nat) : List Token :=
  let shown := if position = 0 then [] else [hidden]
  let required := if q.required then element "span" [cls p "required"] [.text "*"] else []
  line 10 [.start "div" ([cls p "question", partId p "question" q.id, attr "data-question-type" q.kind.word]
      ++ shown)]
    ++ line 12 [.start "div" [cls p "question-header"]]
    ++ line 14 (element "h2" [cls p "question-text"] (authored q.text :: required))
    ++ ifWritten q.description (fun description =>
      line 14 (element "p" [cls p "question-description"] [authored description]))
    ++ line 12 [.stop "div"]
    ++ line 12 (questionInput p q)
    ++ line 12 [.start "div" [cls p "next-button-container"]]
    ++ line 14 [.start "button" [cls p "next-button", partId p "next-button" q.id]]
    ++ line 16 (.text "Next " :: element "span" [cls p "next-icon"] [.text "&rarr;"])
    ++ line 14 [.stop "button"]
    ++ line 12 [.stop "div"]
    ++ line 10 [.stop "div"]

/-- The screen of a form that shows no question. -/
def emptyScreen (p : String) : List Token :=
  line 10 [.start "div" [cls p "question", fixedId p "empty-screen", hidden]]
    ++ line 12 [.start "div" [cls p "thank-you-content"]]
    ++ line 14 (element "h2" [] [.text "No questions available"])
    ++ line 14 (element "button" [cls p "next-button", fixedId p "empty-submit-button"]
      (.text "Submit " :: element "span" [cls p "next-icon"] [.text "&rarr;"]))
    ++ line 12 [.stop "div"]
    ++ line 10 [.stop "div"]

/-- The screen after a submission. -/
def thankYouScreen (p : String) : List Token :=
  line 10 [.start "div" [cls p "question", fixedId p "thank-you-screen", hidden]]
    ++ line 12 [.start "div" [cls p "thank-you-content"]]
    ++ line 14 (element "div" [cls p "thank-you-icon"] [.text "&#10003;"])
    ++ line 14 (element "h2" [] [.text "Thank you for your response!"])
    ++ line 14 (element "p" [] [.text "Your answers have been recorded. We appreciate your time."])
    ++ line 14 [.start "button" [cls p "start-over-button", fixedId p "start-over-button"]]
    ++ line 16 (element "span" [cls p "refresh-icon"] [.text "&#8635;"] ++ [.text " Start Over"])
    ++ line 14 [.stop "button"]
    ++ line 12 [.stop "div"]
    ++ line 10 [.stop "div"]

/-- The way back. -/
def navigation (p : String) : List Token :=
  line 8 [.start "div" [cls p "form-navigation", fixedId p "form-navigation"]]
    ++ line 10 [.start "button" [cls p "back-button", fixedId p "back-button", flag "disabled"]]
    ++ line 12 (element "span" [cls p "back-icon"] [.text "&larr;"] ++ [.text " Back"])
    ++ line 10 [.stop "button"]
    ++ line 8 [.stop "div"]

/-- An empty line. -/
def emptyLine : List Token := [.text "\n"]

/-- The document, with what brings in the stylesheet and the script. -/
def page (a : Artifact) (styles script : List Token) : List Token :=
  let p := a.classPrefix
  [.declaration "DOCTYPE html"]
    ++ line 0 [.start "html" [attr "lang" "en"]]
    ++ line 0 [.start "head" []]
    ++ line 2 [.start "meta" [attr "charset" "UTF-8"]]
    ++ line 2 [.start "meta" [attr "name" "viewport", attr "content" "width=device-width, initial-scale=1.0"]]
    ++ line 2 (element "title" [] [authored a.form.title])
    ++ line 2 styles
    ++ line 0 [.stop "head"]
    ++ line 0 [.start "body" [attr "style" ("background-color: " ++ a.background)]]
    ++ line 2 [.start "div" [cls p "container"]]
    ++ line 4 [.start "div" [cls p "card"]]
    ++ line 6 [.start "div" [cls p "progress-bar"]]
    ++ line 8 (element "div" [cls p "progress-bar-fill", fixedId p "progress-bar"] [])
    ++ line 6 [.stop "div"]
    ++ emptyLine
    ++ line 6 [.start "div" [cls p "form-content", fixedId p "form-content"]]
    ++ line 8 [.start "div" [fixedId p "questions-container"]]
    ++ a.form.questions.zipIdx.flatMap (fun (q, i) => question p q i)
    ++ emptyScreen p
    ++ emptyLine
    ++ thankYouScreen p
    ++ line 8 [.stop "div"]
    ++ emptyLine
    ++ navigation p
    ++ line 6 [.stop "div"]
    ++ line 4 [.stop "div"]
    ++ line 2 [.stop "div"]
    ++ emptyLine
    ++ line 2 script
    ++ line 0 [.stop "body"]
    ++ line 0 [.stop "html"]
    ++ [.text "\n"]

end Questionnaire.Artifact
