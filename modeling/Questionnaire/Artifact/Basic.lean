import Questionnaire.Artifact.Color
import Questionnaire.Form.Wire
import Questionnaire.Text.Quoted

/-!
# Artifacts

A form is exported as three files that stand by themselves: a page, its stylesheet and its behavior
script. Class names and element ids of the page start with a prefix, so that it can stand inside
another.

* `Artifact.ofForm`: the artifact of a form, if the prefix is one that class names may start with and no option
  has too many digits.
-/

namespace Questionnaire

/-- What may be chosen about an artifact. -/
structure ArtifactOptions where
  /-- The start of class names and element ids. -/
  classPrefix : Text := "qform-"
  /-- The key under which the browser keeps answers. -/
  storageKey : Json := .str "qform-answers"
  /-- The milliseconds before the browser is sent on. -/
  redirectDelay : Json := .int 2000
deriving DecidableEq, Inhabited

/-- Can the options be told in the files? -/
def ArtifactOptions.areTellable (options : ArtifactOptions) : Bool :=
  options.storageKey.allTellable && options.redirectDelay.allTellable

/-- Why a form cannot be exported. -/
inductive ArtifactError where
  | invalidPrefix (text : Text)
  /-- An option is an integer with too many digits to be told. -/
  | optionTooLong
deriving DecidableEq, Repr

/-- The wording of an artifact error. -/
def ArtifactError.message : ArtifactError → Text
  | invalidPrefix text => "Invalid class prefix: " ++ Text.quoted text
  | optionTooLong => Text.tooManyDigits ""

/-- A form with all that its files depend on. -/
structure Artifact where
  form : Form
  options : ArtifactOptions
  /-- The colour of the buttons. -/
  button : String
  /-- The colour of the page. -/
  background : String
deriving DecidableEq

namespace Artifact

/-- A letter followed by letters, digits, `_` and `-`; a line feed may end it. -/
def isClassPrefix (t : Text) : Bool :=
  match if t.getLast? = some '\n' then t.dropLast else t with
  | [] => false
  | p :: rest => p.isAlpha && rest.all fun p => p.isAlphanum || p = '_' || p = '-'

/-- The artifact of a form. -/
def ofForm (form : Form) (options : ArtifactOptions) : Except ArtifactError Artifact :=
  if isClassPrefix options.classPrefix then
    if options.areTellable then
      .ok {
        form, options
        button := Color.safe form.settings.buttonColor "#000000"
        background := Color.safe form.settings.backgroundColor "#ffffff" }
    else .error .optionTooLong
  else .error (.invalidPrefix options.classPrefix)

/-- The start of class names and element ids. -/
def classPrefix (a : Artifact) : String := a.options.classPrefix.string

/-- The name of the page. -/
def pageName : String := "quote-form.html"

/-- The name of the stylesheet. -/
def stylesheetName : String := "form-styles.css"

/-- The name of the behavior script. -/
def behaviorName : String := "form-script.js"

end Artifact
end Questionnaire
