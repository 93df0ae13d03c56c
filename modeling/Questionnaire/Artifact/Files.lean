import Questionnaire.Artifact.Behavior
import Questionnaire.Artifact.Markup
import Questionnaire.Artifact.Stylesheet

/-!
# The files of an artifact

* `Artifact.files`: the page, the stylesheet and the behavior script under their names.
* `Artifact.singleFile`: a page that holds the other two.
-/

namespace Questionnaire.Artifact

open Html

/-- The text of the stylesheet. -/
def styles (a : Artifact) : String :=
  Css.render "Quote Form Styles" (stylesheet a.classPrefix a.button (Color.parts a.button))

/-- The text of the page that refers to the other two files. -/
def markup (a : Artifact) : Text :=
  render (a.page [.start "link" [attr "rel" "stylesheet", attr "href" stylesheetName]]
    (element "script" [attr "src" behaviorName] []))

/-- The text of a page with the stylesheet and the script in it. -/
def singleFile (a : Artifact) : Text :=
  render (a.page (element "style" [] [.text ("\n" ++ a.styles ++ "\n  ")])
    (element "script" [] [.text ("\n" ++ a.behavior ++ "\n  ")]))

/-- The three files under their names. -/
def files (a : Artifact) : List (String × Text) :=
  [(pageName, a.markup), (stylesheetName, a.styles), (behaviorName, a.behavior)]

end Questionnaire.Artifact
