import Questionnaire.Form.Reading

/-!
# Stored versions

The data of a stored version become a form again. A title or description that is empty in the data is
taken from the row of the form, and a title that is empty there too is `Form Preview`.

* `Form.ofStored`: the form of stored data.
-/

namespace Questionnaire

/-- Why stored data are no form. -/
inductive LoadError where
  | notAnObject
  | invalid (issues : List Issue)
deriving DecidableEq, Repr

/-- The wording of a load error without its issues. -/
def LoadError.message : LoadError → Text
  | notAnObject => "Stored form data must be a JSON object"
  | invalid _ => "Stored form data are invalid"

/-- A form loaded from stored data, with the notices of what was left out. -/
structure Loaded where
  notices : List Notice
  result : Except LoadError Form

namespace Form

/-- The title of a form without one. -/
def defaultTitle : Text := "Form Preview"

/-- The stored fields with the title and the description filled in. -/
def fillIn (fields : Fields) (title description : Json) : Fields :=
  let fields := fields.set "title" (((fields.get "title").orElse title).orElse (.str defaultTitle))
  fields.set "description" (((fields.get "description").orElse description).orElse (.str ""))

/-- The form of stored data, where null stands for no data. -/
def ofStored (data title description : Json) : Loaded :=
  match data with
  | .null => load []
  | .obj fields => load fields
  | _ => ⟨[], .error .notAnObject⟩
where
  load (fields : Fields) : Loaded :=
    let read := readFields (fillIn fields title description)
    ⟨read.notices, read.result.mapError .invalid⟩

end Form
end Questionnaire
