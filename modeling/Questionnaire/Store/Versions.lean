import Questionnaire.Form.Stored
import Questionnaire.Store.Connection
import Questionnaire.Text.Numeral

/-!
# Forms and their versions

A form is saved as a new version; the row of the form follows with its title and description. Versions
are numbered upwards within their form and never change. What a user does is refused on the forms of
others.

* `Store.form`, `versions`, `version`, `latestVersion`, `definition`: what is read.
* `Store.save`, `restore`: what is written.
-/

namespace Questionnaire

/-- Why an operation on forms and versions fails. -/
inductive StoreError where
  | formNotFound (form : Text)
  | versionNotFound (version form : Text)
  | noVersions (form : Text)
  | accessDenied (form : Text)
  | queryFailed (message : Text)
  | unreadable (e : LoadError)
  | badNumeral (text : Text)
  | tooManyDigits (count : Nat)
  /-- The number of a version has too many digits to be told. -/
  | numberTooLong
  | numberIsNaN
  | numberIsInfinite
  | noNumber (kind : Text)
deriving DecidableEq, Repr

namespace StoreError

/-- How much of a quoted text is shown in the wording of a store error. -/
def shownLength : Nat := 200

/-- The wording of a store error. -/
def message : StoreError → Text
  | formNotFound form => "Form " ++ form ++ " not found"
  | versionNotFound version form => "Version " ++ version ++ " of form " ++ form ++ " not found"
  | noVersions form => "Form " ++ form ++ " has no versions"
  | accessDenied form => "Form " ++ form ++ " does not belong to the current user"
  | queryFailed message => message
  | unreadable e => e.message
  | badNumeral text =>
    "invalid literal for int() with base 10: " ++ (Text.quoted text).take shownLength
  | tooManyDigits count => Text.tooManyDigits (": value has " ++ toString count ++ " digits")
  | numberTooLong => Text.tooManyDigits ""
  | numberIsNaN => "cannot convert float NaN to integer"
  | numberIsInfinite => "cannot convert float infinity to integer"
  | noNumber kind =>
    "int() argument must be a string, a bytes-like object or a real number, not " ++ Text.quoted kind

/-- Is what was asked for not there? -/
def isNotFound : StoreError → Bool
  | formNotFound _ | versionNotFound .. | noVersions _ => true
  | _ => false

end StoreError

/-- The integer part of a value, for a double toward zero. -/
def Json.integerPart : Json → Except StoreError Int
  | .int n => .ok n
  | .bool b => .ok (Json.ofTruth b)
  | .float .nan => .error .numberIsNaN
  | .float (.infinite _) => .error .numberIsInfinite
  | .float (.finite negative significand shift) =>
    .ok (Text.withSign negative (significand * 2 ^ shift / Binary64.unitsPerOne))
  | .str s =>
    match Text.wholeNumber s with
    | .ok n => .ok n
    | .error .malformed => .error (.badNumeral s)
    | .error (.tooManyDigits count) => .error (.tooManyDigits count)
  | v => .error (.noNumber v.kindWord)

/-- An operation on a connection, which stays usable when the operation fails. -/
abbrev StoreM := ExceptT StoreError (StateM Connection)

namespace Store

/-- The rows that a query gives. -/
def ask (q : Query) : StoreM (List Row) := do
  let (result, c) := (← get).query q
  set c
  match result with
  | .ok rows => return rows
  | .error e => throw (.queryFailed e.message)

/-- Leaves a notice. -/
def note (notices : List Notice) : StoreM Unit := modify fun c => { c with notices := c.notices ++ notices }

/-- The row of a form. With a user, the form must be the user's. -/
def form (id : Text) (user : Option Json) : StoreM Row := do
  match ← ask (.select .forms none [("id", .str id)] none (some 1)) with
  | [] => throw (.formNotFound id)
  | row :: _ =>
    match user with
    | none => return row
    | some user =>
      if (row.get "user_id").equals user then return row
      else
        let name := user.shown
        note [.warning ("User " ++ name ++ " tried to access form " ++ id)]
        throw (.accessDenied id)

/-- The columns of a version without its data. -/
def summaryColumns : List Text :=
  ["id", "form_id", "version_number", "commit_message", "created_by", "created_at"]

/-- The column that numbers the versions of a form. -/
def numberColumn : Text := "version_number"

/-- The versions of a form without their data, the newest first. -/
def versions (formId : Text) (user : Option Json) : StoreM (List Row) := do
  let _ ← form formId user
  ask (.select .versions (some summaryColumns) [("form_id", .str formId)] (some numberColumn) none)

/-- The row of a version of a form. -/
def version (formId versionId : Text) (user : Option Json) : StoreM Row := do
  let _ ← form formId user
  match ← ask (.select .versions none [("id", .str versionId), ("form_id", .str formId)] none (some 1)) with
  | [] => throw (.versionNotFound versionId formId)
  | row :: _ => return row

/-- The row of the newest version of a form, if it has one. -/
def newest? (formId : Text) : StoreM (Option Row) :=
  List.head? <$> ask (.select .versions none [("form_id", .str formId)] (some numberColumn) (some 1))

/-- The row of the newest version of a form. -/
def newest (formId : Text) : StoreM Row := do
  match ← newest? formId with
  | some row => return row
  | none => throw (.noVersions formId)

/-- The row of the newest version of a form of a user. -/
def latestVersion (formId : Text) (user : Option Json) : StoreM Row := do
  let _ ← form formId user
  newest formId

/-- The number of the next version: one more than that of the newest, an empty number counting as zero. It is
told to the tables, so it must be tellable. -/
def nextNumber (formId : Text) : StoreM Int := do
  match ← newest? formId with
  | none => return 1
  | some row =>
    match ((row.get numberColumn).orElse (.int 0)).integerPart with
    | .ok n => if Json.isTellable (n + 1) then return n + 1 else throw .numberTooLong
    | .error e => throw e

/-- The form that a row of a version holds, with the title and description of the row of the form to fall
back on. -/
def formOf (version form : Row) : StoreM Form := do
  let loaded := Form.ofStored (version.get "form_data") (form.get "title") (form.get "description")
  note loaded.notices
  match loaded.result with
  | .ok form => return form
  | .error e => throw (.unreadable e)

/-- The form of a version, of the newest if none is named. -/
def definition (formId : Text) (versionId : Option Text) (user : Option Json) : StoreM Form := do
  let row ← form formId user
  let version ← match versionId with
    -- an empty id names no version
    | some id => if id = "" then newest formId else version formId id none
    | none => newest formId
  formOf version row

/-- The row of a new version, but for its id. -/
def versionRow (formId : Text) (user : Json) (form : Form) (number : Int) (message : Json) : Row :=
  [("form_id", .str formId), ("form_data", form.toJson), (numberColumn, .int number), ("created_by", user),
    ("commit_message", message)]

/-- What a saved form changes in its row. Of the time of the change only that there was one is kept. -/
def formChanges (form : Form) : Row :=
  [("title", .str form.title), ("description", .str form.description), ("updated_at", .str "<set>")]

/-- Saves a form as its next version, and gives the row of that version. -/
def save (formId : Text) (user : Json) (form : Form) (message : Json) : StoreM Row := do
  let _ ← Store.form formId (if user.isNull then none else some user)
  let number ← nextNumber formId
  -- the row of the form is changed second: a failure there leaves the new version in place
  let inserted ← ask (.insert .versions (versionRow formId user form number message))
  let _ ← ask (.update .forms (formChanges form) [("id", .str formId)])
  return inserted.headD []

/-- A value as it is shown in a message, which an integer with too many digits prevents. -/
def told (v : Json) : StoreM Text := if v.allTellable then return v.shown else throw .numberTooLong

/-- Saves the form of an older version as the next one. -/
def restore (formId versionId : Text) (user : Json) : StoreM Row := do
  let source ← version formId versionId (if user.isNull then none else some user)
  let row ← form formId none
  let form ← formOf source row
  -- a number with too many digits ends the restore before anything is saved
  let number ← told (source.get numberColumn)
  save formId user form (.str ("Restored from version " ++ number))

end Store
end Questionnaire
