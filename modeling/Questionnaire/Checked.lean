import Questionnaire.Text.Encoding
import Questionnaire.Text.Numeral
import Questionnaire.Text.Quoted

/-!
# Checked readings

Reading a value against what is expected of it gives the thing read or every issue that stands in the
way, each with its place, and besides that the notices of parts that were left out. Readings of the
fields of an object are put together by the applicative operations, which keep the order of the fields.

* `Checked`: a reading.
* `Problem.message`: the wording of an issue.
-/

namespace Questionnaire

/-- What a notice is about. -/
inductive Level where
  | warning
  | error
deriving DecidableEq, Repr

/-- A line for the operators of the service. -/
structure Notice where
  level : Level
  text : Text
deriving DecidableEq, Repr

namespace Notice

def warning (text : Text) : Notice := ⟨.warning, text⟩

def error (text : Text) : Notice := ⟨.error, text⟩

/-- The notice with its level in front. -/
def line (n : Notice) : Text :=
  (match n.level with
  | .warning => "WARNING: "
  | .error => "ERROR: ") ++ n.text

end Notice

/-- A step into a value. -/
inductive Step where
  | key (name : Text)
  | index (position : Nat)
deriving DecidableEq, Repr

/-- The text of a step. -/
def Step.text : Step → Text
  | .key name => name
  | .index position => toString position

/-- Why a part of a value is refused. -/
inductive Problem where
  | missing
  | notText
  | notUnicode
  | notTruth
  | unclearTruth
  | notList
  | notMapping
  | notRecord (name : Text)
  | notOneOf (allowed : List Text)
  | notWhole
  | wholeTooLarge
  | notNumeral
  | wholeExpected
  | notFinite
  | notDecimal
  | breaksRule (rule : Text)
deriving DecidableEq, Repr

/-- Where the refused value came from: a request body is told apart in the wording. -/
inductive Origin where
  | document
  | requestBody
deriving DecidableEq, Repr

namespace Problem

/-- Words joined by commas, the last two by `or`. -/
def alternatives : List Text → Text
  | [] => ""
  | [a] => a
  | [a, b] => a ++ " or " ++ b
  | a :: rest => a ++ ", " ++ alternatives rest

/-- The words to choose from. -/
def choice (allowed : List Text) : Text := alternatives (allowed.map Text.quoted)

/-- The kind of a problem. -/
def kind (origin : Origin) : Problem → Text
  | missing => "missing"
  | notText => "string_type"
  | notUnicode => "string_unicode"
  | notTruth => "bool_type"
  | unclearTruth => "bool_parsing"
  | notList => "list_type"
  | notMapping => "dict_type"
  | notRecord _ =>
    match origin with
    | .document => "model_type"
    | .requestBody => "model_attributes_type"
  | notOneOf _ => "literal_error"
  | notWhole => "int_from_float"
  | wholeTooLarge => "int_parsing_size"
  | notNumeral => "int_parsing"
  | wholeExpected => "int_type"
  | notFinite => "finite_number"
  | notDecimal => "float_parsing"
  | breaksRule _ => "value_error"

/-- The wording of a problem. -/
def message (origin : Origin) : Problem → Text
  | missing => "Field required"
  | notText => "Input should be a valid string"
  | notUnicode => "Input should be a valid string, unable to parse raw data as a unicode string"
  | notTruth => "Input should be a valid boolean"
  | unclearTruth => "Input should be a valid boolean, unable to interpret input"
  | notList => "Input should be a valid list"
  | notMapping => "Input should be a valid dictionary"
  | notRecord name =>
    match origin with
    | .document => "Input should be a valid dictionary or instance of " ++ name
    | .requestBody => "Input should be a valid dictionary or object to extract fields from"
  | notOneOf allowed => "Input should be " ++ choice allowed
  | notWhole => "Input should be a valid integer, got a number with a fractional part"
  | wholeTooLarge => "Unable to parse input string as an integer, exceeded maximum size"
  | notNumeral => "Input should be a valid integer, unable to parse string as an integer"
  | wholeExpected => "Input should be a valid integer"
  | notFinite => "Input should be a finite number"
  | notDecimal => "Input should be a valid number, unable to parse string as a number"
  | breaksRule rule => "Value error, " ++ rule

end Problem

/-- A refused part of a value. -/
structure Issue where
  path : List Step
  problem : Problem
  /-- What is refused: the part, or the whole of which a part is missing. -/
  input : Json
deriving DecidableEq, Repr

namespace Issue

/-- An issue in a report: its place in one line, its wording in the next. -/
def reportLines (i : Issue) : Text :=
  "\n" ++ Text.intercalate "." (i.path.map Step.text) ++ "\n  " ++ i.problem.message .document

/-- The report on the issues of a value that was read under a name. -/
def report (name : Text) (issues : List Issue) : Text :=
  let count := issues.length
  let noun := if count = 1 then "error" else "errors"
  toString count ++ " validation " ++ noun ++ " for " ++ name ++ (issues.map reportLines).flatten

end Issue

/-- The outcome of reading a value. -/
structure Checked (α : Type) where
  notices : List Notice
  result : Except (List Issue) α

namespace Checked

/-- A reading that refuses a value. -/
def refuse {α : Type} (problem : Problem) (input : Json) : Checked α := ⟨[], .error [⟨[], problem, input⟩]⟩

/-- A reading that goes through. -/
def accept {α : Type} (a : α) : Checked α := ⟨[], .ok a⟩

/-- Both outcomes, or the issues of either. -/
def combine {α β : Type} : Except (List Issue) (α → β) → Except (List Issue) α → Except (List Issue) β
  | .ok f, .ok a => .ok (f a)
  | .ok _, .error e => .error e
  | .error e, .ok _ => .error e
  | .error e, .error e' => .error (e ++ e')

instance : Functor Checked where
  map f c := ⟨c.notices, c.result.map f⟩

instance : Applicative Checked where
  pure := accept
  seq f c := let c := c (); ⟨f.notices ++ c.notices, combine f.result c.result⟩

/-- A reading of a part, with the step that leads to it. -/
def under {α : Type} (step : Step) (c : Checked α) : Checked α :=
  ⟨c.notices, c.result.mapError fun issues => issues.map fun issue => { issue with path := step :: issue.path }⟩

/-- A reading with notices that come before its own. -/
def withNotices {α : Type} (notices : List Notice) (c : Checked α) : Checked α :=
  { c with notices := notices ++ c.notices }

/-- A rule on what was read of a value as a whole. -/
def obeying {α : Type} (input : Json) (c : Checked α) (rule : α → Option Text) : Checked α :=
  match c.result with
  | .error _ => c
  | .ok a =>
    match rule a with
    | none => c
    | some broken => { c with result := .error [⟨[], .breaksRule broken, input⟩] }

/-- Reads the items of a list that starts at a position. -/
def itemsFrom {α : Type} (read : Json → Checked α) : Nat → List Json → Checked (List α)
  | _, [] => accept []
  | position, v :: vs => List.cons <$> (read v).under (.index position) <*> itemsFrom read (position + 1) vs

end Checked

/-- The reading of a value of some shape. -/
abbrev Shape (α : Type) := Json → Checked α

namespace Shape

/-- Any value. -/
def any : Shape Json := Checked.accept

/-- A text. -/
def text : Shape Text
  | .str s => .accept s
  | v => .refuse .notText v

/-- Null or a value of a shape. -/
def optional {α : Type} (shape : Shape α) : Shape (Option α)
  | .null => .accept none
  | v => some <$> shape v

/-- The words that are read as a truth value. -/
def truthWords : List (Text × Bool) :=
  [("0", false), ("off", false), ("f", false), ("false", false), ("n", false), ("no", false),
   ("1", true), ("on", true), ("t", true), ("true", true), ("y", true), ("yes", true)]

/-- Does an integer fit in 64 bits? -/
def fits64 (n : Int) : Bool := -2 ^ 63 ≤ n && n < 2 ^ 63

/-- The integer of 64 bits that a double is. The least of them does not count, since it may stand for a number
below. -/
def whole64? (x : Binary64) : Option Int :=
  match x.toInt? with
  | some n => if -2 ^ 63 < n ∧ n < 2 ^ 63 then some n else none
  | none => none

/-- The truth value that a number stands for, which is the integer if there is one. -/
def truthOfNumber (number : Option Int) (input : Json) : Checked Bool :=
  match number with
  | none => .refuse .notTruth input
  | some n => if n = 0 then .accept false else if n = 1 then .accept true else .refuse .unclearTruth input

/-- The truth value that a word stands for. -/
def truthOfWord (s : Text) : Checked Bool :=
  if (Text.utf8Fault? s).isSome then .refuse .notUnicode (.str s)
  else
    match truthWords.lookup s.lowerAscii with
    | some b => .accept b
    | none => .refuse .unclearTruth (.str s)

/-- A truth value, or a number or word that stands for one. -/
def truth : Shape Bool
  | .bool b => .accept b
  | .int n => truthOfNumber (if fits64 n then some n else none) (.int n)
  | .float x => truthOfNumber (whole64? x) (.float x)
  | .str s => truthOfWord s
  | v => .refuse .notTruth v

/-- The integer that a double of 64 bits without a fraction is. -/
def wholeOfDouble (x : Binary64) : Checked Int :=
  match whole64? x with
  | some n => .accept n
  | none =>
    let problem := if !x.isFinite then .notFinite else if x.toInt?.isSome then .wholeTooLarge else .notWhole
    .refuse problem (.float x)

/-- The integer that a text denotes. -/
def wholeOfText (s : Text) : Checked Int :=
  if (Text.utf8Fault? s).isSome then .refuse .notUnicode (.str s)
  else
    match Text.wholeDecimal s with
    | .ok n => .accept n
    | .error .malformed => .refuse .notNumeral (.str s)
    | .error (.tooManyDigits _) => .refuse .wholeTooLarge (.str s)

/-- An integer, a truth value, a double of 64 bits without a fraction, or a text that stands for one. -/
def whole : Shape Int
  | .int n => .accept n
  | .bool b => .accept (Json.ofTruth b)
  | .float x => wholeOfDouble x
  | .str s => wholeOfText s
  | v => .refuse .wholeExpected v

/-- A list of values of a shape. -/
def list {α : Type} (shape : Shape α) : Shape (List α)
  | .arr items => Checked.itemsFrom shape 0 items
  | v => .refuse .notList v

/-- A mapping from texts to any values. -/
def mapping : Shape Fields
  | .obj fields => .accept fields
  | v => .refuse .notMapping v

/-- An object with named fields. -/
def record {α : Type} (name : Text) (read : Fields → Checked α) : Shape α
  | .obj fields => read fields
  | v => .refuse (.notRecord name) v

/-- The thing that one of some words stands for. -/
def thingOfWord {α : Type} (words : List (Text × α)) (s : Text) : Checked α :=
  if (Text.utf8Fault? s).isSome then .refuse .notUnicode (.str s)
  else
    match words.lookup s with
    | some a => .accept a
    | none => .refuse (.notOneOf (words.map (·.1))) (.str s)

/-- One of some words. -/
def word {α : Type} (words : List (Text × α)) : Shape α
  | .str s => thingOfWord words s
  | v => .refuse (.notOneOf (words.map (·.1))) v

/-- Reads a value after it was put into another form. -/
def after {α : Type} (shape : Shape α) (prepare : Json → Json) : Shape α := fun v => shape (prepare v)

end Shape

/-- The key of a field: its name in documents, and a plain spelling that is read when the name is absent. -/
structure Key where
  name : Text
  plain : Text := name
deriving DecidableEq, Repr

instance : Coe Text Key where
  coe name := { name }

namespace Key

/-- The spelling under which a field is present, with its value. -/
def find? (key : Key) (fields : Fields) : Option (Text × Json) :=
  match fields.get? key.name with
  | some v => some (key.name, v)
  | none => (fields.get? key.plain).map fun v => (key.plain, v)

/-- A field that must be present. -/
def required {α : Type} (key : Key) (shape : Shape α) (fields : Fields) : Checked α :=
  match key.find? fields with
  | some (spelling, v) => (shape v).under (.key spelling)
  | none => (Checked.refuse .missing (.obj fields)).under (.key key.name)

/-- A field with a value to take when it is absent. -/
def withDefault {α : Type} (key : Key) (shape : Shape α) (default : α) (fields : Fields) : Checked α :=
  match key.find? fields with
  | some (spelling, v) => (shape v).under (.key spelling)
  | none => .accept default

end Key
end Questionnaire
