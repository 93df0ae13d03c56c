import Questionnaire.Json.Writer
import Questionnaire.Text.Encoding
import Questionnaire.Text.Printable

/-!
# Values in messages

A text is quoted with `'`, or with `"` when it holds `'` and no `"`; what is not printable is escaped.
Any other JSON value is shown as a literal whose inner texts are quoted.

* `Text.quoted`: a text between quotes.
* `Json.quoted`: a value as a literal.
* `Json.shown`: the same, but a text by itself stands without quotes.
* `Json.kindWord`: the word for the kind of a value.
-/

namespace Questionnaire

namespace Text

/-- A code point between quotes of the given kind. -/
def quotedPoint (quote : Char) (p : CodePoint) : Text :=
  if p = quote ∨ p = '\\' then ['\\', p]
  else if p = '\n' then ['\\', 'n']
  else if p = '\r' then ['\\', 'r']
  else if p = '\t' then ['\\', 't']
  else if isPrintable p then [p]
  else p.escaped

/-- The kind of quote that a text takes. -/
def quoteFor (t : Text) : Char := if CodePoint.char '\'' ∈ t ∧ CodePoint.char '"' ∉ t then '"' else '\''

/-- A text between quotes. -/
def quoted (t : Text) : Text :=
  let quote := quoteFor t
  quote :: (t.flatMap (quotedPoint quote) ++ [.char quote])

end Text

namespace Json

mutual
/-- A value as a literal. -/
def quoted : Json → Text
  | .null => "None"
  | .bool b => if b then "True" else "False"
  | .int n => intText n
  | .float x => x.text .message
  | .str s => Text.quoted s
  | .arr items => "[" ++ Text.intercalate ", " (quotedItems items) ++ "]"
  | .obj fields => "\x7b" ++ Text.intercalate ", " (quotedFields fields) ++ "\x7d"

def quotedItems : List Json → List Text
  | [] => []
  | v :: vs => quoted v :: quotedItems vs

def quotedFields : List (Text × Json) → List Text
  | [] => []
  | (k, v) :: vs => (Text.quoted k ++ ": " ++ quoted v) :: quotedFields vs
end

/-- The word for the kind of a value. -/
def kindWord : Json → String
  | .null => "NoneType"
  | .bool _ => "bool"
  | .int _ => "int"
  | .float _ => "float"
  | .str _ => "str"
  | .arr _ => "list"
  | .obj _ => "dict"

/-- A value in a message: a text as it is, anything else as a literal. -/
def shown : Json → Text
  | .str s => s
  | v => v.quoted

end Json
end Questionnaire
