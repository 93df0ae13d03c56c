import Questionnaire.Text.Basic

/-!
# Markup

An HTML document as a list of tags and texts. What authors write gets in through `escape` alone, in texts
and in attribute values, and so can end neither.

* `Html.render`: the text of a document.
* `Html.escape`: author text as character references where needed.
-/

namespace Questionnaire.Artifact.Html

/-- How a code point of author text is written. -/
def escapePoint (p : CodePoint) : Text :=
  if p = '&' then "&amp;"
  else if p = '<' then "&lt;"
  else if p = '>' then "&gt;"
  else if p = '"' then "&quot;"
  else if p = '\'' then "&#x27;"
  else [p]

/-- Author text in a form that is no markup. -/
def escape (t : Text) : Text := t.flatMap escapePoint

/-- An attribute: a name, and a value if it has one, as they are written. -/
structure Attribute where
  name : String
  value : Option Text
deriving DecidableEq, Repr

/-- A part of a document. -/
inductive Token where
  | declaration (s : String)
  | start (name : String) (attributes : List Attribute)
  | empty (name : String) (attributes : List Attribute)
  | stop (name : String)
  | text (t : Text)
deriving DecidableEq, Repr

/-- An attribute with a value. -/
def attr (name : String) (value : Text) : Attribute := ⟨name, some value⟩

/-- An attribute without a value. -/
def flag (name : String) : Attribute := ⟨name, none⟩

/-- An attribute as it is written. -/
def Attribute.render (a : Attribute) : Text :=
  match a.value with
  | some value => " " ++ a.name ++ "=\"" ++ value ++ "\""
  | none => " " ++ a.name

/-- Attributes as they are written. -/
def renderAttributes (as : List Attribute) : Text := as.flatMap Attribute.render

/-- A part of a document as it is written. -/
def Token.render : Token → Text
  | .declaration s => "<!" ++ s ++ ">"
  | .start name attributes => "<" ++ name ++ renderAttributes attributes ++ ">"
  | .empty name attributes => "<" ++ name ++ renderAttributes attributes ++ " />"
  | .stop name => "</" ++ name ++ ">"
  | .text t => t

/-- The text of a document. -/
def render (tokens : List Token) : Text := tokens.flatMap Token.render

/-- A new line with an indentation and what stands on it. -/
def line (indent : Nat) (tokens : List Token) : List Token :=
  .text ("\n" ++ String.ofList (List.replicate indent ' ')) :: tokens

/-- An element on one line. -/
def element (name : String) (attributes : List Attribute) (content : List Token) : List Token :=
  .start name attributes :: (content ++ [.stop name])

end Questionnaire.Artifact.Html
