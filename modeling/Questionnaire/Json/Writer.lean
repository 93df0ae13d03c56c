import Questionnaire.Json.Basic
import Questionnaire.Text.Digits

/-!
# Writing JSON

Two written forms: one on one line and with every printable character as it is, and one indented by two and
in ASCII alone.

* `Json.write`, `Json.pretty`: the text of a value in either form.
* `Json.isTellable`, `Json.allTellable`: the integers that may be written, which have a limited number of digits.
* `Json.quote`: a string literal; a quote, a backslash and the control characters are escaped.
* `Json.quoteAscii`: the same with everything outside printable ASCII escaped, a character beyond
  `U+FFFF` as two units.
-/

namespace Questionnaire.Json

/-- The escape of a 16-bit unit. -/
def unitEscape (n : Nat) : Text := "\\u" ++ Text.hexDigits 4 n

/-- How a character with a short escape is written. -/
def shortEscape? (p : CodePoint) : Option Text :=
  if p = '"' then some ['\\', '"']
  else if p = '\\' then some ['\\', '\\']
  else if p = '\n' then some ['\\', 'n']
  else if p = '\r' then some ['\\', 'r']
  else if p = '\t' then some ['\\', 't']
  else if p = '\x08' then some ['\\', 'b']
  else if p = '\x0c' then some ['\\', 'f']
  else none

/-- A code point inside a literal. -/
def escape (p : CodePoint) : Text :=
  match shortEscape? p with
  | some cs => cs
  | none => if p.toNat < 32 then unitEscape p.toNat else [p]

/-- A code point inside a literal that is all ASCII. -/
def escapeAscii (p : CodePoint) : Text :=
  match shortEscape? p with
  | some cs => cs
  | none =>
    let n := p.toNat
    if 32 ≤ n ∧ n < 127 then [p]
    else if n < 0x10000 then unitEscape n
    else unitEscape (0xD800 + (n - 0x10000) / 0x400) ++ unitEscape (0xDC00 + (n - 0x10000) % 0x400)

/-- The literal of a text. -/
def quote (t : Text) : Text := "\"" ++ t.flatMap escape ++ "\""

/-- The literal of a text in ASCII. -/
def quoteAscii (t : Text) : Text := "\"" ++ t.flatMap escapeAscii ++ "\""

/-- Has an integer few enough digits to be told? -/
def isTellable (n : Int) : Bool := decide ((Decimal.digitsOf n.natAbs).length ≤ Text.maxDigits)

/-- The decimal text of an integer; one that is not tellable is never written. -/
def intText (n : Int) : Text := (if n < 0 then "-" else "") ++ String.ofList (Decimal.digitsOf n.natAbs)

/-- The text of a truth value. -/
def boolText (b : Bool) : Text := if b then "true" else "false"

mutual
/-- The value on one line, without blanks. -/
def write : Json → Text
  | .null => "null"
  | .bool b => boolText b
  | .int n => intText n
  | .float x => x.text .json
  | .str s => quote s
  | .arr items => "[" ++ writeItems items ++ "]"
  | .obj fields => "\x7b" ++ writeFields fields ++ "\x7d"

def writeItems : List Json → Text
  | [] => []
  | [v] => write v
  | v :: vs => write v ++ "," ++ writeItems vs

def writeFields : List (Text × Json) → Text
  | [] => []
  | [(k, v)] => quote k ++ ":" ++ write v
  | (k, v) :: vs => quote k ++ ":" ++ write v ++ "," ++ writeFields vs
end

mutual
/-- Is every integer in the value tellable? -/
def allTellable : Json → Bool
  | .int n => isTellable n
  | .arr items => allTellableItems items
  | .obj fields => allTellableFields fields
  | _ => true

def allTellableItems : List Json → Bool
  | [] => true
  | v :: vs => allTellable v && allTellableItems vs

def allTellableFields : List (Text × Json) → Bool
  | [] => true
  | (_, v) :: vs => allTellable v && allTellableFields vs
end

/-- A new line and the blanks of a nesting depth. -/
def newline (depth : Nat) : Text := '\n' :: List.replicate (2 * depth) (.char ' ')

mutual
/-- The indented form at a nesting depth. -/
def writeIndented (depth : Nat) : Json → Text
  | .null => "null"
  | .bool b => boolText b
  | .int n => intText n
  | .float x => x.text .json
  | .str s => quoteAscii s
  | .arr [] => "[]"
  | .arr (v :: vs) =>
    "[" ++ newline (depth + 1) ++ writeIndentedItems (depth + 1) (v :: vs) ++ newline depth ++ "]"
  | .obj [] => "\x7b\x7d"
  | .obj (v :: vs) =>
    "\x7b" ++ newline (depth + 1) ++ writeIndentedFields (depth + 1) (v :: vs) ++ newline depth ++ "\x7d"

def writeIndentedItems (depth : Nat) : List Json → Text
  | [] => []
  | [v] => writeIndented depth v
  | v :: vs => writeIndented depth v ++ "," ++ newline depth ++ writeIndentedItems depth vs

def writeIndentedFields (depth : Nat) : List (Text × Json) → Text
  | [] => []
  | [(k, v)] => quoteAscii k ++ ": " ++ writeIndented depth v
  | (k, v) :: vs =>
    quoteAscii k ++ ": " ++ writeIndented depth v ++ "," ++ newline depth ++ writeIndentedFields depth vs
end

/-- The value in ASCII, indented by two. -/
def pretty (v : Json) : Text := v.writeIndented 0

end Questionnaire.Json
