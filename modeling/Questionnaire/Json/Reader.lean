import Questionnaire.Json.Basic
import Questionnaire.Stack
import Questionnaire.Text.Digits
import Questionnaire.Text.Encoding

/-!
# Reading JSON

A reader takes the characters that are left and gives the value in front of them with the rest, or a
fault with the number of characters that were left where it was found. Beyond the standard, `NaN`,
`Infinity` and `-Infinity` are read as numbers; a key that is repeated keeps its first place and its
last value.

* `Json.parse`: reads a whole text.
* `Json.parseSent`: reads a text that was sent: its bytes may be characters in a wider form, and there are
  limits to its depth, which the stack sets, and to the digits of an integer.
* `ParseError.offset`: where in the text the fault lies.
-/

namespace Questionnaire

/-- Why a text is no JSON. -/
inductive ParseFault where
  | expectedValue
  | expectedName
  | expectedColon
  | expectedComma
  | controlCharacter
  | unterminatedString
  | badEscape
  | badUnitEscape
  | extraData
  | tooManyDigits
  /-- Lists and objects stand in one another to a depth that is too great, an object as the last of them or
  a list. -/
  | tooDeep (inObject : Bool)
  /-- The bytes of the text are no characters in the form that the first of them show. -/
  | undecodable
deriving DecidableEq, Repr

/-- The wording of a fault; those of the standard are told where they are found. -/
def ParseFault.message : ParseFault → Text
  | expectedValue => "Expecting value"
  | expectedName => "Expecting property name enclosed in double quotes"
  | expectedColon => "Expecting ':' delimiter"
  | expectedComma => "Expecting ',' delimiter"
  | controlCharacter => "Invalid control character at"
  | unterminatedString => "Unterminated string starting at"
  | badEscape => "Invalid \\escape"
  | badUnitEscape => "Invalid \\uXXXX escape"
  | extraData => "Extra data"
  | tooManyDigits => "Exceeds the limit for integers"
  | tooDeep inObject =>
    let kind := if inObject then "object" else "array"
    s!"maximum recursion depth exceeded while decoding a JSON {kind} from a unicode string"
  | undecodable => "The text has no encoding"

/-- Is a fault one of the notation, and not of a limit or of the bytes? -/
def ParseFault.isNotation : ParseFault → Bool
  | tooManyDigits | tooDeep _ | undecodable => false
  | _ => true

/-- A fault, and how many characters of the text lie in front of it. -/
structure ParseError where
  fault : ParseFault
  offset : Nat
deriving DecidableEq, Repr

namespace Json.Reader

open Text (hexValue? isDigit natOfDigits)

/-- A fault with the number of characters from it to the end of the text. -/
structure Stop where
  fault : ParseFault
  remaining : Nat
deriving DecidableEq, Repr

/-- What is read, and the characters after it. -/
abbrev Result (α : Type) := Except Stop (α × Text)

/-- The white space between the parts of a document. -/
def isBlank (c : CodePoint) : Bool := c = ' ' || c = '\t' || c = '\n' || c = '\r'

/-- A text without the white space in front. -/
def skipBlanks (cs : Text) : Text := cs.dropWhile isBlank

/-- The code point of four hexadecimal digits. -/
def unit? (a b c d : CodePoint) : Option CodePoint :=
  match hexValue? a, hexValue? b, hexValue? c, hexValue? d with
  | some a, some b, some c, some d => some (.ofNat (((a * 16 + b) * 16 + c) * 16 + d))
  | _, _, _, _ => none

/-- What a character after a backslash stands for. -/
def shortEscape? (c : CodePoint) : Option CodePoint :=
  if c = '"' then some '"'
  else if c = '\\' then some '\\'
  else if c = '/' then some '/'
  else if c = 'b' then some '\x08'
  else if c = 'f' then some '\x0c'
  else if c = 'n' then some '\n'
  else if c = 'r' then some '\r'
  else if c = 't' then some '\t'
  else none

/-- A character in front of what a reader gives. -/
def Result.cons (c : CodePoint) (r : Result (Text)) : Result (Text) :=
  r.map fun (cs, rest) => (c :: cs, rest)

/-- The low half whose escape is in front of other characters. -/
def lowHalf? : Text → Option CodePoint
  | '\\' :: 'u' :: a :: b :: c :: d :: _ :: _ => (unit? a b c d).filter (·.isLowHalf)
  | _ => none

/-- The characters up to the closing quote. `start` is what was left at the opening quote. -/
def stringBody (start : Text) : Text → Result (Text)
  | [] => .error ⟨.unterminatedString, start.length⟩
  | '"' :: rest => .ok ([], rest)
  | '\\' :: 'u' :: a :: b :: c :: d :: e :: rest =>
    match unit? a b c d with
    | none => .error ⟨.badUnitEscape, rest.length + 6⟩
    | some unit =>
      match if unit.isHighHalf then lowHalf? (e :: rest) else none, rest with
      | some low, _ :: _ :: _ :: _ :: _ :: rest => (stringBody start rest).cons (.ofPair unit low)
      | _, rest => (stringBody start (e :: rest)).cons unit
  | '\\' :: 'u' :: rest => .error ⟨.badUnitEscape, rest.length + 1⟩
  | '\\' :: c :: rest =>
    match shortEscape? c with
    | some escaped => (stringBody start rest).cons escaped
    | none => .error ⟨.badEscape, rest.length + 2⟩
  | '\\' :: [] => .error ⟨.unterminatedString, start.length⟩
  | c :: rest =>
    if c.toNat < 32 then .error ⟨.controlCharacter, rest.length + 1⟩
    else (stringBody start rest).cons c

/-- An exponent part with its value: a mark, perhaps a sign, and at least one digit. -/
def exponentPart? : Text → Option (Int × Text)
  | [] => none
  | mark :: rest =>
    if mark = 'e' ∨ mark = 'E' then
      let negative := rest.head? = some '-'
      let unsigned := if rest.head? = some '-' ∨ rest.head? = some '+' then rest.tail else rest
      let digits := unsigned.takeWhile isDigit
      if digits = [] then none
      else
        let size : Int := natOfDigits digits
        some (if negative then -size else size, unsigned.dropWhile isDigit)
    else none

/-- A fraction part: a point and at least one digit. -/
def fractionPart? : Text → Option (Text × Text)
  | '.' :: rest =>
    let digits := rest.takeWhile isDigit
    if digits = [] then none else some (digits, rest.dropWhile isDigit)
  | _ => none

/-- The digits before any point: a single zero, or digits that do not start with one. -/
def wholePart? : Text → Option (Text × Text)
  | '0' :: rest => some (['0'], rest)
  | cs =>
    let digits := cs.takeWhile isDigit
    if digits = [] then none else some (digits, cs.dropWhile isDigit)

/-- A number: a double if it has a fraction or an exponent, else an integer of at most `digits` digits. -/
def number (digits : Nat) (cs : Text) : Result Json :=
  let negative := cs.head? = some '-'
  match wholePart? (if negative then cs.tail else cs) with
  | none => .error ⟨.expectedValue, cs.length⟩
  | some (whole, rest) =>
    let fraction := fractionPart? rest
    let rest := (fraction.map (·.2)).getD rest
    let exponent := exponentPart? rest
    let rest := (exponent.map (·.2)).getD rest
    if fraction.isNone ∧ exponent.isNone then
      if whole.length > digits then .error ⟨.tooManyDigits, cs.length⟩
      else
        let size : Int := natOfDigits whole
        .ok (.int (if negative then -size else size), rest)
    else
      let places := (fraction.map (·.1)).getD []
      let decimal : Decimal := ⟨natOfDigits (whole ++ places), (exponent.map (·.1)).getD 0 - places.length⟩
      .ok (.float (decimal.toBinary64 negative), rest)

/-- A word with a meaning of its own, or a number. -/
def scalar (digits : Nat) (cs : Text) : Result Json :=
  match cs with
  | 'n' :: 'u' :: 'l' :: 'l' :: rest => .ok (.null, rest)
  | 't' :: 'r' :: 'u' :: 'e' :: rest => .ok (.bool true, rest)
  | 'f' :: 'a' :: 'l' :: 's' :: 'e' :: rest => .ok (.bool false, rest)
  | 'N' :: 'a' :: 'N' :: rest => .ok (.float .nan, rest)
  | 'I' :: 'n' :: 'f' :: 'i' :: 'n' :: 'i' :: 't' :: 'y' :: rest => .ok (.float (.infinite false), rest)
  | '-' :: 'I' :: 'n' :: 'f' :: 'i' :: 'n' :: 'i' :: 't' :: 'y' :: rest =>
    .ok (.float (.infinite true), rest)
  | cs => number digits cs

/-- The literal whose opening quote is in front. -/
def name (cs : Text) : Result Text :=
  match cs with
  | '"' :: rest => stringBody cs rest
  | _ => .error ⟨.expectedName, cs.length⟩

mutual
/-- The value in front, in which lists and objects may stand in one another to some depth and integers have
so many digits. The fuel bounds the steps; twice the length of the text is enough. -/
def value (digits : Nat) : Nat → Nat → Text → Result Json
  | _, 0, cs => .error ⟨.expectedValue, cs.length⟩
  | depth, fuel + 1, cs =>
    match depth, cs with
    | _, '"' :: _ => (name cs).map fun (text, rest) => (.str text, rest)
    | 0, '[' :: _ => .error ⟨.tooDeep false, cs.length⟩
    | depth + 1, '[' :: rest =>
      match skipBlanks rest with
      | ']' :: rest => .ok (.arr [], rest)
      | rest => (items digits depth fuel rest).map fun (vs, rest) => (.arr vs, rest)
    | 0, '{' :: _ => .error ⟨.tooDeep true, cs.length⟩
    | depth + 1, '{' :: rest =>
      match skipBlanks rest with
      | '}' :: rest => .ok (.obj [], rest)
      | rest => (members digits depth fuel rest).map fun (vs, rest) => (.obj (Fields.ofEntries vs), rest)
    | _, cs => scalar digits cs

/-- Values separated by commas, up to and with the closing bracket. -/
def items (digits : Nat) : Nat → Nat → Text → Result (List Json)
  | _, 0, cs => .error ⟨.expectedValue, cs.length⟩
  | depth, fuel + 1, cs =>
    match value digits depth fuel cs with
    | .error e => .error e
    | .ok (v, rest) =>
      match skipBlanks rest with
      | ']' :: rest => .ok ([v], rest)
      | ',' :: rest => (items digits depth fuel (skipBlanks rest)).map fun (vs, rest) => (v :: vs, rest)
      | rest => .error ⟨.expectedComma, rest.length⟩

/-- Entries separated by commas, up to and with the closing brace. -/
def members (digits : Nat) : Nat → Nat → Text → Result (List (Text × Json))
  | _, 0, cs => .error ⟨.expectedValue, cs.length⟩
  | depth, fuel + 1, cs =>
    match name cs with
    | .error e => .error e
    | .ok (key, rest) =>
      match skipBlanks rest with
      | ':' :: rest =>
        match value digits depth fuel (skipBlanks rest) with
        | .error e => .error e
        | .ok (v, rest) =>
          match skipBlanks rest with
          | '}' :: rest => .ok ([(key, v)], rest)
          | ',' :: rest => (members digits depth fuel (skipBlanks rest)).map fun (vs, rest) => ((key, v) :: vs, rest)
          | rest => .error ⟨.expectedComma, rest.length⟩
      | rest => .error ⟨.expectedColon, rest.length⟩
end

/-- One value within the limits with blanks around it, and nothing else. -/
def document (digits depth : Nat) (cs : Text) : Except Stop Json :=
  match value digits depth (2 * cs.length + 2) (skipBlanks cs) with
  | .error e => .error e
  | .ok (v, rest) =>
    match skipBlanks rest with
    | [] => .ok v
    | rest => .error ⟨.extraData, rest.length⟩

/-- The value within the limits that a text holds. -/
def parseText (digits depth : Nat) (cs : Text) : Except ParseError Json :=
  match document digits depth cs with
  | .ok v => .ok v
  | .error stop => .error ⟨stop.fault, cs.length - stop.remaining⟩

end Json.Reader

namespace Json

/-- The value that a text holds. -/
def parse (text : Text) : Except ParseError Json := Reader.parseText text.length text.length text

/-- The value that a string holds as it was sent. -/
def parseSent [Stack] (text : String) : Except ParseError Json :=
  match Text.ofSent? text with
  | some text => Reader.parseText Text.maxDigits Stack.readingRoom text
  | none => .error ⟨.undecodable, 0⟩

end Json
end Questionnaire
