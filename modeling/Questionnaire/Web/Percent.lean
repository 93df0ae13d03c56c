import Questionnaire.Text.Encoding

/-!
# Percent signs in URLs

What may not stand in a part of a URL as it is, is written as bytes with a percent sign in front of each. A
percent sign in the given text stays, so that what is encoded already is not encoded again.

* `Percent.encode`: a part of a URL with its characters encoded where they must be.
* `Percent.decode`: a part of a URL with its percent signs resolved.
* `Percent.form`: parameters in a form.
-/

namespace Questionnaire.Percent

/-- The hexadecimal digit of a number below 16, a letter in upper case. -/
def upperHexDigit (n : Nat) : Char := Char.ofNat (if n < 10 then 48 + n else 55 + n)

/-- A byte after a percent sign. -/
def escapeByte (b : UInt8) : List Char := ['%', upperHexDigit (b.toNat / 16), upperHexDigit (b.toNat % 16)]

/-- The bytes of a character, each after a percent sign. -/
def escape (c : Char) : List Char := (String.singleton c).toUTF8.toList.flatMap escapeByte

/-- The characters that no part encodes. -/
def isUnreserved (c : Char) : Bool := c.isAlphanum || c = '-' || c = '.' || c = '_' || c = '~'

/-- Printable ASCII but for the given characters. -/
def printableExcept (excluded : List Char) (c : Char) : Bool :=
  32 ≤ c.toNat && c.toNat < 127 && !excluded.contains c

/-- May a character stand in a fragment? -/
def inFragment : Char → Bool := printableExcept [' ', '"', '<', '>', '\x60']

/-- May a character stand in a query? -/
def inQuery : Char → Bool := printableExcept [' ', '"', '#', '<', '>']

/-- May a character stand in a path? -/
def inPath : Char → Bool := printableExcept [' ', '"', '#', '<', '>', '?', '\x60', '\x7b', '\x7d']

/-- May a character stand in the user information? -/
def inUserinfo : Char → Bool :=
  printableExcept [' ', '"', '#', '<', '>', '?', '\x60', '\x7b', '\x7d', '/', ';', '=', '@', '[', '\\', ']', '^', '|']

/-- May a character stand in a host? -/
def inHost (c : Char) : Bool :=
  isUnreserved c || ['!', '$', '&', '\'', '(', ')', '*', '+', ',', ';', '=', '"', '\x60', '\x7b', '\x7d', '%', '|',
    '\\'].contains c

/-- Encodes the characters that may not stand in a part. -/
def encodeChars (allowed : Char → Bool) (s : String) : String :=
  String.ofList (s.toList.flatMap fun c => if isUnreserved c || allowed c then [c] else escape c)

/-- Encodes the code points that may not stand in a part; they are taken one at a time. -/
def encode (allowed : Char → Bool) (t : Text) : Except EncodingFault String :=
  match t.findSome? fun p => Text.utf8Fault? [p] with
  | some e => .error e
  | none => .ok (encodeChars allowed t.string)

/-- The bytes of a text whose percent signs are resolved. -/
def decodedBytes : List Char → List UInt8
  | '%' :: a :: b :: rest =>
    match Text.hexValue? a, Text.hexValue? b with
    | some high, some low => (high * 16 + low).toUInt8 :: decodedBytes rest
    | _, _ => 37 :: decodedBytes (a :: b :: rest)
  | c :: rest => (String.singleton c).toUTF8.toList ++ decodedBytes rest
  | [] => []

/-- The text with its percent signs resolved. -/
def decode (s : String) : String := Text.ofBytes (decodedBytes s.toList)

/-- How a character is written in a form: a blank as `+`, an unreserved character as it is, any other as bytes
after percent signs. -/
def formChar (c : Char) : List Char := if c = ' ' then ['+'] else if isUnreserved c then [c] else escape c

/-- A text in a form. -/
def formText (t : Text) : Except EncodingFault String := do
  return String.ofList ((← t.utf8).toList.flatMap formChar)

/-- A parameter in a form. -/
def formParameter (parameter : Text × Text) : Except EncodingFault String := do
  let key ← formText parameter.1
  let value ← formText parameter.2
  return key ++ "=" ++ value

/-- Parameters in a form. -/
def form (parameters : List (Text × Text)) : Except EncodingFault String := do
  return "&".intercalate (← parameters.mapM formParameter)

end Questionnaire.Percent
