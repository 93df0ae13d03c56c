/-!
# Bytes as text

Bytes in base 64: three bytes make four characters, and a group that is not full is padded with `=`.

* `Text.base64`: the text of bytes.
-/

namespace Questionnaire.Text

/-- The character of a number below 64. -/
def sextetChar (n : Nat) : Char :=
  if n < 26 then Char.ofNat (65 + n)
  else if n < 52 then Char.ofNat (71 + n)
  else if n < 62 then Char.ofNat (n - 4)
  else if n = 62 then '+'
  else '/'

/-- The four characters of a number below `2²⁴`. -/
def sextets (n : Nat) : List Char :=
  [sextetChar (n / 64 / 64 / 64 % 64), sextetChar (n / 64 / 64 % 64), sextetChar (n / 64 % 64), sextetChar (n % 64)]

/-- The characters of bytes. -/
def base64Chars : List UInt8 → List Char
  | a :: b :: c :: rest => sextets ((a.toNat * 256 + b.toNat) * 256 + c.toNat) ++ base64Chars rest
  | [a, b] => (sextets ((a.toNat * 256 + b.toNat) * 256)).take 3 ++ ['=']
  | [a] => (sextets (a.toNat * 256 * 256)).take 2 ++ ['=', '=']
  | [] => []

/-- The text of the bytes of a text. -/
def base64 (s : String) : String := String.ofList (base64Chars s.toUTF8.toList)

end Questionnaire.Text
