import Questionnaire.Text.Basic

/-!
# Digits

The decimal digits of the scripts of Unicode 14: in each script ten code points in a row, from zero
to nine.

* `Text.isDigit`: is a character one of the ten ASCII digits?
* `Text.digitValue?`: the value of a decimal digit of any script.
* `Text.hexValue?`: the value of a hexadecimal digit.
* `Text.hexDigits`: the hexadecimal digits of a number.
-/

namespace Questionnaire.Text

/-- The most digits that a whole number may have, to be read or to be told. -/
def maxDigits : Nat := 4300

/-- The wording where a whole number has more digits, which may be counted in it. -/
def tooManyDigits (count : Text) : Text :=
  "Exceeds the limit (" ++ toString maxDigits ++ " digits) for integer string conversion" ++ count
    ++ "; use sys.set_int_max_str_digits() to increase the limit"

/-- Is a character one of the ten ASCII digits? -/
def isDigit (c : CodePoint) : Bool := '0' ≤ c && c ≤ '9'

/-- The number that ASCII digits denote. -/
def natOfDigits (digits : Text) : Nat := digits.foldl (fun n c => n * 10 + (c.toNat - 48)) 0

/-- The value of a hexadecimal digit. -/
def hexValue? (c : CodePoint) : Option Nat :=
  if isDigit c then some (c.toNat - 48)
  else if 'a' ≤ c && c ≤ 'f' then some (c.toNat - 87)
  else if 'A' ≤ c && c ≤ 'F' then some (c.toNat - 55)
  else none

/-- The hexadecimal digit of a number below 16. -/
def hexDigit (n : Nat) : Char := Char.ofNat (if n < 10 then 48 + n else 87 + n)

/-- The last `width` hexadecimal digits of a number. -/
def hexDigits : Nat → Nat → Text
  | 0, _ => []
  | width + 1, n => hexDigits width (n / 16) ++ [.char (hexDigit (n % 16))]

/-- The number of a code point as it is told: with at least four hexadecimal digits. -/
def codeNotation (p : CodePoint) : Text :=
  let n := p.toNat
  let width := if n < 0x10000 then 4 else if n < 0x100000 then 5 else 6
  "U+" ++ (hexDigits width n).upperAscii

/-- The code points of the zeros, in ascending order. -/
def zeros : List Nat :=
  [0x30, 0x660, 0x6F0, 0x7C0, 0x966, 0x9E6, 0xA66, 0xAE6, 0xB66, 0xBE6, 0xC66,
   0xCE6, 0xD66, 0xDE6, 0xE50, 0xED0, 0xF20, 0x1040, 0x1090, 0x17E0, 0x1810, 0x1946,
   0x19D0, 0x1A80, 0x1A90, 0x1B50, 0x1BB0, 0x1C40, 0x1C50, 0xA620, 0xA8D0, 0xA900, 0xA9D0,
   0xA9F0, 0xAA50, 0xABF0, 0xFF10, 0x104A0, 0x10D30, 0x11066, 0x110F0, 0x11136, 0x111D0, 0x112F0,
   0x11450, 0x114D0, 0x11650, 0x116C0, 0x11730, 0x118E0, 0x11950, 0x11C50, 0x11D50, 0x11DA0, 0x16A60,
   0x16AC0, 0x16B50, 0x1D7CE, 0x1D7D8, 0x1D7E2, 0x1D7EC, 0x1D7F6, 0x1E140, 0x1E2F0, 0x1E950, 0x1FBF0]

/-- The value of a decimal digit of any script. -/
def digitValue? (c : CodePoint) : Option Nat :=
  (zeros.find? fun z => z ≤ c.toNat && c.toNat < z + 10).map (c.toNat - ·)

end Questionnaire.Text
