import Questionnaire.Text.Basic

/-!
# Blank characters

The characters of Unicode that count as blank: those of bidirectional type `WS`, `B` or `S` or of
category `Zs`, among them the four information separators `U+001C` to `U+001F`, but neither the
zero-width space nor the byte order mark.

* `strip`: a text without the blanks at its ends.
* `isWhiteSpace`: the blanks without the four separators, which numerals may have around them.
-/

namespace Questionnaire.Text

/-- Is a character blank? -/
def isBlank (c : CodePoint) : Bool :=
  let n := c.toNat
  (9 ≤ n && n ≤ 13) || (28 ≤ n && n ≤ 32) || n == 0x85 || n == 0xA0 || n == 0x1680 ||
    (0x2000 ≤ n && n ≤ 0x200A) || n == 0x2028 || n == 0x2029 || n == 0x202F || n == 0x205F || n == 0x3000

/-- Is a character white space? -/
def isWhiteSpace (c : CodePoint) : Bool := isBlank c && !(28 ≤ c.toNat && c.toNat ≤ 31)

/-- The text without the characters at either end that pass a test. -/
def trim (test : CodePoint → Bool) (t : Text) : Text := ((t.dropWhile test).reverse.dropWhile test).reverse

/-- The text without the blanks at either end. -/
def strip (t : Text) : Text := trim isBlank t

end Questionnaire.Text
