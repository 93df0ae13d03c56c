import Questionnaire.Text.Blank
import Questionnaire.Text.Digits

/-!
# Colours

A colour is author text, so it is used in a stylesheet only if it is made of characters that cannot end
a declaration. Its parts are read from three or six hexadecimal digits.

* `Color.safe`: the colour, or a default.
* `Color.parts`: red, green and blue; black for what is no hexadecimal colour.
-/

namespace Questionnaire.Color

/-- The characters of a colour: letters, digits, blanks and `#(),.%-`. -/
def isAllowed (p : CodePoint) : Bool := p.isAlphanum || Text.isBlank p || ("#(),.%-" : Text).contains p

/-- The colour without blanks around it if all its characters are allowed, else the default. -/
def safe (color : Text) (default : String) : String :=
  let color := Text.strip color
  if !color.isEmpty && color.all isAllowed then color.string else default

/-- The digits of a colour: those after any `#`, each doubled if there are three. -/
def hexDigits (color : Text) : Text :=
  let digits := (Text.strip color).dropWhile (· = .char '#')
  if digits.length = 3 then digits.flatMap fun p => [p, p] else digits

/-- Red, green and blue, separated by commas. -/
def parts (color : Text) : String :=
  match (hexDigits color).mapM Text.hexValue? with
  | some [r, r', g, g', b, b'] =>
    ", ".intercalate (([r * 16 + r', g * 16 + g', b * 16 + b'] : List Nat).map toString)
  | _ => "0, 0, 0"

end Questionnaire.Color
