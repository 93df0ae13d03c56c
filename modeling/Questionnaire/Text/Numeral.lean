import Questionnaire.Text.Blank
import Questionnaire.Text.Digits

/-!
# Numerals in texts

Whole numbers as people write them: a sign, digits, and single underscores between digits, with white
space around the whole.

* `Text.wholeNumber`: the number that a text denotes, in digits of any script.
* `Text.wholeDecimal`: the same for ASCII digits, with zeros in front of the number, of its sign or of an
  underscore, and perhaps with a point and zeros after it.
* `Text.isDecimal`: does a text denote a number, whole or not?
-/

namespace Questionnaire.Text

/-- Why a text denotes no whole number. -/
inductive NumeralFault where
  | malformed
  | tooManyDigits (count : Nat)
deriving DecidableEq, Repr

/-- A sign, if there is one, and what follows. -/
def signed : Text → Bool × Text
  | '-' :: rest => (true, rest)
  | '+' :: rest => (false, rest)
  | cs => (false, cs)

/-- The number with a sign. -/
def withSign (negative : Bool) (n : Nat) : Int := if negative then -(n : Int) else n

/-- Does every underscore stand between two characters that are none? -/
def underscoresFit : Text → Bool
  | [] => true
  | '_' :: _ => false
  | [_] => true
  | _ :: '_' :: rest => !rest.isEmpty && underscoresFit rest
  | _ :: c :: rest => underscoresFit (c :: rest)

/-- The number whose decimal digits have the given values. -/
def natOfValues (digits : List Nat) : Nat := digits.foldl (fun n digit => n * 10 + digit) 0

/-- The whole number that digits of any script denote, with single underscores between them. Too many
digits are a fault of their own, whatever follows them. -/
def digitsNumber (cs : Text) : Except NumeralFault Nat :=
  let inNumeral := fun c : CodePoint => c = '_' || (digitValue? c).isSome
  let numeral := cs.takeWhile inNumeral
  let digits := numeral.filterMap digitValue?
  if !underscoresFit numeral then .error .malformed
  else if maxDigits < digits.length then .error (.tooManyDigits digits.length)
  else if digits.isEmpty || !(cs.dropWhile inNumeral).isEmpty then .error .malformed
  else .ok (natOfValues digits)

/-- The whole number that a text denotes, in digits of any script. -/
def wholeNumber (t : Text) : Except NumeralFault Int :=
  let (negative, digits) := signed (trim isWhiteSpace t)
  (digitsNumber digits).map (withSign negative)

/-- A number in its plain form: perhaps a minus sign, and digits that start with a zero only if there is
no other. A text that starts with too many digits is too long, whatever follows them. -/
def plainNumber (t : Text) : Except NumeralFault Int :=
  let negative := t.head? = some '-'
  let unsigned := if negative then t.tail else t
  let digits := unsigned.takeWhile isDigit
  if digits.head? ≠ some '0' ∧ maxDigits < digits.length then .error (.tooManyDigits digits.length)
  else if digits = [] ∨ digits.length < unsigned.length ∨ digits.head? = some '0' ∧ digits ≠ "0" then
    .error .malformed
  else .ok (withSign negative (natOfDigits digits))

/-- A numeral without the zeros in front, and without underscores among these. A zero that nothing but a
point follows stays, and so does the last character of one that is nothing else. -/
def withoutLeadingZeros? (cs : Text) : Option Text :=
  let isZero := fun c : CodePoint => c = '0' || c = '_'
  let zeros := if cs.head? = some '0' then cs.takeWhile isZero else []
  match zeros.getLast?, cs.drop zeros.length with
  | last, [] => last.map fun c => [c]
  | last, c :: rest =>
    if isDigit c || c = '-' then some (c :: rest)
    else if c = '.' then last.map fun d => d :: c :: rest
    else none

/-- A numeral without a point that zeros and nothing else follow. -/
def withoutZeroPlaces (cs : Text) : Text :=
  let inWhole := fun c : CodePoint => c ≠ '.'
  let places := (cs.dropWhile inWhole).tail
  if !places.isEmpty && places.all (· = .char '0') then cs.takeWhile inWhole else cs

/-- A numeral in its plain form, if it can be brought into it. -/
def plainForm? (cs : Text) : Option Text :=
  let cs := trim isWhiteSpace cs
  let unsigned := if cs.head? = some '+' then cs.tail else cs
  if cs.head? = some '+' ∧ unsigned.head? = some '-' then none
  else
    let negative := unsigned.head? = some '-'
    match withoutLeadingZeros? (if negative then unsigned.tail else unsigned) with
    | none => none
    | some numeral =>
      let numeral := withoutZeroPlaces numeral
      if negative ∧ numeral.head? = some '-' ∨ !underscoresFit numeral then none
      else some ((if negative then "-" else "") ++ numeral.filter (· ≠ .char '_'))

/-- The whole number that a text denotes, in its plain form or in one that can be brought into it. Too many
digits are a fault of their own only in a plain form. -/
def wholeDecimal (t : Text) : Except NumeralFault Int :=
  match plainNumber t with
  | .error .malformed =>
    match plainForm? t with
    | some plain => (plainNumber plain).mapError fun _ => .malformed
    | none => .error .malformed
  | outcome => outcome

/-- Are the characters an exponent with its mark, or nothing? -/
def isExponent : Text → Bool
  | [] => true
  | mark :: rest =>
    let digits := (signed rest).2
    (mark = 'e' || mark = 'E') && !digits.isEmpty && digits.all isDigit

/-- Are the characters a number with nothing around it? Infinity and NaN are numbers here. -/
def isPlainDecimal (cs : Text) : Bool :=
  let cs := (signed cs).2
  if (["inf", "infinity", "nan"] : List Text).contains cs.lowerAscii then true
  else
    let whole := cs.takeWhile isDigit
    let rest := cs.dropWhile isDigit
    let places := if rest.head? = some '.' then rest.tail.takeWhile isDigit else []
    let rest := if rest.head? = some '.' then rest.tail.dropWhile isDigit else rest
    !(whole ++ places).isEmpty && isExponent rest

/-- Does a text denote a number? It may have white space around it, or single underscores within it. -/
def isDecimal (t : Text) : Bool :=
  isPlainDecimal (trim isWhiteSpace t) || underscoresFit t && isPlainDecimal (t.filter (· ≠ .char '_'))

end Questionnaire.Text
