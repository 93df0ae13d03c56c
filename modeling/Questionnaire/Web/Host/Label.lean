import Questionnaire.Text.Composition
import Questionnaire.Text.Quoted
import Questionnaire.Web.Host.Context
import Questionnaire.Web.Host.Punycode

/-!
# Labels of host names

A host name is labels with dots between them. A label is composed text that does not start with a mark, has
no hyphen at its ends nor two at its third and fourth place, and holds nothing but characters that may
stand where they stand; one with letters written from right to left keeps to one direction.

* `NameFault`: why a text is no name.
* `Label.check`, `Label.checkAscii`: is a text a label, or the ASCII form of one?
* `Label.toAscii?`: the ASCII form of a label.
-/

namespace Questionnaire

/-- Why a text is no name of a host. -/
inductive NameFault where
  | tooLong
  /-- An ASCII form with nothing after its mark. -/
  | emptyForm
  /-- An ASCII form with a hyphen at its end. -/
  | openForm
  /-- An ASCII form that no label has. -/
  | strangeForm
  | emptyLabel
  | notComposed
  | hyphensWithin
  | hyphenAtEnd
  | startsWithMark
  | joinerMisplaced (p : CodePoint) (position : Nat) (label : Text)
  | signMisplaced (p : CodePoint) (position : Nat) (label : Text)
  | notAllowed (p : CodePoint) (position : Nat) (label : Text)
  | unknownDirection (position : Nat) (label : Text)
  | startsUndirected (label : Text)
  /-- A code point that is written against the direction of its label. -/
  | againstDirection (position : Nat) (rightToLeft : Bool)
  | mixedNumbers
  | endsUndirected
deriving DecidableEq, Repr

/-- The wording of a name fault. -/
def NameFault.message : NameFault → Text
  | tooLong => "Domain too long"
  | emptyForm => "Malformed A-label, no Punycode eligible content found"
  | openForm => "A-label must not end with a hyphen"
  | strangeForm => "Invalid A-label"
  | emptyLabel => "Empty Label"
  | notComposed => "Label must be in Normalization Form C"
  | hyphensWithin => "Label has disallowed hyphens in 3rd and 4th position"
  | hyphenAtEnd => "Label must not start or end with a hyphen"
  | startsWithMark => "Label begins with an illegal combining character"
  | joinerMisplaced p position label =>
    "Unknown codepoint adjacent to joiner " ++ Text.codeNotation p ++ " at position " ++ toString position
      ++ " in " ++ Text.quoted label
  | signMisplaced p position label =>
    "Codepoint " ++ Text.codeNotation p ++ " not allowed at position " ++ toString position
      ++ " in " ++ Text.quoted label
  | notAllowed p position label =>
    "Codepoint " ++ Text.codeNotation p ++ " at position " ++ toString position
      ++ " of " ++ Text.quoted label ++ " not allowed"
  | unknownDirection position label =>
    "Unknown directionality in label " ++ Text.quoted label ++ " at position " ++ toString position
  | startsUndirected label =>
    "First codepoint in label " ++ Text.quoted label ++ " must be directionality L, R or AL"
  | againstDirection position rightToLeft =>
    let direction := if rightToLeft then "right-to-left" else "left-to-right"
    "Invalid direction for codepoint at position " ++ toString position ++ " in a " ++ direction ++ " label"
  | mixedNumbers => "Can not mix numeral types in a right-to-left label"
  | endsUndirected => "Label ends with illegal codepoint directionality"

namespace Label

open Text (Direction direction)

/-! ## Checking -/

/-- Is a text composed, with its hyphens where they may be and no mark in front? -/
def checkForm (label : Text) : Except NameFault Unit :=
  if label = [] then .error .emptyLabel
  else if !Text.isComposed label then .error .notComposed
  else if (label.drop 2).take 2 = "--" then .error .hyphensWithin
  else if label.head? = some '-' ∨ label.getLast? = some '-' then .error .hyphenAtEnd
  else if (label.head?.map Text.isMark).getD false then .error .startsWithMark
  else .ok ()

/-- Why a code point of a label may not stand between what is before it, the nearest first, and what is after
it. -/
def placeFault? (label : Text) (p : CodePoint) (before after : Text) : Option NameFault :=
  let position := before.length + 1
  match Host.characterClass p with
  | .anywhere => none
  | .joiner => if Host.joinerFits p before after then none else some (.joinerMisplaced p position label)
  | .inContext => if Host.signFits p before after then none else some (.signMisplaced p position label)
  | .nowhere => some (.notAllowed p position label)

/-- May every code point of a label stand where it stands, after what is before, the nearest first? -/
def checkPlaces (label before : Text) : Text → Except NameFault Unit
  | [] => .ok ()
  | p :: after =>
    match placeFault? label p before after with
    | some e => .error e
    | none => checkPlaces label (p :: before) after

/-- Is a direction that of a letter written from right to left, or of a number that goes with such letters? -/
def isRightToLeft (d : Direction) : Bool := [Direction.rightToLeft, .arabicLetter, .arabicNumber].contains d

/-- Is a direction that of a number? -/
def isNumber (d : Direction) : Bool := [Direction.arabicNumber, .europeanNumber].contains d

/-- Are directions, from a position on, those of a label from right to left? Its numbers are of one kind, of
which one may have been met. -/
def checkRightToLeft (number : Option Direction) (position : Nat) : List Direction → Except NameFault Unit
  | [] => .ok ()
  | d :: rest =>
    if d = .leftToRight then .error (.againstDirection position true)
    else if isNumber d then
      if number.all (· = d) then checkRightToLeft (some d) (position + 1) rest else .error .mixedNumbers
    else checkRightToLeft number (position + 1) rest

/-- Do directions end, but for marks, with a letter from right to left or a number? -/
def endsDirected (directions : List Direction) : Bool :=
  ((directions.filter (· ≠ .mark)).getLast?.map fun d => isRightToLeft d || isNumber d).getD false

/-- Does a label keep to one direction? Only one with letters from right to left can fail to, and such a
letter must be its first. -/
def checkDirection (label : Text) : Except NameFault Unit :=
  let directions := label.map direction
  match directions.idxOf? .unknown, directions.findIdx? isRightToLeft with
  | some i, _ => .error (.unknownDirection (i + 1) label)
  | none, none => .ok ()
  | none, some i =>
    match directions.head? with
    | some .leftToRight => .error (.againstDirection (i + 1) false)
    | some .rightToLeft | some .arabicLetter => do
      checkRightToLeft none 1 directions
      if endsDirected directions then .ok () else .error .endsUndirected
    | _ => .error (.startsUndirected label)

/-- Is a text a label? -/
def check (label : Text) : Except NameFault Unit := do
  checkForm label
  checkPlaces label [] label
  checkDirection label

/-! ## The ASCII form -/

/-- What labels in their ASCII form start with. -/
def asciiMark : Text := "xn--"

/-- Is an ASCII text a label, in its ASCII form or one that needs none? Each label has one ASCII form. -/
def checkAscii (t : Text) : Except NameFault Unit :=
  let t := t.lowerAscii
  if asciiMark.isPrefixOf t then
    let form := t.drop asciiMark.length
    if form = [] then .error .emptyForm
    else if form.getLast? = some '-' then .error .openForm
    else
      match Punycode.decode form with
      | none => .error .strangeForm
      | some label => do
        check label
        if Punycode.encode label = form then .ok () else .error .strangeForm
  else check t

/-- The longest label in its ASCII form. -/
def maxLength : Nat := 63

/-- The ASCII form of a label. -/
def toAscii? (label : Text) : Option Text :=
  let isAscii := label.all Punycode.isBasic
  let ascii := if isAscii then label else asciiMark ++ Punycode.encode label
  let checked := if isAscii then checkAscii label else check label
  if checked.isOk && ascii.length ≤ maxLength then some ascii else none

end Label
end Questionnaire
