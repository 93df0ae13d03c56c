import Questionnaire.Text.Digits

/-!
# Addresses in numbers

A host may be given by its address: four numbers with points between them, or up to eight groups of
hexadecimal digits with colons between them, of which one run of zeros may be left out. The last two groups
may be written as four numbers, and a zone may follow after a percent sign.

* `Address.isFourNumbers`, `Address.isGroups`: is a text such an address?
* `Address.resemblesFourNumbers`: is a text taken for an address of four numbers, right or wrong?
-/

namespace Questionnaire.Address

open Text (isDigit natOfDigits hexValue? pieces)

/-- Is a text a number below 256 without needless zeros? -/
def isOctet (t : Text) : Bool :=
  !t.isEmpty && t.all isDigit && t.length ≤ 3 && natOfDigits t < 256 && (t.length = 1 || t.head? ≠ some '0')

/-- Is a text an address of four numbers? -/
def isFourNumbers (t : Text) : Bool :=
  let parts := pieces '.' t
  parts.length = 4 && parts.all isOctet

/-- Is a text taken for an address of four numbers? It is if it is four runs of digits with points between
them. -/
def resemblesFourNumbers (t : Text) : Bool :=
  let parts := pieces '.' t
  parts.length = 4 && parts.all fun part => !part.isEmpty && part.all isDigit

/-- Is a text a group of hexadecimal digits? -/
def isGroup (t : Text) : Bool :=
  !t.isEmpty && t.length ≤ 4 && t.all fun p => (hexValue? p).isSome

/-- The groups of a text, the last two of which may be written as four numbers. -/
def groups? (t : Text) : Option (List Text) :=
  let parts := pieces ':' t
  match parts.getLast? with
  | some last =>
    if last.contains '.' then if isFourNumbers last then some (parts.dropLast ++ (["0", "0"] : List Text)) else none
    else some parts
  | none => some parts

/-- How many groups an address has. -/
def groupCount : Nat := 8

/-- Do groups make an address? An empty group between others stands for the zeros that are left out; there
is at most one, and at either end only next to a colon. -/
def groupsFit (parts : List Text) : Bool :=
  let inner := parts.tail.dropLast
  let ends := [parts.head?, parts.getLast?].filterMap id
  match inner.filter List.isEmpty with
  | [] => parts.length = groupCount && parts.all isGroup
  | [_] =>
    let before := inner.takeWhile (!List.isEmpty ·)
    let after := (inner.dropWhile (!List.isEmpty ·)).tail
    let leading := parts.head? ≠ some [] || before.isEmpty
    let trailing := parts.getLast? ≠ some [] || after.isEmpty
    let written := (inner ++ ends).filter (!List.isEmpty ·)
    leading && trailing && parts.length ≤ groupCount + 1 && written.length < groupCount && written.all isGroup
  | _ => false

/-- Is a text an address of groups, perhaps with a zone? -/
def isGroups (t : Text) : Bool :=
  let (address, zone) := Text.splitAt '%' t
  let zoneFits := zone.all fun zone => !zone.isEmpty && !zone.contains '%'
  zoneFits && !t.contains '/'
    && ((groups? address).map fun parts => 3 ≤ (pieces ':' address).length && groupsFit parts).getD false

end Questionnaire.Address
