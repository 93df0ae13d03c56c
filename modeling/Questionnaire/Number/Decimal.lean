import Questionnaire.Number.Binary64

/-!
# Doubles in decimal

Every finite double is an exact decimal with 1074 places, since a unit `2⁻¹⁰⁷⁴` is `5¹⁰⁷⁴ · 10⁻¹⁰⁷⁴`.
The shortest decimal that reads back is found on the grids of 1, 2, … 17 digits by comparing whole
numbers; the layouts in which it is written are values of `Decimal.Layout`.

* `Decimal.shortest`: the fewest digits that read back, the nearest such decimal, a tie to the even digit.
* `Decimal.toBinary64`: the double nearest to a decimal.
* `Binary64.text`: the text of a double in a layout.
-/

namespace Questionnaire

/-- The non-negative decimal number `digits · 10 ^ exponent`. -/
structure Decimal where
  digits : Nat
  exponent : Int
deriving DecidableEq, Repr, Inhabited

namespace Decimal

/-- The decimal digits of a number, most significant first. -/
def digitsOf (n : Nat) : List Char := Nat.toDigits 10 n

/-- The double nearest to the decimal, with the given sign. Decimals far outside the range of doubles
are settled by their size alone. -/
def toBinary64 (d : Decimal) (negative : Bool) : Binary64 :=
  let magnitude : Int := (digitsOf d.digits).length + d.exponent
  if d.digits = 0 ∨ magnitude < -330 then .finite negative 0 0
  else if magnitude > 310 then .infinite negative
  else if 0 ≤ d.exponent then .ofRatio negative (d.digits * 10 ^ d.exponent.toNat) 1
  else .ofRatio negative d.digits (10 ^ (-d.exponent).toNat)

/-- Removes trailing zeros from the digits, at most `fuel` of them. -/
def trim : Nat → Decimal → Decimal
  | 0, d => d
  | fuel + 1, d =>
      if d.digits % 10 = 0 ∧ d.digits ≠ 0 then trim fuel ⟨d.digits / 10, d.exponent + 1⟩ else d

/-- The decimals `k · grid` that read back as the double of `significand` and `shift` form an interval:
`k · grid`, `grid` and `unit` are in places of `10⁻¹⁰⁷⁴`, and all is taken four times to keep the ends whole. -/
def readsBack (significand shift unit : Nat) (value : Nat) : Bool :=
  let below := if significand = 2 ^ 52 ∧ shift ≠ 0 then 1 else 2
  let low := (4 * significand - below) * unit
  let high := (4 * significand + 2) * unit
  if significand % 2 = 0 then low ≤ 4 * value && 4 * value ≤ high
  else low < 4 * value && 4 * value < high

/-- The decimal on a grid that reads back and is nearest to the exact value, if any reads back. -/
def onGrid? (significand shift unit grid : Nat) : Option Nat :=
  let exact := significand * unit
  let floor := exact / grid
  let rest := exact % grid
  let lower := readsBack significand shift unit (floor * grid)
  let upper := readsBack significand shift unit ((floor + 1) * grid)
  match lower, upper with
  | true, false => some floor
  | false, true => some (floor + 1)
  | true, true => if 2 * rest < grid ∨ (2 * rest = grid ∧ floor % 2 = 0) then some floor else some (floor + 1)
  | false, false => none

/-- The shortest decimal that reads back as the double `significand · 2 ^ shift` units. -/
def shortest (significand shift : Nat) : Decimal :=
  let unit := 2 ^ shift * 5 ^ 1074
  let exact := significand * unit
  let places := (digitsOf exact).length
  let found := (List.range 17).findSome? fun i =>
    let dropped := places - (i + 1)
    (onGrid? significand shift unit (10 ^ dropped)).map fun k => Decimal.mk k (dropped - 1074)
  trim 20 (found.getD ⟨exact, -1074⟩)

/-- How the text of a double is laid out. -/
structure Layout where
  /-- The least decimal exponent written without an exponent. -/
  leastPositional : Int
  /-- The greatest decimal exponent written without an exponent. -/
  greatestPositional : Int
  /-- What follows a whole number. -/
  wholeSuffix : String
  /-- The least number of digits of a written exponent. -/
  exponentWidth : Nat
  /-- Is a negative zero told apart? -/
  signedZero : Bool
  /-- The text of NaN. -/
  nan : String
  /-- The text of the positive infinity. -/
  infinity : String

namespace Layout

/-- Numbers as they stand in messages: positional from `10⁻⁴` up to below `10¹⁶`, whole numbers with `.0`. -/
def message : Layout := ⟨-4, 15, ".0", 2, true, "nan", "inf"⟩

/-- Numbers as they stand in JSON documents. -/
def json : Layout := { message with nan := "NaN", infinity := "Infinity" }

/-- Numbers as a browser prints them: positional from `10⁻⁶` up to below `10²¹`, whole numbers bare. -/
def browser : Layout := ⟨-6, 20, "", 1, false, "NaN", "Infinity"⟩

end Layout

/-- The text of a positive decimal. -/
def render (layout : Layout) (d : Decimal) : String :=
  let digits := digitsOf d.digits
  let exponent : Int := digits.length - 1 + d.exponent
  if exponent < layout.leastPositional ∨ layout.greatestPositional < exponent then
    let mantissa := match digits with
      | [] => []
      | [c] => [c]
      | c :: rest => c :: '.' :: rest
    let size := digitsOf exponent.natAbs
    let padding := List.replicate (layout.exponentWidth - size.length) '0'
    let sign := if exponent < 0 then '-' else '+'
    String.ofList (mantissa ++ 'e' :: sign :: (padding ++ size))
  else if 0 ≤ d.exponent then
    String.ofList (digits ++ List.replicate d.exponent.toNat '0') ++ layout.wholeSuffix
  else if 0 ≤ exponent then
    let whole := (exponent + 1).toNat
    String.ofList (digits.take whole ++ '.' :: digits.drop whole)
  else
    String.ofList ('0' :: '.' :: (List.replicate (-exponent - 1).toNat '0' ++ digits))

end Decimal

/-- The text of a double in a layout. -/
def Binary64.text (layout : Decimal.Layout) : Binary64 → String
  | .nan => layout.nan
  | .infinite negative => (if negative then "-" else "") ++ layout.infinity
  | .finite negative 0 _ =>
      (if negative && layout.signedZero then "-" else "") ++ "0" ++ layout.wholeSuffix
  | .finite negative significand shift =>
      (if negative then "-" else "") ++ (Decimal.shortest significand shift).render layout

end Questionnaire
