/-!
# Double-precision numbers

A finite double is a sign and a whole number of units of `2⁻¹⁰⁷⁴`, the least positive double; the
number of units is a significand below `2⁵³` shifted left. Nothing here is computed by floating-point
hardware: every number is the correct rounding of an exact ratio.

* `ofRatio`: the double nearest to a ratio, a tie going to the even significand.
* `ofInt?`: the double nearest to an integer, unless the integer is beyond all of them.
* `scaled`: the exact value of a double, in units.
-/

namespace Questionnaire

/-- A power is that of the core library, also where algebra brings one of its own. -/
@[default_instance 20000]
instance (priority := 1100) corePow {α : Type} [NatPow α] : Pow α Nat := instPowNat

/-- A double-precision number. A finite one has the magnitude `significand · 2 ^ shift` units. -/
inductive Binary64 where
  | nan
  | infinite (negative : Bool)
  | finite (negative : Bool) (significand shift : Nat)
deriving DecidableEq, Repr, Inhabited

namespace Binary64

/-- How many units make one. -/
def unitsPerOne : Nat := 2 ^ 1074

/-- The whole number nearest to `num / den`; of two equally near ones, the even one. -/
def roundDiv (num den : Nat) : Nat :=
  let floor := num / den
  let rest := num % den
  if 2 * rest < den then floor
  else if den < 2 * rest then floor + 1
  else if floor % 2 = 0 then floor else floor + 1

/-- The double with the given significand, at most `2⁵³`, and shift; infinite above the largest finite double. -/
def pack (negative : Bool) (significand shift : Nat) : Binary64 :=
  let carried := significand = 2 ^ 53
  let significand := if carried then 2 ^ 52 else significand
  let shift := if carried then shift + 1 else shift
  if shift ≤ 2045 then .finite negative significand shift else .infinite negative

/-- The double nearest to `num / den` with the given sign. -/
def ofRatio (negative : Bool) (num den : Nat) : Binary64 :=
  let units := num * unitsPerOne
  let shift := (units / den).log2 - 52
  pack negative (roundDiv units (den * 2 ^ shift)) shift

/-- The double nearest to an integer; `none` when that would be infinite. -/
def ofInt? (n : Int) : Option Binary64 :=
  match ofRatio (n < 0) n.natAbs 1 with
  | .finite negative significand shift => some (.finite negative significand shift)
  | _ => none

/-- The positive zero. -/
def zero : Binary64 := .finite false 0 0

def isNaN : Binary64 → Bool
  | .nan => true
  | _ => false

def isFinite : Binary64 → Bool
  | .finite .. => true
  | _ => false

/-- The exact value in units; `none` unless the double is finite. -/
def scaled : Binary64 → Option Int
  | .finite true significand shift => some (-(significand * 2 ^ shift : Nat))
  | .finite false significand shift => some (significand * 2 ^ shift : Nat)
  | _ => none

/-- Is the value the integer `n`? -/
def equalsInt (x : Binary64) (n : Int) : Bool :=
  x.scaled == some (n * unitsPerOne)

/-- Equality of values: the two zeros are equal, and NaN equals nothing. -/
def equals : Binary64 → Binary64 → Bool
  | .nan, _ => false
  | .infinite s, .infinite t => s == t
  | .finite s m p, .finite t n q => (Binary64.finite s m p).scaled == (Binary64.finite t n q).scaled
  | _, _ => false

/-- The integer that the double is; `none` if it has a fraction or is not finite. -/
def toInt? (x : Binary64) : Option Int :=
  match x.scaled with
  | some units => if units % unitsPerOne = 0 then some (units / unitsPerOne) else none
  | none => none

/-- Is the value zero, of either sign? -/
def isZero (x : Binary64) : Bool := x.scaled == some 0

/-- The ratio `num / den` has fewer units than `x` has; never so for NaN. -/
def gtRatio (x : Binary64) (num den : Nat) : Bool :=
  match x with
  | .nan => false
  | .infinite negative => !negative
  | .finite true _ _ => false
  | .finite false significand shift => num * unitsPerOne < significand * 2 ^ shift * den

/-- The double times `2 ^ k`, correctly rounded. -/
def scaleBy (x : Binary64) (k : Nat) : Binary64 :=
  match x with
  | .finite negative significand shift =>
      ofRatio negative (significand * 2 ^ shift * 2 ^ k) unitsPerOne
  | other => other

end Binary64
end Questionnaire
