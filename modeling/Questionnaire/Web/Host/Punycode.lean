import Questionnaire.Text.Basic

/-!
# Labels in ASCII

A label with characters beyond ASCII is written with its ASCII characters first and the others behind
them, each as the distance to the one before it in the order of code points and, among equal ones, of
places. A distance is written in digits of base 36 whose thresholds adapt to the distances seen so far.

* `Punycode.encode`: the ASCII form of a label.
* `Punycode.decode`: the label of an ASCII form.
-/

namespace Questionnaire.Punycode

/-- How many digits there are. -/
def base : Nat := 36

/-- The bias before the first distance. -/
def initialBias : Nat := 72

/-- The first code point beyond ASCII. -/
def firstBeyond : Nat := 128

def isBasic (p : CodePoint) : Bool := p.toNat < firstBeyond

/-- The character of a digit. -/
def digitChar (d : Nat) : Char := Char.ofNat (if d < 26 then 97 + d else 22 + d)

/-- The digit of a character, a letter in either case. -/
def digit? (c : CodePoint) : Option Nat :=
  let n := c.toNat
  if 97 ≤ n && n ≤ 122 then some (n - 97)
  else if 65 ≤ n && n ≤ 90 then some (n - 65)
  else if 48 ≤ n && n ≤ 57 then some (n - 22)
  else none

/-- The threshold of the digit at a place, counted in steps of the base from 36 on. -/
def threshold (place bias : Nat) : Nat :=
  if place ≤ bias then 1 else if bias + 26 ≤ place then 26 else place - bias

theorem threshold_pos (place bias : Nat) : 1 ≤ threshold place bias := by
  unfold threshold
  split
  · omega
  · split <;> omega

theorem threshold_le (place bias : Nat) : threshold place bias ≤ 26 := by
  unfold threshold
  split
  · omega
  · split <;> omega

/-- A distance divided by 35 until it is at most 455, with 36 for each division. -/
def scaledDown (distance steps : Nat) : Nat × Nat :=
  if 455 < distance then scaledDown (distance / 35) (steps + base) else (distance, steps)
termination_by distance
decreasing_by exact Nat.div_lt_self (by omega) (by omega)

/-- The bias after a distance, which brought the characters to a number. -/
def adapt (distance count : Nat) (isFirst : Bool) : Nat :=
  let distance := if isFirst then distance / 700 else distance / 2
  let (distance, steps) := scaledDown (distance + distance / count) 0
  steps + base * distance / (distance + 38)

/-- The digits of a number, from a place on. -/
def digits (bias place n : Nat) : Text :=
  let t := threshold place bias
  if n < t then [.char (digitChar n)]
  else digitChar (t + (n - t) % (base - t)) :: digits bias (place + base) ((n - t) / (base - t))
termination_by n
decreasing_by
  have := threshold_pos place bias
  have := Nat.div_le_self (n - threshold place bias) (base - threshold place bias)
  omega

/-- An encoding under way: what is written, the last first, and what the next distance depends on. -/
structure Encoding where
  written : Text
  distance : Nat
  bias : Nat
  /-- How many characters are written. -/
  count : Nat

/-- Takes note of one character of the label while the characters of a code point are written. -/
def step (basics code : Nat) (e : Encoding) (c : CodePoint) : Encoding :=
  if c.toNat < code then { e with distance := e.distance + 1 }
  else if c.toNat = code then
    { written := (digits e.bias base e.distance).reverse ++ e.written
      distance := 0
      bias := adapt e.distance (e.count + 1) (e.count = basics)
      count := e.count + 1 }
  else e

/-- Writes the characters of some code points in ascending order, of which the next possible is given. -/
def writeCodes (label : Text) (basics : Nat) : List Nat → Nat → Encoding → Encoding
  | [], _, e => e
  | code :: codes, next, e =>
    let e := { e with distance := e.distance + (code - next) * (e.count + 1) }
    let e := label.foldl (step basics code) e
    writeCodes label basics codes (code + 1) { e with distance := e.distance + 1 }

/-- A number put into an ascending list without repetitions. -/
def insertCode (n : Nat) : List Nat → List Nat
  | [] => [n]
  | m :: ms => if n < m then n :: m :: ms else if n = m then m :: ms else m :: insertCode n ms

/-- The code points beyond ASCII of a label, in ascending order. -/
def codesBeyond (label : Text) : List Nat :=
  ((label.filter (!isBasic ·)).map CodePoint.toNat).foldl (fun codes n => insertCode n codes) []

/-- The ASCII form of a label. -/
def encode (label : Text) : Text :=
  let basics := label.filter isBasic
  let start : Encoding := { written := [], distance := 0, bias := initialBias, count := basics.length }
  let e := writeCodes label basics.length (codesBeyond label) firstBeyond start
  basics ++ (if basics.isEmpty then "" else "-") ++ e.written.reverse

/-- The number whose digits are in front, from a place with a weight on, and what follows. -/
def number? (bias : Nat) : (place weight : Nat) → Text → Option (Nat × Text)
  | _, _, [] => none
  | place, weight, c :: rest =>
    match digit? c with
    | none => none
    | some d =>
      let t := threshold place bias
      if d < t then some (d * weight, rest)
      else (number? bias (place + base) (weight * (base - t)) rest).map fun (n, rest) => (d * weight + n, rest)

theorem length_lt_of_number? (bias : Nat) (cs : Text) :
    ∀ (place weight : Nat) (r : Nat × Text), number? bias place weight cs = some r →
      r.2.length < cs.length := by
  induction cs with
  | nil => intro place weight r h; simp [number?] at h
  | cons c rest ih =>
    intro place weight r h
    unfold number? at h
    split at h
    · simp at h
    · simp only at h
      split at h
      · rw [← Option.some.inj h]; simp
      · obtain ⟨r', h', rfl⟩ := Option.map_eq_some_iff.1 h
        have := ih _ _ _ h'
        simp only [List.length_cons]
        omega

/-- Puts the characters that distances describe into those that are there. -/
def insertCharacters (isFirst : Bool) (bias code place : Nat) (present : Text) (cs : Text) :
    Option Text :=
  match cs with
  | [] => some present
  | c :: cs =>
    match _h : number? bias base 1 (c :: cs) with
    | none => none
    | some (distance, rest) =>
      let count := present.length + 1
      let target := place + distance
      let code' := code + target / count
      if code' ≤ 0x10FFFF then
        insertCharacters false (adapt distance count isFirst) code' (target % count + 1)
          (present.insertIdx (target % count) (.ofNat code')) rest
      else none
termination_by cs.length
decreasing_by
  have := length_lt_of_number? bias (c :: cs) base 1 (distance, rest) _h
  simpa using this

/-- The label of an ASCII form: what is before the last hyphen, with what is behind it put in. -/
def decode (cs : Text) : Option Text :=
  let behind := (cs.reverse.takeWhile (· ≠ .char '-')).reverse
  let basics := cs.take (cs.length - behind.length - 1)
  insertCharacters true initialBias firstBeyond 0 basics behind

end Questionnaire.Punycode
