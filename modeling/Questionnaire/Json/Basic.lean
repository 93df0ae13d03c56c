import Questionnaire.Number.Decimal
import Questionnaire.Text.Basic

/-!
# JSON values

Answers, stored forms and request bodies are JSON. Objects keep the order of their keys, and integers
are told apart from doubles: `1` and `1.0` are different values, though `equals` holds between them.

* `Json.equals`: equality of contents, by which an integer equals a double of the same value and the
  order of the keys of an object does not matter.
* `Fields.set`: a key that is set again keeps its place.
-/

namespace Questionnaire

/-- A JSON value. The keys of an object are pairwise distinct in every value that is read. -/
inductive Json where
  | null
  | bool (b : Bool)
  | int (n : Int)
  | float (x : Binary64)
  | str (s : Text)
  | arr (items : List Json)
  | obj (fields : List (Text × Json))
deriving Repr, Inhabited

/-- The entries of an object, in order. -/
abbrev Fields := List (Text × Json)

namespace Fields

/-- The value under a key. -/
def get? (fields : Fields) (key : Text) : Option Json := fields.lookup key

/-- The value under a key, null if there is none. -/
def get (fields : Fields) (key : Text) : Json := (fields.get? key).getD .null

/-- Is there an entry under a key? -/
def has (fields : Fields) (key : Text) : Bool := (fields.get? key).isSome

/-- Sets a key: in its place if it is there, else at the end. -/
def set : Fields → Text → Json → Fields
  | [], key, value => [(key, value)]
  | (k, v) :: rest, key, value => if k = key then (k, value) :: rest else (k, v) :: set rest key value

/-- Removes a key. -/
def erase (fields : Fields) (key : Text) : Fields := fields.filter fun entry => entry.1 ≠ key

/-- Entries in order of first appearance, each key with its last value. -/
def ofEntries (entries : List (Text × Json)) : Fields :=
  entries.foldl (fun fields (key, value) => fields.set key value) []

end Fields

namespace Json

mutual
/-- Are two values the same, number kinds and key order included? -/
def decEq : (a b : Json) → Decidable (a = b)
  | .null, .null => .isTrue rfl
  | .bool a, .bool b => if h : a = b then .isTrue (by rw [h]) else .isFalse (by simpa using h)
  | .int a, .int b => if h : a = b then .isTrue (by rw [h]) else .isFalse (by simpa using h)
  | .float a, .float b => if h : a = b then .isTrue (by rw [h]) else .isFalse (by simpa using h)
  | .str a, .str b => if h : a = b then .isTrue (by rw [h]) else .isFalse (by simpa using h)
  | .arr a, .arr b =>
    match decEqItems a b with
    | .isTrue h => .isTrue (by rw [h])
    | .isFalse h => .isFalse (by simpa using h)
  | .obj a, .obj b =>
    match decEqFields a b with
    | .isTrue h => .isTrue (by rw [h])
    | .isFalse h => .isFalse (by simpa using h)
  | .null, .bool _ | .null, .int _ | .null, .float _ | .null, .str _ | .null, .arr _ | .null, .obj _
  | .bool _, .null | .bool _, .int _ | .bool _, .float _ | .bool _, .str _ | .bool _, .arr _
  | .bool _, .obj _ | .int _, .null | .int _, .bool _ | .int _, .float _ | .int _, .str _
  | .int _, .arr _ | .int _, .obj _ | .float _, .null | .float _, .bool _ | .float _, .int _
  | .float _, .str _ | .float _, .arr _ | .float _, .obj _ | .str _, .null | .str _, .bool _
  | .str _, .int _ | .str _, .float _ | .str _, .arr _ | .str _, .obj _ | .arr _, .null
  | .arr _, .bool _ | .arr _, .int _ | .arr _, .float _ | .arr _, .str _ | .arr _, .obj _
  | .obj _, .null | .obj _, .bool _ | .obj _, .int _ | .obj _, .float _ | .obj _, .str _
  | .obj _, .arr _ => .isFalse (by simp)

/-- Are two lists the same, item by item? -/
def decEqItems : (a b : List Json) → Decidable (a = b)
  | [], [] => .isTrue rfl
  | [], _ :: _ | _ :: _, [] => .isFalse (by simp)
  | x :: xs, y :: ys =>
    match decEq x y, decEqItems xs ys with
    | .isTrue h, .isTrue hs => .isTrue (by rw [h, hs])
    | .isFalse h, _ => .isFalse (by simp [h])
    | _, .isFalse hs => .isFalse (by simp [hs])

/-- Are two objects the same, entry by entry? -/
def decEqFields : (a b : List (Text × Json)) → Decidable (a = b)
  | [], [] => .isTrue rfl
  | [], _ :: _ | _ :: _, [] => .isFalse (by simp)
  | (k, x) :: xs, (l, y) :: ys =>
    if hk : k = l then
      match decEq x y, decEqFields xs ys with
      | .isTrue h, .isTrue hs => .isTrue (by rw [hk, h, hs])
      | .isFalse h, _ => .isFalse (by simp [h])
      | _, .isFalse hs => .isFalse (by simp [hs])
    else .isFalse (by simp [hk])
end

instance : DecidableEq Json := decEq

/-- The text of a string value. -/
def str? : Json → Option Text
  | .str s => some s
  | _ => none

/-- The entries of an object value. -/
def obj? : Json → Option Fields
  | .obj fields => some fields
  | _ => none

/-- The items of a list value. -/
def arr? : Json → Option (List Json)
  | .arr items => some items
  | _ => none

def isNull : Json → Bool
  | .null => true
  | _ => false

/-- The value under a key of an object; null for any other value. -/
def field (value : Json) (key : Text) : Json :=
  match value with
  | .obj fields => Fields.get fields key
  | _ => .null

/-- The value is empty: null, false, a zero, or a text, list or object without contents. -/
def isEmpty : Json → Bool
  | .null => true
  | .bool b => !b
  | .int n => n == 0
  | .float x => x.isZero
  | .str s => s.isEmpty
  | .arr items => items.isEmpty
  | .obj fields => fields.isEmpty

/-- The first of two values unless it is empty. -/
def orElse (a b : Json) : Json := if a.isEmpty then b else a

/-- The integer that a truth value counts as. -/
def ofTruth (b : Bool) : Int := if b then 1 else 0

mutual
/-- Equality of contents: truth values count as `0` and `1`, numbers are compared by value, and objects
are equal if they have the same keys with equal values. -/
def equals : Json → Json → Bool
  | .null, .null => true
  | .bool a, .bool b => a == b
  | .bool a, .int b => ofTruth a == b
  | .bool a, .float b => b.equalsInt (ofTruth a)
  | .int a, .bool b => a == ofTruth b
  | .int a, .int b => a == b
  | .int a, .float b => b.equalsInt a
  | .float a, .bool b => a.equalsInt (ofTruth b)
  | .float a, .int b => a.equalsInt b
  | .float a, .float b => a.equals b
  | .str a, .str b => a == b
  | .arr a, .arr b => equalItems a b
  | .obj a, .obj b => a.length == b.length && equalFields a b
  | _, _ => false

def equalItems : List Json → List Json → Bool
  | [], [] => true
  | a :: as, b :: bs => equals a b && equalItems as bs
  | _, _ => false

/-- Is each entry of the first object in the second? -/
def equalFields : List (Text × Json) → List (Text × Json) → Bool
  | [], _ => true
  | (k, a) :: as, bs =>
      (match bs.lookup k with
      | some b => equals a b
      | none => false) && equalFields as bs
end

mutual
/-- Is every double in the value finite? -/
def allFinite : Json → Bool
  | .float x => x.isFinite
  | .arr items => allFiniteItems items
  | .obj fields => allFiniteFields fields
  | _ => true

def allFiniteItems : List Json → Bool
  | [] => true
  | v :: vs => allFinite v && allFiniteItems vs

def allFiniteFields : List (Text × Json) → Bool
  | [] => true
  | (_, v) :: vs => allFinite v && allFiniteFields vs
end

mutual
/-- How many values stand in one another, the value itself counted. -/
def depth : Json → Nat
  | .arr items => depthItems items + 1
  | .obj fields => depthFields fields + 1
  | _ => 1

def depthItems : List Json → Nat
  | [] => 0
  | v :: vs => max (depth v) (depthItems vs)

def depthFields : List (Text × Json) → Nat
  | [] => 0
  | (_, v) :: vs => max (depth v) (depthFields vs)
end

mutual
/-- The value without the entries whose keys a test rejects, at any depth. -/
def filterKeys (keeps : Text → Bool) : Json → Json
  | .arr items => .arr (filterKeysItems keeps items)
  | .obj fields => .obj (filterKeysFields keeps fields)
  | v => v

def filterKeysItems (keeps : Text → Bool) : List Json → List Json
  | [] => []
  | v :: vs => filterKeys keeps v :: filterKeysItems keeps vs

def filterKeysFields (keeps : Text → Bool) : List (Text × Json) → List (Text × Json)
  | [] => []
  | (k, v) :: vs =>
    if keeps k then (k, filterKeys keeps v) :: filterKeysFields keeps vs else filterKeysFields keeps vs
end

mutual
/-- The value with null for every double that is not finite. -/
def finite : Json → Json
  | .float x => if x.isFinite then .float x else .null
  | .arr items => .arr (finiteItems items)
  | .obj fields => .obj (finiteFields fields)
  | v => v

def finiteItems : List Json → List Json
  | [] => []
  | v :: vs => finite v :: finiteItems vs

def finiteFields : List (Text × Json) → List (Text × Json)
  | [] => []
  | (k, v) :: vs => (k, finite v) :: finiteFields vs
end

end Json
end Questionnaire
