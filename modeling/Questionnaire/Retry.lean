import Questionnaire.Checked

/-!
# Trying again

A query whose error looks like a dropped connection is tried again a limited number of times, after
delays that double up to four seconds.

* `isTransient`: does an error look like a dropped connection?
* `Retry.run`: a query with its repetitions.
-/

namespace Questionnaire

/-- The marks of a dropped connection, in lower case. -/
def transientMarks : List Text := ["connection reset", "errno 104", "server disconnected"]

/-- Does a text hold another? -/
def holdsText (part : Text) : Text → Bool
  | [] => part.isEmpty
  | c :: cs => part.isPrefixOf (c :: cs) || holdsText part cs

/-- Does an error look like a dropped connection? The case of letters does not matter. -/
def isTransient (error : Text) : Bool :=
  transientMarks.any fun mark => holdsText mark error.lowerAscii

/-- Why a query with all its repetitions gives nothing. -/
inductive QueryFailure where
  /-- The error of the last attempt. -/
  | failed (error : Text)
  /-- The delay after the last attempt has no value, since the power of two is beyond all doubles. -/
  | delayTooLarge
  /-- The delay after the last attempt has too many digits to be told. -/
  | delayTooLong
  /-- The first delay is no number, and cannot be doubled or compared with one. -/
  | delayNotComparable (kind : Text)
  | delayNotDoubled (kind : Text)
deriving DecidableEq, Repr

/-- The wording of a failure. -/
def QueryFailure.message : QueryFailure → Text
  | failed error => error
  | delayTooLarge => "int too large to convert to float"
  | delayTooLong => Text.tooManyDigits ""
  | delayNotComparable kind => "'<' not supported between instances of 'float' and '" ++ kind ++ "'"
  | delayNotDoubled kind => "unsupported operand type(s) for *: '" ++ kind ++ "' and 'int'"

/-- A query that is over, with all its repetitions. -/
structure Attempts (σ α : Type) where
  result : Except QueryFailure α
  state : σ
  calls : Nat
  delays : List Json
  notices : List Notice

namespace Retry

/-- The longest delay. -/
def maxDelay : Json := .float (.ofRatio false 4 1)

/-- The first attempt, counted from zero, after which a delay that is a double has no value. -/
def maxDoublings : Nat := 1024

/-- The delay that is an integer: at most four seconds, and with no more digits than can be told. -/
def wholeDelay (n : Int) : Except QueryFailure Json :=
  if 4 < n then .ok maxDelay
  else if Json.isTellable n then .ok (.int n)
  else .error .delayTooLong

/-- The delay after an attempt, counted from zero: the base doubled each time, at most four seconds. -/
def delay (base : Json) (attempt : Nat) : Except QueryFailure Json :=
  match base with
  | .int n => wholeDelay (n * 2 ^ attempt)
  | .bool b => wholeDelay (Json.ofTruth b * 2 ^ attempt)
  | .float x =>
    if attempt < maxDoublings then
      let doubled := x.scaleBy attempt
      .ok (if doubled.gtRatio 4 1 then maxDelay else .float doubled)
    else .error .delayTooLarge
  | .str _ | .arr _ => .error (.delayNotComparable base.kindWord)
  | .null | .obj _ => .error (.delayNotDoubled base.kindWord)

/-- The notice on an attempt that is repeated. -/
def notice (limit attempt : Nat) (delay : Json) : Notice :=
  let number := attempt + 1
  let seconds := delay.shown
  .warning ("Supabase connection error, retry " ++ toString number ++ "/" ++ toString limit
    ++ ". Waiting " ++ seconds ++ "s...")

/-- Attempts from one on, with as many repetitions left. -/
def go {σ α : Type} (base : Json) (limit : Nat) (query : σ → Except Text α × σ) :
    (left attempt : Nat) → σ → Attempts σ α
  -- the last attempt is followed by none, so its error is not looked at
  | 0, _, s =>
    let (result, s) := query s
    ⟨result.mapError .failed, s, 1, [], []⟩
  | left + 1, attempt, s =>
    match query s with
    | (.ok a, s) => ⟨.ok a, s, 1, [], []⟩
    | (.error e, s) =>
      if isTransient e then
        -- a delay without a value ends the attempts with an error of its own
        match delay base attempt with
        | .error e => ⟨.error e, s, 1, [], []⟩
        | .ok pause =>
          let rest := go base limit query left (attempt + 1) s
          ⟨rest.result, rest.state, rest.calls + 1, pause :: rest.delays, notice limit attempt pause :: rest.notices⟩
      else ⟨.error (.failed e), s, 1, [], []⟩

/-- A query with at most `limit` repetitions. -/
def run {σ α : Type} (limit : Nat) (base : Json) (query : σ → Except Text α × σ) (s : σ) : Attempts σ α :=
  go base limit query limit 0 s

/-- A query with a number of repetitions that may be negative, which allows not even the first attempt. -/
def runUpTo {σ α : Type} (limit : Int) (base : Json) (query : σ → Except Text α × σ) (s : σ) :
    Option (Attempts σ α) :=
  if limit < 0 then none else some (run limit.toNat base query s)

/-- Why a value is no number of repetitions: it is no integer, or there is nothing that is one more than it. -/
inductive LimitFault where
  | notWhole (kind : Text)
  | notJoined (kind : Text)
  | notAdded (kind : Text)
deriving DecidableEq, Repr

/-- The wording of a limit fault. -/
def LimitFault.message : LimitFault → Text
  | notWhole kind => "'" ++ kind ++ "' object cannot be interpreted as an integer"
  | notJoined kind => "can only concatenate " ++ kind ++ " (not \"int\") to " ++ kind
  | notAdded kind => "unsupported operand type(s) for +: '" ++ kind ++ "' and 'int'"

/-- The number of repetitions that a value stands for. -/
def limit (v : Json) : Except LimitFault Int :=
  match v with
  | .int n => .ok n
  | .bool b => .ok (Json.ofTruth b)
  | .float _ => .error (.notWhole v.kindWord)
  | .str _ | .arr _ => .error (.notJoined v.kindWord)
  | .null | .obj _ => .error (.notAdded v.kindWord)

/-- The number of repetitions of a query of the store. -/
def storeLimit : Nat := 3

/-- The first delay of a query of the store: half a second. -/
def storeBase : Json := .float (.ofRatio false 1 2)

/-- A query that answers from a script, whose last outcome repeats. -/
def scripted {α : Type} : List (Except Text α) → Except Text α × List (Except Text α)
  | [] => (.error "", [])
  | [outcome] => (outcome, [outcome])
  | outcome :: rest => (outcome, rest)

end Retry
end Questionnaire
