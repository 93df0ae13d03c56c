import Questionnaire.Text.LowerCase
import Questionnaire.Web.Host.Address
import Questionnaire.Web.Host.Label
import Questionnaire.Web.Percent

/-!
# Hosts

A host is an address in numbers or a name. A name in ASCII is taken as it is, in lower case; one with other
characters must be made of labels, each of which gets its ASCII form. A name that starts with an ASCII form
must be made of labels too before anything is sent to it.

* `Host.normal`: the normal form of a host.
* `Host.toAscii?`: the ASCII form of a name.
* `Host.check`: can anything be sent to a host?
-/

namespace Questionnaire

/-- What a host is taken for. -/
inductive HostKind where
  | fourNumbers
  | groups
  | name
deriving DecidableEq, Repr

/-- A host that is not what it is taken for. -/
structure HostError where
  kind : HostKind
  host : Text
deriving DecidableEq, Repr

/-- The wording of a host error. -/
def HostError.message (e : HostError) : Text :=
  (match e.kind with
  | .fourNumbers => "Invalid IPv4 address: "
  | .groups => "Invalid IPv6 address: "
  | .name => "Invalid IDNA hostname: ") ++ Text.quoted e.host

namespace Host

/-- Does a code point stand between labels? -/
def isDot (p : CodePoint) : Bool := p = '.' || p = '\u3002' || p = '\uff0e' || p = '\uff61'

/-- The labels of a name. -/
def labels (name : Text) : List Text := Text.pieces '.' (name.map fun p => if isDot p then .char '.' else p)

/-- The labels of a name that may end with a dot, and whether it does. -/
def labelsOf (name : Text) : List Text × Bool :=
  let labels := labels name
  if labels.getLast? = some [] then (labels.dropLast, true) else (labels, false)

/-- The longest name in its ASCII form, without a dot at its end. -/
def maxLength : Nat := 253

/-- The ASCII form of a name, which may end with a dot. -/
def toAscii? (name : Text) : Option Text :=
  let (labels, ends) := labelsOf name
  match labels.mapM Label.toAscii? with
  | none => none
  | some labels =>
    let ascii := Text.intercalate "." labels
    if ascii.length ≤ maxLength then some (if ends then ascii ++ "." else ascii) else none

/-- Is a name in ASCII made of labels? -/
def checkName (name : Text) : Except NameFault Unit :=
  if maxLength + 1 < name.length then .error .tooLong else (labelsOf name).1.forM Label.checkAscii

/-- Can anything be sent to a host in its normal form? -/
def check (host : Text) : Except NameFault Unit :=
  if Label.asciiMark.isPrefixOf host then checkName host else .ok ()

/-- Does a text stand in brackets? -/
def isBracketed (t : Text) : Bool := t.head? = some '[' && 2 ≤ t.length && t.getLast? = some ']'

/-- The normal form of a host; brackets are no part of it. -/
def normal (host : Text) : Except HostError Text :=
  if Address.resemblesFourNumbers host then
    if Address.isFourNumbers host then .ok host else .error ⟨.fourNumbers, host⟩
  else if isBracketed host then
    let inner := host.tail.dropLast
    if Address.isGroups inner then .ok inner else .error ⟨.groups, host⟩
  else if host.all Punycode.isBasic then .ok (Percent.encodeChars Percent.inHost host.lowerAscii.string)
  else
    match toAscii? (Text.lower host) with
    | some ascii => .ok ascii
    | none => .error ⟨.name, host⟩

end Host
end Questionnaire
