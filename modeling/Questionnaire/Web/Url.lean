import Questionnaire.Text.Base64
import Questionnaire.Text.Numeral
import Questionnaire.Web.Host

/-!
# Addresses of services

The parts of a URL in their normal form: the scheme and the host in lower case, no port that the scheme
implies, no dot segments in an absolute path, and percent signs for what may not stand in a part as it
is.

* `Url.parse`: the parts of a text.
* `Url.render`: the text of the parts.
* `Url.within`: the URL that is asked for when a URL is given to a client of a service.
* `Url.withParameters`: the URL with its query replaced by parameters in a form.
* `Url.refusal?`: why nothing can be sent to a URL.
-/

namespace Questionnaire

/-- Why a text is no URL, or nothing can be sent to a URL. -/
inductive UrlError where
  | tooLong
  | partTooLong (part : String)
  | controlCharacter (p : CodePoint) (position : Nat)
  | invalidPort (text : Text)
  | invalidHost (e : HostError)
  | pathWithoutSlash
  | doubleSlash
  | leadingColon
  | unwritable (e : EncodingFault)
  | unreadableName (e : NameFault)
  | noService (url : Text)
deriving DecidableEq, Repr

/-- The wording of a URL error. -/
def UrlError.message : UrlError → Text
  | tooLong => "URL too long"
  | partTooLong part => "URL component '" ++ part ++ "' too long"
  | controlCharacter p position =>
    "Invalid non-printable ASCII character in URL, " ++ Text.quoted [p] ++ " at position " ++ toString position ++ "."
  | invalidPort text => "Invalid port: " ++ Text.quoted text
  | invalidHost e => e.message
  | pathWithoutSlash => "For absolute URLs, path must be empty or begin with '/'"
  | doubleSlash => "Relative URLs cannot have a path starting with '//'"
  | leadingColon => "Relative URLs cannot have a path starting with ':'"
  | unwritable e => e.message
  | unreadableName e => e.message
  | noService url => "unknown url type: " ++ Text.quoted url

/-- The parts of a URL. -/
structure Url where
  scheme : String
  userinfo : String
  /-- The host, without the brackets around an address in groups. -/
  host : Text
  port : Option Int
  path : String
  query : Option String
  fragment : Option String
deriving DecidableEq, Repr

namespace Url

/-! ## The parts as they are written -/

/-- The parts of a URL as they are written. -/
structure Written where
  scheme : Text
  authority : Text
  path : Text
  query : Option Text
  fragment : Option Text
deriving DecidableEq, Repr

/-- May a character stand in a scheme after its first letter? -/
def inScheme (p : CodePoint) : Bool := p.isAlphanum || p = '+' || p = '.' || p = '-'

/-- The scheme and what follows its colon. -/
def splitScheme (cs : Text) : Text × Text :=
  let scheme := if (cs.head?.map CodePoint.isAlpha).getD false then cs.takeWhile inScheme else []
  match cs.drop scheme.length with
  | ':' :: rest => (scheme, rest)
  | _ => ([], cs)

/-- The authority and what follows it. -/
def splitAuthority : Text → Text × Text
  | '/' :: '/' :: rest =>
    let ends := fun p : CodePoint => p = '/' || p = '?' || p = '#'
    (rest.takeWhile (!ends ·), rest.dropWhile (!ends ·))
  | cs => ([], cs)

/-- The user information in front of the last `@`, and what follows. -/
def splitUserinfo (cs : Text) : Text × Text :=
  if cs.contains '@' then
    let (behind, before) := Text.splitAt '@' cs.reverse
    ((before.getD []).reverse, behind.reverse)
  else ([], cs)

/-- The host, in brackets or up to a colon, and the port after it. -/
def splitHost (cs : Text) : Text × Text :=
  let host :=
    if cs.head? = some '[' ∧ cs.contains ']' then (cs.reverse.dropWhile (· ≠ .char ']')).reverse
    else cs.takeWhile fun p => p ≠ ':' && p ≠ '@'
  match cs.drop host.length with
  | ':' :: port => (host, port)
  | port => (host, port)

/-- The parts of a text. -/
def Written.ofText (cs : Text) : Written :=
  let (scheme, cs) := splitScheme cs
  let (authority, cs) := splitAuthority cs
  let (cs, fragment) := Text.splitAt '#' cs
  let (path, query) := Text.splitAt '?' cs
  { scheme, authority, path, query, fragment }

/-! ## The normal form -/

/-- The ports that schemes imply. -/
def impliedPorts : List (String × Int) := [("ftp", 21), ("http", 80), ("https", 443), ("ws", 80), ("wss", 443)]

/-- The normal form of a port. The scheme is taken as it is written, so one in capitals implies none. -/
def normalPort (scheme : String) (port : Text) : Except UrlError (Option Int) :=
  if port.isEmpty then .ok none
  else
    match Text.wholeNumber port with
    | .error _ => .error (.invalidPort port)
    | .ok n => .ok (if impliedPorts.lookup scheme = some n then none else some n)

/-- One more segment after those that are kept, the last of them first. -/
def addSegment (kept : List Text) (segment : Text) : List Text :=
  if segment = "." then kept
  else if segment = ".." then (if kept = [] ∨ kept = [[]] then kept else kept.tail)
  else segment :: kept

/-- A path without dot segments. -/
def withoutDots (path : Text) : Text :=
  Text.intercalate "/" ((Text.pieces '/' path).foldl addSegment []).reverse

/-- A part with its characters encoded where they must be. -/
def encoded (allowed : Char → Bool) (t : Text) : Except UrlError String :=
  (Percent.encode allowed t).mapError .unwritable

/-- A part that may be absent. -/
def encoded? (allowed : Char → Bool) : Option Text → Except UrlError (Option String)
  | none => .ok none
  | some t => some <$> encoded allowed t

/-- May a path stand after a scheme and an authority that are there or not? -/
def checkPath (hasScheme hasAuthority : Bool) (path : Text) : Except UrlError Unit :=
  if hasAuthority ∧ path ≠ [] ∧ path.head? ≠ some '/' then .error .pathWithoutSlash
  else if hasScheme || hasAuthority then .ok ()
  else if path.take 2 = "//" then .error .doubleSlash
  else if path.head? = some ':' then .error .leadingColon
  else .ok ()

/-- The normal form of parts that are written. -/
def Written.normal (w : Written) : Except UrlError Url := do
  let (userinfo, authority) := splitUserinfo w.authority
  let (host, port) := splitHost authority
  let userinfo ← encoded Percent.inUserinfo userinfo
  let host ← (Host.normal host).mapError .invalidHost
  let port ← normalPort w.scheme.string port
  let hasAuthority := userinfo ≠ "" || host ≠ [] || port.isSome
  checkPath (w.scheme ≠ []) hasAuthority w.path
  let path := if w.scheme ≠ [] || hasAuthority then withoutDots w.path else w.path
  let path ← encoded Percent.inPath path
  let query ← encoded? Percent.inQuery w.query
  let fragment ← encoded? Percent.inFragment w.fragment
  return { scheme := w.scheme.lowerAscii.string, userinfo, host, port, path, query, fragment }

/-- The longest text that is read as a URL or as a part of one. -/
def maxLength : Nat := 65536

/-- The first ASCII control character of a text, with its position. -/
def controlCharacter? (t : Text) : Option (CodePoint × Nat) :=
  t.zipIdx.find? fun (p, _) => p.toNat < 32 || p.toNat = 127

/-- The parts of a text. -/
def parse (text : Text) : Except UrlError Url :=
  if maxLength < text.length then .error .tooLong
  else
    match controlCharacter? text with
    | some (p, position) => .error (.controlCharacter p position)
    | none => (Written.ofText text).normal

/-! ## The written form -/

/-- The host and the port as they are written. -/
def location (u : Url) : Text :=
  (if u.host.contains ':' then "[" ++ u.host ++ "]" else u.host) ++ (u.port.map fun n => ":" ++ toString n).getD ""

/-- The authority as it is written. -/
def authority (u : Url) : Text := (if u.userinfo = "" then "" else u.userinfo ++ "@") ++ u.location

/-- The URL as it is written. -/
def render (u : Url) : Text :=
  (if u.scheme = "" then "" else u.scheme ++ ":" : String)
    ++ (if u.authority = [] then [] else ("//" : Text) ++ u.authority)
    ++ u.path ++ (u.query.map ("?" ++ ·)).getD "" ++ (u.fragment.map ("#" ++ ·)).getD ""

/-- The parts as they are written. -/
def written (u : Url) : Written :=
  { scheme := u.scheme, authority := u.authority, path := u.path
    query := u.query.map .ofString, fragment := u.fragment.map .ofString }

/-- The first part that is too long, by its name. -/
def Written.longPart? (w : Written) : Option String :=
  ([("scheme", some w.scheme), ("authority", some w.authority), ("path", some w.path), ("query", w.query),
    ("fragment", w.fragment)].find? fun (_, part) => part.any fun t => maxLength < t.length).map (·.1)

/-- The URL of which some parts were put in place of others, in its normal form again. -/
def Written.again (w : Written) : Except UrlError Url :=
  match w.longPart? with
  | some part => .error (.partTooLong part)
  | none => w.normal

/-! ## Requests -/

/-- The URL without any parts. -/
def empty : Url :=
  { scheme := "", userinfo := "", host := [], port := none, path := "", query := none, fragment := none }

/-- Does the URL name a service, by its scheme and host? -/
def isAbsolute (u : Url) : Bool := u.scheme ≠ "" && u.host ≠ []

/-- The URL that is asked for when a client of the service at `base` is given a URL: one that names no
service is a path and a query there. -/
def within (base u : Url) : Except UrlError Url :=
  if u.isAbsolute then .ok u
  else
    { base.written with
      path := '/' :: (u.path : Text).dropWhile (· = CodePoint.char '/'), query := u.query.map .ofString }.again

/-- The URL with its query replaced by parameters. -/
def withParameters (u : Url) (parameters : List (Text × Text)) : Except UrlError Url := do
  let query ← (Percent.form parameters).mapError .unwritable
  { u.written with query := some query }.again

/-- Why nothing can be sent to the URL: its host is not in ASCII, or a name that cannot be read. -/
def refusal? (u : Url) : Option UrlError :=
  match Text.asciiFault? u.location, Host.check u.host with
  | some e, _ => some (.unwritable e)
  | none, .error e => some (.unreadableName e)
  | none, .ok () => none

/-- The authorization that the user information of the URL gives: a name and a password in base 64. -/
def authorization? (u : Url) : Option String :=
  let (name, password) := Text.splitAt ':' u.userinfo
  let name := Percent.decode name.string
  let password := Percent.decode (password.getD []).string
  if name = "" && password = "" then none else some ("Basic " ++ Text.base64 (name ++ ":" ++ password))

end Url
end Questionnaire
