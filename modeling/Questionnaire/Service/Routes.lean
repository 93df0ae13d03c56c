import Questionnaire.Text.Basic

/-!
# Routes

Which endpoint a method and a path name.

* `Endpoint.find`: the endpoint, or why there is none.
-/

namespace Questionnaire

/-- The endpoints of the service. -/
inductive Endpoint where
  | root
  | health
  | submit
  | listVersions (form : String)
  | saveVersion (form : String)
  | latestVersion (form : String)
  | oneVersion (form version : String)
  | restoreVersion (form version : String)
  | previewSession
  | previewRedirect
  | previewPostcode
  | exportNumbered
  | exportCompiled
  | download (form version file : String)
deriving DecidableEq, Repr

/-- Why a method and a path name no endpoint. -/
inductive RouteError where
  | notFound
  | methodNotAllowed
  /-- There are endpoints without the slashes at the end. -/
  | movedTo (path : String)
deriving DecidableEq, Repr

namespace Endpoint

/-- The endpoints of a path given by its segments, each with its method. -/
def atSegments : List String → List (String × Endpoint)
  | [""] => [("GET", root)]
  | ["health"] => [("GET", health)]
  | ["api", "forms", "submit"] => [("POST", submit)]
  | ["api", "forms", form, "versions"] => [("GET", listVersions form), ("POST", saveVersion form)]
  | ["api", "forms", form, "versions", "latest"] => [("GET", latestVersion form)]
  | ["api", "forms", form, "versions", version] => [("GET", oneVersion form version)]
  | ["api", "forms", form, "versions", version, "restore"] => [("POST", restoreVersion form version)]
  | ["api", "preview", "session"] => [("POST", previewSession)]
  | ["api", "preview", "resolve"] => [("POST", previewRedirect)]
  | ["api", "preview", "postcode"] => [("POST", previewPostcode)]
  | ["api", "export", "normalize"] => [("POST", exportNumbered)]
  | ["api", "export", "compile"] => [("POST", exportCompiled)]
  | ["api", "export", form, version, file] => [("GET", download form version file)]
  | _ => []

/-- The endpoints of segments of which none is empty but that of the root. -/
def atFullSegments (segments : List String) : List (String × Endpoint) :=
  if segments = [""] ∨ "" ∉ segments then atSegments segments else []

/-- Does the path of an endpoint end with a word of its own? -/
def endsWithWord : Endpoint → Bool
  | oneVersion .. | download .. => false
  | _ => true

/-- Segments without a line feed at the end of the last. -/
def withoutLineFeed (segments : List String) : List String :=
  match segments.getLast? with
  | some last =>
    let cs := last.toList
    if cs.getLast? = some '\n' then segments.dropLast ++ [String.ofList cs.dropLast] else segments
  | none => segments

/-- The endpoints of a path, each with its method. A word at the end of a path may have a line feed after
it. -/
def atPath (path : String) : List (String × Endpoint) :=
  match (Text.pieces '/' path).map (·.string) with
  | "" :: segments =>
    let worded := (atFullSegments (withoutLineFeed segments)).filter fun (_, endpoint) => endpoint.endsWithWord
    if worded.isEmpty then atFullSegments segments else worded
  | _ => []

/-- A path without the slashes at its end. -/
def withoutEndingSlashes (path : String) : String :=
  String.ofList (path.toList.reverse.dropWhile (· = '/')).reverse

/-- The pages that describe the service. They can only be read, and what they show is no part of it. -/
def descriptionPages : List String := ["/openapi.json", "/docs", "/docs/oauth2-redirect", "/redoc"]

/-- Does a path name a page that describes the service? -/
def isDescription (path : String) : Bool := descriptionPages.any fun page => path = page || path = page ++ "\n"

/-- Is there anything under a path? -/
def isKnown (path : String) : Bool := isDescription path || !(atPath path).isEmpty

/-- Why a path without endpoints names none. -/
def routeError (method path : String) : RouteError :=
  let shorter := withoutEndingSlashes path
  if isDescription path then (if ["GET", "HEAD"].contains method then .notFound else .methodNotAllowed)
  else if shorter ≠ path ∧ isKnown shorter then .movedTo shorter
  else .notFound

/-- The endpoint that a method and a path name. -/
def find (method path : String) : Except RouteError Endpoint :=
  match atPath path with
  | [] => .error (routeError method path)
  | endpoints =>
    match endpoints.lookup method with
    | some endpoint => .ok endpoint
    | none => .error .methodNotAllowed

end Endpoint
end Questionnaire
