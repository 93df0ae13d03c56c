import Questionnaire.Json.Sending
import Questionnaire.Web.Url

/-!
# Requests and responses

A request is sent by a client, and what reaches the service is its path, its headers and its body. A response
is sent back unless its value cannot be written.

* `Request`: what a client asks; `Request.sent`: what reaches the service, or why nothing does.
* `Response`: what the service answers, with a JSON value or a file.
* `Response.sent`: what reaches the client, or why nothing does.
-/

namespace Questionnaire

/-! ## Requests -/

/-- What a client sends along with a request. -/
inductive Body where
  | none
  | text (s : String)
  /-- A JSON value that the client writes; null is no body. -/
  | json (v : Json)
deriving DecidableEq, Repr

/-- A body as it is written; an empty one is none. -/
def Body.written : Body → Except Json.SendFault (Option String)
  | .none => .ok .none
  | .text s => .ok (if s = "" then .none else some s)
  | .json .null => .ok .none
  | .json v => some <$> v.sent

/-- A request as a client makes it. -/
structure Request where
  method : String
  /-- The URL that is asked for, or the path and the query of one. -/
  target : String
  /-- The headers. -/
  headers : List (String × String) := []
  body : Body := .none
deriving DecidableEq, Repr

/-- A request as it reaches the service. -/
structure Received where
  /-- The method, in capitals. -/
  method : String
  path : String
  headers : List (String × String)
  /-- The body, unless it is empty. -/
  body : Option String
deriving DecidableEq, Repr

/-- Why a request is not sent. -/
inductive RequestFault where
  | badTarget (e : UrlError)
  | badHeader (e : EncodingFault)
  | badBody (e : Json.SendFault)
deriving DecidableEq, Repr

/-- The wording of a request fault. -/
def RequestFault.message : RequestFault → Text
  | badTarget e => e.message
  | badHeader e => e.message
  | badBody e => e.message

/-- The fault of headers as ASCII, their names before their values. -/
def headerFault? (headers : List (String × String)) : Option EncodingFault :=
  headers.findSome? fun (name, value) => (Text.asciiFault? name).orElse fun _ => Text.asciiFault? value

namespace Request

/-- The service as its clients address it. -/
def base : Url := { Url.empty with scheme := "http", host := "service" }

/-- The URL that a request goes to. -/
def url (r : Request) : Except UrlError Url := do base.within (← Url.parse r.target)

/-- The request as it reaches the service: user information in the URL stands in for any other
authorization. -/
def sent (r : Request) : Except RequestFault Received := do
  let url ← r.url.mapError .badTarget
  if let some e := headerFault? r.headers then throw (.badHeader e)
  let body ← r.body.written.mapError .badBody
  if let some e := url.refusal? then throw (.badTarget e)
  let given := url.authorization?.toList.map fun authorization => ("authorization", authorization)
  return { method := r.method.toUpper, path := Percent.decode (if url.path = "" then "/" else url.path),
           headers := given ++ r.headers, body }

end Request

/-- The value of a header, whose name is given in lower case. -/
def Received.header? (r : Received) (name : String) : Option String :=
  (r.headers.find? fun h => h.1.toLower = name).map (·.2)

/-! ## Responses -/

/-- What a response carries. -/
inductive Content where
  | none
  /-- A JSON value that the service answers with. -/
  | answer (v : Json)
  /-- A JSON document that reports an error. -/
  | report (v : Json)
  | plain (text : String)
  | file (mediaType name text : String)

namespace Content

/-- The content as it is written. -/
def written : Content → Except Text String
  | none => .ok ""
  | answer v => v.answered.mapError Json.AnswerFault.message
  | report v => v.sent.mapError Json.SendFault.message
  | plain text => .ok text
  | file _ _ text => .ok text

/-- The headers that describe the content. -/
def headers : Content → List (String × String)
  | none => []
  | answer _ | report _ => [("content-type", "application/json")]
  | plain _ => [("content-type", "text/plain; charset=utf-8")]
  | file mediaType name _ =>
    [("content-type", mediaType), ("content-disposition", "attachment; filename=\"" ++ name ++ "\"")]

end Content

/-- A response of the service. -/
structure Response where
  status : Nat
  content : Content
  /-- Headers beside those of the content. -/
  headers : List (String × String) := []

/-- A response as it reaches a client. -/
structure Delivered where
  status : Nat
  headers : List (String × String)
  body : String
deriving DecidableEq, Repr

namespace Response

/-- The status of a success. -/
def okStatus : Nat := 200

/-- A success with a JSON value. -/
def ok (v : Json) : Response := { status := okStatus, content := .answer v }

/-- An error with its details. -/
def detail (status : Nat) (v : Json) : Response := { status, content := .report (.obj [("detail", v)]) }

/-- The response as it reaches a client, or why it cannot be sent. Who asks with `HEAD` gets no body. -/
def sent (r : Response) (method : String) : Except Text Delivered := do
  let body ← r.content.written
  return { status := r.status, headers := r.content.headers ++ r.headers, body := if method = "HEAD" then "" else body }

end Response
end Questionnaire
