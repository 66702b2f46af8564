import IngestWatch.Fetch
import IngestWatch.Http.MediaType
import IngestWatch.Json.Reader
import IngestWatch.Text.Charset

/-!
Requests and answers of the protocol by which the service is reached, and what the last
answer to a request says about the value that was asked for.
-/

namespace IngestWatch

namespace Http

/-- What is asked, and where. -/
structure Request where
  /-- May nobody read along? -/
  secure : Bool
  /-- The host and the port. -/
  place : String
  /-- The path and the query. -/
  target : String
deriving DecidableEq, Repr

/-- A response as it comes: its body may be longer or shorter than it says. -/
structure Response where
  status : Nat
  headers : List (String × String)
  body : List UInt8
  length : Nat
deriving DecidableEq, Repr

/-- What comes of a request. -/
inductive Answer where
  /-- No connection, or one that ends before there is a response. -/
  | broken
  /-- No response in time. -/
  | silent
  | response (r : Response)
deriving DecidableEq, Repr

namespace Response

/-- The first value of a header, whose name has no case. -/
def header? (r : Response) (name : String) : Option String :=
  (r.headers.find? fun h => h.1.toLower = name).map fun h => String.ofList (blankless h.2.toList)
where
  blankless (cs : List Char) : List Char :=
    let blank (c : Char) : Bool := c = ' ' || c = '\t'
    Text.dropEndWhile blank (cs.dropWhile blank)

/-- Is the status one that a last response can have? -/
def isFinal (r : Response) : Bool :=
  r.status = 101 || (200 ≤ r.status && r.status ≤ 999)

/-- Does the status say that there is no body? -/
def isBodiless (r : Response) : Bool :=
  r.status = 204 || r.status = 304

/-- The character set that the response names, or the usual one. -/
def charset (r : Response) : Text.Charset :=
  let label := (r.header? "content-type").bind fun value =>
    (MediaType.parse? value).bind (·.parameter? "charset")
  (label.bind Text.Charset.ofLabel?).getD .utf8

/-- The text of the body, if all of it is there. -/
def text? (r : Response) : Option String :=
  if r.isBodiless then some ""
  else if r.body.length < r.length then none
  else some (String.ofList (r.charset.decodeMarked (r.body.take r.length)))

end Response

/-- A way to read the text of a body, if it can be read. -/
abbrev Reading := Response → Option String

/-- What a request has come to after all its answers: no response, or a status and a body
whose text may not be readable. -/
inductive Exchange where
  | failed (failure : FetchFailure)
  | answered (status : Nat) (body : Option String)
deriving DecidableEq, Repr

namespace Exchange

def ofResponse (read : Reading) (r : Response) : Exchange :=
  .answered r.status (read r)

/-- Does a status report success? -/
def isSuccess (status : Nat) : Bool :=
  200 ≤ status && status ≤ 299

/-- The value that an exchange gives: the body of a successful response as one document. -/
def fetched : Exchange → Fetched
  | .failed failure => .error failure
  | .answered status body =>
    if isSuccess status then
      match body with
      | none => .error (.badBody "error decoding response body")
      | some text => (Json.parse Json.usualDepth text).mapError .badBody
    else .error (.badStatus status)

end Exchange

end Http

end IngestWatch
