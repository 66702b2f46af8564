import IngestWatch.Json

/-!
What one request to the service can come to: a JSON value or one of four kinds
of failure.
-/

namespace IngestWatch

/-- Why a request gave no usable value. -/
inductive FetchFailure where
  | timedOut (seconds : Nat)
  | noConnection (reason : String)
  | badStatus (status : Nat)
  | badBody (reason : String)
deriving DecidableEq, Repr

def FetchFailure.message : FetchFailure → String
  | .timedOut seconds => s!"request timeout after {seconds}s"
  | .noConnection reason => s!"connection failed: {reason}"
  | .badStatus status => s!"HTTP error: {status}"
  | .badBody reason => s!"invalid response: {reason}"

/-- The result of a request. -/
abbrev Fetched := Except FetchFailure Json

namespace Fetched

/-- What a request comes to when the service has nothing left to say. -/
def exhausted : Fetched := .error (.noConnection "script exhausted")

/-- Takes the next result of a script. -/
def next : List Fetched → Fetched × List Fetched
  | [] => (exhausted, [])
  | r :: rest => (r, rest)

end Fetched

end IngestWatch
