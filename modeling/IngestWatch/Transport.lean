import IngestWatch.Http.Client
import IngestWatch.Target

/-!
Fetching values from the service: what is asked for below a base URL, and the metrics
that are kept of every request.
-/

namespace IngestWatch

/-- Where the service is and how long to wait for it. -/
structure Transport where
  baseUrl : String
  timeoutSeconds : Option Nat
deriving DecidableEq, Repr

/-- A sample or a count that is kept of a request. -/
inductive Metric where
  | latency (label : String)
  | failure (label : String)
deriving DecidableEq, Repr

def Metric.name : Metric → String
  | .latency _ => "ingest_metrics_fetch_latency_seconds"
  | .failure _ => "ingest_metrics_fetch_failures_total"

def Metric.label : Metric → String
  | .latency label | .failure label => label

namespace Transport

/-- The slashes at the end of a base URL do not count, as every target begins with one. -/
def new (baseUrl : String) (timeoutSeconds : Option Nat) : Transport :=
  ⟨Text.trimSlashes baseUrl, timeoutSeconds⟩

/-- The address of a target. -/
def address (t : Transport) (target : String) : String :=
  t.baseUrl ++ target

/-- Fetches the value of a target, with a way to read the text of a response. -/
def exchangeBy (read : Http.Reading) (t : Transport) (target : String) :
    Http.Conversation Http.Exchange :=
  Http.getBy read t.timeoutSeconds (t.address target)

/-- Fetches the value of a target. -/
def exchange (t : Transport) (target : String) : Http.Conversation Http.Exchange :=
  Http.get t.timeoutSeconds (t.address target)

/-- What is kept of a request: how long it took, and whether it failed. -/
def metrics (target : String) (result : Fetched) : List Metric :=
  let label := Target.label target
  match result with
  | .ok _ => [.latency label]
  | .error _ => [.latency label, .failure label]

end Transport

end IngestWatch
