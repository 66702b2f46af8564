import IngestWatch.Text.Blank
import IngestWatch.Url.Percent
import IngestWatch.Json.Writer

/-!
The path and query of the two requests the service knows: the current
statistics, and the ingest history of a time window.
-/

namespace IngestWatch.Target

/-- A name and its value as they stand in a query. -/
def pair (name value : String) : String :=
  name ++ "=" ++ Url.encodeValue value

/-- The request for the current value of a statistic. -/
def statistics (pathPrefix statistic : String) : String :=
  Text.trimSlashes pathPrefix ++ "/services/statistics?" ++ pair "type" statistic

/-- The request for the history between two instants. -/
def history (pathPrefix : String) (start stop : Int) (ingestType : String) : String :=
  Text.trimSlashes pathPrefix ++ "/services/ecs?start=" ++ String.ofList (Json.intChars start)
    ++ "&end=" ++ String.ofList (Json.intChars stop) ++ "&" ++ pair "ingestType" ingestType

/-- The part of a request before its query, by which the metrics are kept. -/
def label (target : String) : String :=
  match Text.cutAt? '?' target.toList with
  | some (path, _) => String.ofList path
  | none => target

end IngestWatch.Target
