import IngestWatch.Fetch
import IngestWatch.Log.Event
import IngestWatch.Window

/-!
What the log says about a run.
-/

namespace IngestWatch.Log.Event

def number (n : Nat) : Json := .int n

/-! ## Requests -/

def ofFetch (address : String) : Fetched → Event
  | .ok _ => ⟨.debug, "ingest_metrics::transport", "Fetch succeeded", [("url", .str address)]⟩
  | .error reason =>
    ⟨.debug, "ingest_metrics::transport", "Fetch failed",
      [("url", .str address), ("error", .str reason.message)]⟩

/-! ## The query rate -/

def watching (baseUrl target : String) : Event :=
  ⟨.info, "ingest_metrics::cli::rate", "Fetching query rate",
    [("base_url", .str baseUrl), ("endpoint", .str target)]⟩

def pollingEnabled (interval : Nat) : Event :=
  ⟨.debug, "ingest_metrics::rate", "Polling enabled", [("interval_millis", number interval)]⟩

def pollingDisabled : Event :=
  ⟨.debug, "ingest_metrics::rate", "Polling disabled", []⟩

/-- A cycle that took some milliseconds. -/
def refreshed (target : String) (took : Nat) (rescheduled : Bool) : Event :=
  ⟨.debug, "ingest_metrics::rate", "Query rate refreshed",
    [("endpoint", .str target), ("latency_ms", number took), ("rescheduled", .bool rescheduled)]⟩

def halted (target : String) (reason : FetchFailure) : Event :=
  ⟨.warn, "ingest_metrics::rate", "Query rate fetch failed, polling chain halted",
    [("endpoint", .str target), ("error", .str reason.message)]⟩

/-! ## The history -/

def voidWindow (w : Window) : Event :=
  ⟨.warn, "ingest_metrics::cli::history", "Window is empty or inverted",
    [("start", .int w.start), ("end", .int w.stop)]⟩

def lookingUp (baseUrl target : String) : Event :=
  ⟨.info, "ingest_metrics::cli::history", "Fetching ingest history",
    [("base_url", .str baseUrl), ("url", .str target)]⟩

def historyFetched (target : String) (count : Nat) : Event :=
  ⟨.debug, "ingest_metrics::history", "Ingest history fetched",
    [("url", .str target), ("records", number count)]⟩

end IngestWatch.Log.Event
