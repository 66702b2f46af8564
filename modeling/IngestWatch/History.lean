import IngestWatch.Fetch
import IngestWatch.Target
import IngestWatch.Window

/-!
The ingest history of a window: the records of the last answer that was a list.
-/

namespace IngestWatch

/-- A window onto the history and the records last seen through it. -/
structure History where
  pathPrefix : String
  window : Window
  records : List Json

namespace History

def new (pathPrefix : String) (window : Window) : History :=
  ⟨pathPrefix, window, []⟩

def setStart (h : History) (start : Int) : History :=
  { h with window := { h.window with start := start } }

def setStop (h : History) (stop : Int) : History :=
  { h with window := { h.window with stop := stop } }

def setIngestType (h : History) (ingestType : String) : History :=
  { h with window := { h.window with ingestType := ingestType } }

/-- The request for the records of the window as it is now. -/
def target (h : History) : String :=
  Target.history h.pathPrefix h.window.start h.window.stop h.window.ingestType

/-- The records of an answer: the items of a list, and nothing else will do. -/
def recordsOf : Fetched → Except FetchFailure (List Json)
  | .error failure => .error failure
  | .ok (.arr items) => .ok items
  | .ok v => .error (.badBody s!"expected a JSON array of history entries, got {v.kind}")

/-- Takes an answer. A list replaces the records; anything else leaves them. -/
def receive (h : History) (answer : Fetched) : History × Except FetchFailure (List Json) :=
  match recordsOf answer with
  | .ok records => ({ h with records := records }, .ok records)
  | .error failure => (h, .error failure)

end History

end IngestWatch
