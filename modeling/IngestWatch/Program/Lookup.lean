import IngestWatch.Config
import IngestWatch.History
import IngestWatch.Invocation
import IngestWatch.Program.Events
import IngestWatch.Program.Remark
import IngestWatch.Report
import IngestWatch.Transport

/-!
Looking up the history of a window: one request, and a report of the records that it
gives.
-/

namespace IngestWatch

/-- A window whose history is asked for. -/
structure Lookup where
  transport : Transport
  history : History
  json : Bool
  display : Report.Display

namespace Lookup

/-- What is asked for. -/
def target (l : Lookup) : String :=
  l.history.target

/-- The window of a command: the one that ends today in a zone, with the bounds that are
given. -/
def windowOf (c : Config) (o : HistoryOptions) (zone : Calendar.Zone) (now : Int) : Window :=
  let w := Window.endingToday zone now c.history.lookbackDays.toNat c.history.ingestType
  { w with start := o.start.getD w.start, stop := o.stop.getD w.stop }

/-- The start of a lookup, and what is said about it. -/
def new (c : Config) (o : HistoryOptions) (display : Report.Display) (now : Int) :
    Lookup × List Remark :=
  let window := windowOf c o display.zone now
  let l : Lookup :=
    { transport := .new c.service.baseUrl (c.service.timeoutSeconds.map UInt64.toNat)
      history := .new c.service.pathPrefix window
      json := o.json
      display := display }
  (l, (if window.isVoid then [.logged (.voidWindow window)] else [])
    ++ [.logged (.lookingUp c.service.baseUrl l.target)])

/-- The report of the records. -/
def report (l : Lookup) (records : List Json) : String :=
  if l.json then Report.historyJson l.history.window records
  else Report.historyTable l.display l.history.window records

/-- Takes what came of the request. -/
def receive (l : Lookup) (result : Fetched) : List Remark × Except FetchFailure Unit :=
  let said := Remark.logged (.ofFetch (l.transport.address l.target) result)
  match (l.history.receive result).2 with
  | .error reason => ([said], .error reason)
  | .ok records =>
    ([said, .logged (.historyFetched l.target records.length), .line (l.report records)],
      .ok ())

end Lookup

end IngestWatch
