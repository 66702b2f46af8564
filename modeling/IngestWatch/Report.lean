import IngestWatch.Calendar
import IngestWatch.Calendar.Zone
import IngestWatch.Grid
import IngestWatch.Json.Writer
import IngestWatch.Window

/-!
What is shown of a record of the query rate and of the records of a window, as a
table or as JSON.
-/

namespace IngestWatch.Report

open Calendar

/-- How a report is shown: whether in colour, and by the clocks of which zone. -/
structure Display where
  colour : Bool
  zone : Zone

def bold (d : Display) (s : String) : String :=
  if d.colour then s!"\x1b[1m{s}\x1b[0m" else s

/-- The text of a value in a cell: strings bare, null as nothing, all else as JSON. -/
def cellText : Json → String
  | .str s => s
  | .null => ""
  | v => v.compact

/-! ## The query rate -/

/-- The fields of a record, one a row; a record without fields is one value. -/
def rateGrid (record : Json) : Grid :=
  { header := ["Statistic", "Value"]
    rows := match record with
      | .obj members => members.map fun (k, v) => [k, cellText v]
      | v => [["value", cellText v]] }

def rateTable (d : Display) (at_ : Moment) (record : Json) : String :=
  bold d s!"Query rate at {at_.text}" ++ "\n" ++ (rateGrid record).draw

/-- One line of JSON. -/
def rateJson (at_ : Moment) (record : Json) : String :=
  (Json.obj [("fetched_at", .str at_.rfc3339), ("record", record)]).compact

/-! ## The history -/

/-- The local time of a bound; one that no calendar date reaches is only a number. -/
def boundText (d : Display) (millis : Int) : String :=
  if -8334601228800000 ≤ millis ∧ millis < 8210266876800000 then
    s!"{(Moment.ofMillis millis (d.zone.offsetAt millis)).millisText} ({millis})"
  else s!"{millis}"

/-- Adds the keys of a record that are not yet among the columns. -/
def addColumns (columns : List String) : Json → List String
  | .obj members =>
    members.foldl (fun cs m => if cs.contains m.1 then cs else cs ++ [m.1]) columns
  | _ => columns

def isObject : Json → Bool
  | .obj _ => true
  | _ => false

/-- The keys of all records in the order in which they first occur. -/
def columns (records : List Json) : List String :=
  records.foldl addColumns []

/-- Is a column for values that have no fields needed? -/
def hasBare (records : List Json) : Bool :=
  records.any fun r => !isObject r

/-- The cells of a record after its number. -/
def recordCells (columns : List String) (bareColumn : Bool) : Json → List String
  | .obj members =>
    (columns.map fun c => ((Keyed.find? c members).map cellText).getD "")
      ++ (if bareColumn then [""] else [])
  | v => columns.map (fun _ => "") ++ [cellText v]

/-- A row for each record; the columns are its number, then every key that occurs,
then the value of records that are no objects. -/
def historyGrid (records : List Json) : Grid :=
  let cols := columns records
  let bare := hasBare records
  { header := "#" :: cols ++ (if bare then ["value"] else [])
    rows := records.mapIdx fun i r => toString (i + 1) :: recordCells cols bare r }

def historyTable (d : Display) (w : Window) (records : List Json) : String :=
  let title := bold d "Ingest history"
  let bounds := s!"{boundText d w.start} → {boundText d w.stop}"
  s!"{title} {bounds}  ingestType={w.ingestType}  ({records.length} records)\n"
    ++ (historyGrid records).draw

/-- The window and its records as indented JSON. -/
def historyJson (w : Window) (records : List Json) : String :=
  (Json.obj [("records", .arr records), ("window", w.toJson)]).pretty

end IngestWatch.Report
