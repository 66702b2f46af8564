import IngestWatch.Calendar
import IngestWatch.Calendar.Zone
import IngestWatch.Json

/-!
The stretch of time whose ingest history is asked for.
-/

namespace IngestWatch

open Calendar

/-- The instants from `start` up to but not including `stop`, in epoch milliseconds,
and the kind of ingest. -/
structure Window where
  start : Int
  stop : Int
  ingestType : String
deriving DecidableEq, Repr

namespace Window

/-- The last reading of a day's clock. -/
def lastMillis : Int := millisPerDay - 1

/-- All of the present day of a zone and a number of days before it. -/
def endingToday (zone : Zone) (now : Int) (lookbackDays : Nat) (ingestType : String) : Window :=
  let midnight := dayOf (zone.wallAt now) * millisPerDay
  ⟨zone.instantOf midnight - lookbackDays * millisPerDay,
    zone.instantOf (midnight + lastMillis) + 1,
    ingestType⟩

/-- The nearest number that fits 64 bits with a sign. -/
def saturate (n : Int) : Int :=
  max (-0x8000000000000000) (min 0x7fffffffffffffff n)

/-- The length in milliseconds; negative for a window that ends before it starts. -/
def span (w : Window) : Int :=
  saturate (w.stop - w.start)

/-- Nothing can lie in a window that is empty or inverted. -/
def isVoid (w : Window) : Bool :=
  w.stop ≤ w.start

def toJson (w : Window) : Json :=
  .obj [("end", .int w.stop), ("ingest_type", .str w.ingestType), ("start", .int w.start)]

end Window

end IngestWatch
