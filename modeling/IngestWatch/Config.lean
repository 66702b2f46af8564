import IngestWatch.Codec.Record
import IngestWatch.Log.Format
import IngestWatch.Window

/-!
The configuration: where the service is, how its query rate is polled, which part of
its history is asked for, and what is logged. Each section is a record that starts
from its defaults, so a document has to name only what it changes.
-/

namespace IngestWatch

namespace Config

/-- Where the service is. -/
structure Service where
  baseUrl : String
  pathPrefix : String
  /-- How long to wait for an answer; without a limit if unset. -/
  timeoutSeconds : Option UInt64
deriving DecidableEq, Repr

def Service.default : Service :=
  ⟨"http://localhost:8080", "/DataWave/Ingest/Metrics", none⟩

/-- How the query rate is polled. -/
structure Rate where
  intervalMillis : UInt64
  statisticType : String
deriving DecidableEq, Repr

def Rate.default : Rate :=
  ⟨5000, "queryRate"⟩

/-- Which part of the history is asked for. -/
structure History where
  ingestType : String
  lookbackDays : UInt32
deriving DecidableEq, Repr

def History.default : History :=
  ⟨"bulk", 14⟩

/-- What is logged and in which form; components may have levels of their own. -/
structure Logging where
  level : String
  format : LogFormat
  componentLevels : Option (List (String × String))
deriving DecidableEq, Repr

def Logging.default : Logging :=
  ⟨"info", .pretty, none⟩

/-- The filter of the log as one text: the level, then the level of each component in
ascending order of their names. -/
def Logging.directives (l : Logging) : String :=
  (Keyed.ofList (l.componentLevels.getD [])).foldl
    (fun text (component, level) => s!"{text},ingest_metrics::{component}={level}") l.level

end Config

/-- The whole configuration. -/
structure Config where
  service : Config.Service
  rate : Config.Rate
  history : Config.History
  logging : Config.Logging
deriving DecidableEq, Repr

namespace Config

def default : Config :=
  ⟨.default, .default, .default, .default⟩

/-! ## Documents -/

def Service.record : Record Service where
  title := "struct ServiceConfig"
  fields := [
    .always "base_url" .text baseUrl fun v s => { s with baseUrl := v },
    .always "path_prefix" .text pathPrefix fun v s => { s with pathPrefix := v },
    .whenSet "timeout_seconds" .uint64 timeoutSeconds fun v s => { s with timeoutSeconds := v }]
  start := .default
  strict := false

def Rate.record : Record Rate where
  title := "struct RateConfig"
  fields := [
    .always "interval_millis" .uint64 intervalMillis fun v s => { s with intervalMillis := v },
    .always "statistic_type" .text statisticType fun v s => { s with statisticType := v }]
  start := .default
  strict := false

def History.record : Record History where
  title := "struct HistoryConfig"
  fields := [
    .always "ingest_type" .text ingestType fun v s => { s with ingestType := v },
    .always "lookback_days" .uint32 lookbackDays fun v s => { s with lookbackDays := v }]
  start := .default
  strict := false

/-- The name of a log format in a document must be exact. -/
def formatCodec : Codec LogFormat :=
  .choice LogFormat.named LogFormat.name

def Logging.record : Record Logging where
  title := "struct LoggingConfig"
  fields := [
    .always "level" .text level fun v s => { s with level := v },
    .always "format" formatCodec format fun v s => { s with format := v },
    .whenSet "component_levels" .texts componentLevels fun v s => { s with componentLevels := v }]
  start := .default
  strict := false

def record : Record Config where
  title := "struct MetricsConfig"
  fields := [
    .always "service" Service.record.codec service fun v s => { s with service := v },
    .always "rate" Rate.record.codec rate fun v s => { s with rate := v },
    .always "history" History.record.codec history fun v s => { s with history := v },
    .always "logging" Logging.record.codec logging fun v s => { s with logging := v }]
  start := .default
  strict := false

end Config

/-- A window as a document, all of whose fields must be there. -/
def Window.record : Record Window where
  title := "struct Window"
  fields := [
    .always "start" .int64 start fun v w => { w with start := v },
    .always "end" .int64 stop fun v w => { w with stop := v },
    .always "ingest_type" .text ingestType fun v w => { w with ingestType := v }]
  start := ⟨0, 0, ""⟩
  strict := true

end IngestWatch
