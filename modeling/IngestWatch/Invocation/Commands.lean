import IngestWatch.CommandLine
import IngestWatch.Invocation

/-!
The commands of the program as they are described and read.
-/

namespace IngestWatch.Invocation

open CommandLine

/-- The name of the configuration file where none is given. -/
def defaultConfig : String := "ingest-metrics.toml"

/-- A value that nothing says but the command line. -/
def plainValue (label : String) (kind : Kind) : Value :=
  ⟨label, kind, false, none, none⟩

def configOpt : Opt :=
  ⟨"config", some 'c', "Path to configuration file",
    some { plainValue "CONFIG" .path with initialText := some defaultConfig }⟩

def urlOpt : Opt :=
  ⟨"url", some 'u', "Override service base URL",
    some { plainValue "URL" .text with envName := some "INGEST_METRICS_URL" }⟩

def jsonOpt : Opt :=
  ⟨"json", none, "Output as JSON", none⟩

def logLevelOpt : Opt :=
  ⟨"log-level", some 'l', "Set log level (trace, debug, info, warn, error)",
    some { plainValue "LOG_LEVEL" .text with envName := some "INGEST_METRICS_LOG_LEVEL" }⟩

def rateCommand : Command :=
  .action "rate" "Fetch or poll query-rate statistics"
    [configOpt, urlOpt,
      ⟨"interval", some 'i', "Polling interval in milliseconds", some (plainValue "INTERVAL" .uint64)⟩,
      ⟨"once", none, "Fetch a single snapshot and exit", none⟩,
      ⟨"count", some 'n', "Stop after printing this many snapshots", some (plainValue "COUNT" .uint64)⟩,
      jsonOpt, logLevelOpt]
    none [("once", "count")]

def historyCommand : Command :=
  .action "history" "Fetch ingest history for a time window"
    [configOpt, urlOpt,
      ⟨"start", some 's', "Window start, epoch milliseconds (inclusive)",
        some { plainValue "START" .int64 with signed := true }⟩,
      ⟨"end", some 'e', "Window end, epoch milliseconds (exclusive)",
        some { plainValue "END" .int64 with signed := true }⟩,
      ⟨"ingest-type", some 't', "Ingest-type filter", some (plainValue "INGEST_TYPE" .text)⟩,
      ⟨"lookback-days", none, "Days before today included in the default window",
        some (plainValue "LOOKBACK_DAYS" .uint32)⟩,
      jsonOpt, logLevelOpt]
    none []

def initCommand : Command :=
  .action "init" "Initialize a new configuration file"
    [⟨"output", some 'o', "Output file path",
        some { plainValue "OUTPUT" .path with initialText := some defaultConfig }⟩,
      ⟨"force", some 'f', "Overwrite existing file", none⟩]
    none []

def shellOperand : Operand :=
  ⟨"SHELL", .choice (Shell.named.map Prod.fst), "Shell to generate completions for", true⟩

def completionsCommand : Command :=
  .action "completions" "Generate shell completions" [] (some shellOperand) []

/-- The program. -/
def program : Command :=
  .group "ingest-metrics" "Query-rate polling and ingest history client" (some "0.1.0")
    [rateCommand, historyCommand, .group "config" "Configuration utilities" none [initCommand],
      completionsCommand]

end IngestWatch.Invocation
