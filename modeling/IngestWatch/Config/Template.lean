/-!
The configuration file that a new user starts from: every key with its default and a word
about it.
-/

namespace IngestWatch.Config

def templateLines : List String :=
  [
    "# ingest-metrics client configuration",
    "#",
    "# Every key is optional; omitted keys take the values shown here.",
    "# Environment variables (INGEST_METRICS_*) override this file and",
    "# command-line flags override both.",
    "",
    "[service]",
    "# Scheme, host and port of the ingest-metrics web service (INGEST_METRICS_URL)",
    "base_url = \"http://localhost:8080\"",
    "# Path under which /services/statistics and /services/ecs are mounted",
    "path_prefix = \"/DataWave/Ingest/Metrics\"",
    "# Per-request timeout in seconds; leave unset to wait as long as the server does",
    "# timeout_seconds = 30",
    "",
    "[rate]",
    "# Milliseconds between polling cycles (INGEST_METRICS_POLL_INTERVAL)",
    "interval_millis = 5000",
    "# Statistic requested from /services/statistics",
    "statistic_type = \"queryRate\"",
    "",
    "[history]",
    "# Ingest-type filter (INGEST_METRICS_INGEST_TYPE)",
    "ingest_type = \"bulk\"",
    "# Days before today included in the default window",
    "lookback_days = 14",
    "",
    "[logging]",
    "# trace, debug, info, warn, error (INGEST_METRICS_LOG_LEVEL)",
    "level = \"info\"",
    "# pretty, compact or json (INGEST_METRICS_LOG_FORMAT)",
    "format = \"pretty\"",
    "",
    "# [logging.component_levels]",
    "# rate = \"debug\"",
    "# transport = \"trace\""
  ]

def template : String :=
  String.join (templateLines.map (· ++ "\n"))

end IngestWatch.Config
