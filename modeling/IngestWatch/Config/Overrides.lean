import IngestWatch.Config.Load
import IngestWatch.Decimal.Whole

/-!
Settings that go over those of the file: environment variables, and over them what
the command line says.
-/

namespace IngestWatch

/-- The environment of a command: the value of a variable, if it is set. -/
abbrev Environment := String → Option String

namespace Config

/-- The configuration with the variables that are set. One that does not name a usable
value changes nothing. -/
def withEnvironment (env : Environment) (c : Config) : Config :=
  { service := { c.service with
      baseUrl := (env "INGEST_METRICS_URL").getD c.service.baseUrl }
    rate := { c.rate with
      intervalMillis :=
        ((env "INGEST_METRICS_POLL_INTERVAL").bind fun s => (Decimal.readUInt64 s).toOption).getD
          c.rate.intervalMillis }
    history := { c.history with
      ingestType := (env "INGEST_METRICS_INGEST_TYPE").getD c.history.ingestType }
    logging := { c.logging with
      level := (env "INGEST_METRICS_LOG_LEVEL").getD c.logging.level
      format :=
        ((env "INGEST_METRICS_LOG_FORMAT").bind fun s => (LogFormat.read s).toOption).getD
          c.logging.format } }

/-- The configuration with a base URL and a log level from the command line. -/
def withFlags (url level : Option String) (c : Config) : Config :=
  { c with
    service := { c.service with baseUrl := url.getD c.service.baseUrl }
    logging := { c.logging with level := level.getD c.logging.level } }

/-- The configuration of a command: its file or the defaults, then the environment,
then the command line. -/
def loadForCommand (path : String) (place : Place) (env : Environment)
    (url level : Option String) : Except Fault Config := do
  pure (((← loadOrDefault path place).withEnvironment env).withFlags url level)

end Config

end IngestWatch
