import IngestWatch.Config.Check
import IngestWatch.Invocation

/-!
The configuration of a command: that of its file or the defaults, then the environment,
then the command line. It has to pass the check before it is used.
-/

namespace IngestWatch

/-- The configuration that a check lets through. -/
def Config.checked (c : Config) : Except Config.Fault Config := do
  c.validate
  pure c

namespace RateOptions

/-- Lays what the command line says over a configuration. -/
def apply (o : RateOptions) (c : Config) : Config :=
  { c with rate := { c.rate with
      intervalMillis := o.interval.getD c.rate.intervalMillis } }

/-- The configuration of the command. `place` is what stands at the path of its file. -/
def settings (o : RateOptions) (env : Environment) (place : Place) : Except Config.Fault Config := do
  (o.apply (← Config.loadForCommand o.config place env o.url o.logLevel)).checked

end RateOptions

namespace HistoryOptions

/-- Lays what the command line says over a configuration. -/
def apply (o : HistoryOptions) (c : Config) : Config :=
  { c with history := {
      ingestType := o.ingestType.getD c.history.ingestType
      lookbackDays := o.lookbackDays.getD c.history.lookbackDays } }

/-- The configuration of the command. `place` is what stands at the path of its file. -/
def settings (o : HistoryOptions) (env : Environment) (place : Place) :
    Except Config.Fault Config := do
  (o.apply (← Config.loadForCommand o.config place env o.url o.logLevel)).checked

end HistoryOptions

end IngestWatch
