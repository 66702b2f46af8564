import IngestWatch.Config.Overrides
import IngestWatch.Log.Filter

/-!
Where the log goes: which events of a run are written, and how.
-/

namespace IngestWatch.Log

/-- What is written of the log, and in which form. -/
structure Sink where
  filter : Filter
  format : LogFormat
  colour : Bool
deriving Repr

namespace Sink

/-- Colour is left out only where a variable asks for that. -/
def wantsColour (env : Environment) : Bool :=
  ((env "NO_COLOR").getD "").isEmpty

/-- The sink that the environment and a configuration ask for, with what there is to
complain about. -/
def new (env : Environment) (logging : Config.Logging) : Sink × List String :=
  let (filter, complaints) := Filter.choose (env "RUST_LOG") logging.directives
  (⟨filter, logging.format, wantsColour env⟩, complaints)

/-- The line that is written for an event, if one is. -/
def line? (s : Sink) (stamp : String) (e : Event) : Option String :=
  if s.filter.allows e then some (e.line s.format s.colour stamp) else none

end Sink

end IngestWatch.Log
