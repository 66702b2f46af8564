import IngestWatch.CommandLine.Fault
import IngestWatch.Config.Overrides
import IngestWatch.Disk
import IngestWatch.Fetch
import IngestWatch.Http.Network
import IngestWatch.Report

/-!
What a run meets, and how it can end.
-/

namespace IngestWatch

/-- The surroundings of a run. The clock stands still: how long answers take is not told. -/
structure World where
  environment : Environment
  disk : Disk
  network : Http.Network
  zone : Calendar.Zone
  /-- The time, in milliseconds. -/
  now : Int

/-- Are reports shown in colour though nobody may look at them? -/
def Environment.forcesColour (env : Environment) : Bool :=
  match env "CLICOLOR_FORCE" with
  | some value => value ≠ "0"
  | none => false

namespace World

/-- How the reports of a run are shown. -/
def display (w : World) : Report.Display :=
  ⟨w.environment.forcesColour, w.zone⟩

/-- What the clocks of the zone show. -/
def clock (w : World) : Calendar.Moment :=
  w.zone.momentAt w.now

end World

/-- How a run ends. -/
inductive Ending where
  | done
  | failed (message : String)
  /-- The command line is not carried out. -/
  | refused (fault : CommandLine.Fault)
deriving DecidableEq, Repr

namespace Ending

def ofFetch : Except FetchFailure Unit → Ending
  | .ok () => .done
  | .error reason => .failed reason.message

/-- What the run tells its caller. -/
def exitCode : Ending → Nat
  | done => 0
  | failed _ => 1
  | refused fault => fault.exitCode

/-- The last words to the reader. -/
def output : Ending → String
  | refused fault => if fault.isAnswer then fault.message else ""
  | _ => ""

/-- The last words beside the output. -/
def complaint : Ending → String
  | done => ""
  | failed message => s!"Error: {message}\n"
  | refused fault =>
    if fault.isAnswer then ""
    else
      match fault with
      | .noCommand text => text
      | _ => fault.message ++ "\n\nFor more information, try '--help'.\n"

end Ending

end IngestWatch
