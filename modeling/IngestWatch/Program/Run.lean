import IngestWatch.Http.Network.Progress
import IngestWatch.Invocation.Reader
import IngestWatch.Log.Sink
import IngestWatch.Program.Completions
import IngestWatch.Program.Init
import IngestWatch.Program.Lookup
import IngestWatch.Program.Settings
import IngestWatch.Program.Watch
import IngestWatch.Program.World

/-!
A whole run of the program in a world: from the arguments to what is said, how it ends and
what has become of the world. The log settings only decide how events are written
afterwards.
-/

namespace IngestWatch

open Http (Network)

/-- What a run has come to. -/
structure Run where
  /-- How the log is to be written, once a configuration has said it. -/
  logging : Option Config.Logging
  remarks : List Remark
  ending : Ending
  /-- The world afterwards. -/
  world : World

/-- Watches the query rate to the end. As a value that is followed by another request
uses up an answer, there is one. -/
def Watch.run (w : Watch) (now : Calendar.Moment) (n : Network) :
    List Remark × Except FetchFailure Unit × Network :=
  let fetch := n.converse (w.transport.exchange w.target)
  match _h : w.receive ⟨fetch.1.fetched, now, 0⟩ with
  | (said, .settled result) => (said, result, fetch.2)
  | (said, .again next _) =>
    let (more, result, left) := next.run now fetch.2
    (said ++ more, result, left)
termination_by n.answers.length
decreasing_by
  obtain ⟨body, value⟩ := Watch.isOk_of_again (congrArg Prod.snd _h)
  exact Network.length_answers_converse_lt value

/-- Looks the history up. -/
def Lookup.run (l : Lookup) (n : Network) : List Remark × Except FetchFailure Unit × Network :=
  let (exchange, left) := n.converse (l.transport.exchange l.target)
  let (said, result) := l.receive exchange.fetched
  (said, result, left)

namespace Run

/-- A run that comes to nothing in a world. -/
def stopped (w : World) (ending : Ending) : Run :=
  ⟨none, [], ending, w⟩

end Run

def RateOptions.run (o : RateOptions) (w : World) : Run :=
  match o.settings w.environment (w.disk.place o.config) with
  | .error fault => .stopped w (.failed fault.message)
  | .ok c =>
    let (watch, before) := Watch.new c o w.display
    let (said, result, network) := watch.run w.clock w.network
    ⟨some c.logging, before ++ said, .ofFetch result, { w with network }⟩

def HistoryOptions.run (o : HistoryOptions) (w : World) : Run :=
  match o.settings w.environment (w.disk.place o.config) with
  | .error fault => .stopped w (.failed fault.message)
  | .ok c =>
    let (lookup, before) := Lookup.new c o w.display w.now
    let (said, result, network) := lookup.run w.network
    ⟨some c.logging, before ++ said, .ofFetch result, { w with network }⟩

def InitOptions.run (o : InitOptions) (w : World) : Run :=
  match o.write w.disk with
  | .error fault => .stopped w (.failed fault.message)
  | .ok disk => ⟨none, o.remarks, .done, { w with disk }⟩

/-- Carries a command out. -/
def Invocation.run (i : Invocation) (w : World) : Run :=
  match i with
  | .rate o => o.run w
  | .history o => o.run w
  | .init o => o.run w
  | .completions shell => ⟨none, [.printed shell.script], .done, w⟩

/-- The run of a command line in a world. -/
def World.run (w : World) (arguments : List String) : Run :=
  match Invocation.parse w.environment arguments with
  | .ok invocation => invocation.run w
  | .error fault => .stopped w (.refused fault)

namespace Run

def exitCode (r : Run) : Nat :=
  r.ending.exitCode

/-- The text of the standard output. -/
def output (r : Run) : String :=
  outputOf r.remarks ++ r.ending.output

/-- The lines of the log: complaints about its settings, then the events. -/
def logLines (r : Run) : List String :=
  match r.logging with
  | none => []
  | some logging =>
    let (sink, complaints) := Log.Sink.new r.world.environment logging
    complaints ++ (eventsOf r.remarks).filterMap (sink.line? r.world.clock.utcText)

/-- The text beside the standard output. -/
def errors (r : Run) : String :=
  String.join (r.logLines.map (· ++ "\n")) ++ r.ending.complaint

end Run

end IngestWatch
