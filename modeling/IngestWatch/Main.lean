import IngestWatch.Http.Wire
import IngestWatch.Program.Run
import Std.Async.DNS
import Std.Async.TCP
import Std.Async.Timer
import Std.Time

/-!
The program in the real world: its arguments, environment, files, clock and connections.
What it does with them is said elsewhere.
-/

open IngestWatch

namespace IngestWatch.Outside

open Std.Async

/-! ## Surroundings -/

/-- The variables that the program looks at. -/
def variableNames : List String :=
  ["INGEST_METRICS_URL", "INGEST_METRICS_POLL_INTERVAL", "INGEST_METRICS_INGEST_TYPE",
    "INGEST_METRICS_LOG_LEVEL", "INGEST_METRICS_LOG_FORMAT", "RUST_LOG", "NO_COLOR",
    "CLICOLOR_FORCE"]

def environment : IO Environment := do
  let values ← variableNames.filterMapM fun name => do
    pure ((← IO.getEnv name).map fun value => (name, value))
  pure fun name => values.lookup name

/-- Why the system did not open a file. -/
def refusal : IO.Error → String
  | .noFileOrDirectory _ _ _ => Disk.Fault.noDirectory.message
  | .permissionDenied _ code details => s!"{details} (os error {code})"
  | error => error.toString

/-- What stands at a path. -/
def placeAt (path : String) : IO Place := do
  let here := (← IO.currentDir) / path
  if ← here.isDir then pure .directory
  else if ← here.pathExists then
    try
      pure (.file (← IO.FS.readBinFile here).toList)
    catch error => pure (.closed (refusal error))
  else pure .nothing

/-- The local zone, or that of UTC where nothing is known about it. -/
def localZone : IO Calendar.Zone := do
  try
    let rules ← Std.Time.Database.defaultGetLocalZoneRules
    pure ⟨rules.initialLocalTimeType.gmtOffset.second.val,
      (rules.transitions.map fun t => (t.time.val, t.localTimeType.gmtOffset.second.val)).toList⟩
  catch _ => pure (.fixed 0)

/-- The time in milliseconds. -/
def now : IO Int := do
  pure (← Std.Time.Timestamp.now).toMillisecondsSinceUnixEpoch.val

/-! ## Connections -/

partial def receiveAll (socket : TCP.Socket.Client) (got : ByteArray) : Async ByteArray := do
  match ← socket.recv? 65536 with
  | some bytes => receiveAll socket (got ++ bytes)
  | none => pure got

def socketAddress (address : Std.Net.IPAddr) (port : UInt16) : Std.Net.SocketAddress :=
  match address with
  | .v4 a => .v4 ⟨a, port⟩
  | .v6 a => .v6 ⟨a, port⟩

/-- Asks at one address. -/
def askAt (request : Http.Request) (address : Std.Net.SocketAddress) : Async Http.Answer := do
  let socket ← TCP.Socket.Client.mk
  socket.connect address
  socket.send ⟨request.bytes.toArray⟩
  pure (.ofBytes (← receiveAll socket .empty).toList)

/-- Asks at each address of the host until one can be reached. Nobody may read along, so a
secure request cannot be made. -/
def ask (request : Http.Request) : Async Http.Answer := do
  let (host, port) := request.address
  if request.secure then pure .broken
  else
    try
      let addresses ← DNS.getAddrInfo (host.replace "[" "" |>.replace "]" "") port
      let mut answer := Http.Answer.broken
      for address in addresses do
        try
          answer ← askAt request (socketAddress address (port.toNat?.getD 80).toUInt16)
          break
        catch _ => pure ()
      pure answer
    catch _ => pure .broken

instance : Inhabited Http.Answer := ⟨.broken⟩

/-- Asks, but waits no longer than until a deadline. -/
def askBefore (deadline : Option Nat) (request : Http.Request) : IO Http.Answer := do
  match deadline with
  | none => (ask request).block
  | some deadline =>
    let left := deadline - (← IO.monoMsNow)
    let late : Async Http.Answer := do
      sleep (.ofNat left)
      pure .silent
    (Async.race (ask request) late).block

/-- Fetches the value of a target. -/
def fetch (t : Transport) (target : String) (zone : Calendar.Zone) : IO Arrival := do
  let start ← IO.monoMsNow
  let deadline := t.timeoutSeconds.map fun seconds => start + seconds * 1000
  let exchange ← (t.exchange target).perform (askBefore deadline)
  pure ⟨exchange.fetched, zone.momentAt (← now), (← IO.monoMsNow) - start⟩

/-! ## Remarks -/

def remark (sink : Log.Sink) : Remark → IO Unit
  | .printed text => do
    let output ← IO.getStdout
    output.putStr text
    output.flush
  | .logged event => do
    match sink.line? (Calendar.Moment.ofMillis (← now) 0).utcText event with
    | some line => IO.eprintln line
    | none => pure ()

/-- Opens the log, with what there is to complain about. -/
def openLog (env : Environment) (c : Config) : IO Log.Sink := do
  let (sink, complaints) := Log.Sink.new env c.logging
  complaints.forM IO.eprintln
  pure sink

/-! ## Commands -/

/-- Watches the query rate for as long as the watch goes on. -/
partial def watch (sink : Log.Sink) (zone : Calendar.Zone) (w : Watch) : IO Ending := do
  let (said, sequel) := w.receive (← fetch w.transport w.target zone)
  said.forM (remark sink)
  match sequel with
  | .settled result => pure (.ofFetch result)
  | .again next delay =>
    (sleep (.ofNat delay)).block
    watch sink zone next

def rate (env : Environment) (o : RateOptions) : IO Ending := do
  match o.settings env (← placeAt o.config) with
  | .error fault => pure (.failed fault.message)
  | .ok c =>
    let sink ← openLog env c
    let zone ← localZone
    let (w, before) := Watch.new c o ⟨env.forcesColour, zone⟩
    before.forM (remark sink)
    watch sink zone w

def history (env : Environment) (o : HistoryOptions) : IO Ending := do
  match o.settings env (← placeAt o.config) with
  | .error fault => pure (.failed fault.message)
  | .ok c =>
    let sink ← openLog env c
    let zone ← localZone
    let (l, before) := Lookup.new c o ⟨env.forcesColour, zone⟩ (← now)
    before.forM (remark sink)
    let (said, result) := l.receive (← fetch l.transport l.target zone).result
    said.forM (remark sink)
    pure (.ofFetch result)

def init (o : InitOptions) : IO Ending := do
  match o.permit (← placeAt o.output) with
  | .error fault => pure (.failed fault.message)
  | .ok () =>
    try
      IO.FS.writeBinFile o.output ⟨InitOptions.contents.toArray⟩
      for line in o.remarks.filterMap Remark.text? do
        IO.print line
      pure .done
    catch error => pure (.failed (InitOptions.Fault.unwritable (refusal error)).message)

/-- Carries a command out. -/
def perform (env : Environment) : Invocation → IO Ending
  | .rate o => rate env o
  | .history o => history env o
  | .init o => init o
  | .completions shell => do
    IO.print shell.script
    pure .done

end IngestWatch.Outside

open IngestWatch.Outside in
def main (arguments : List String) : IO UInt32 := do
  let env ← environment
  let ending ← match Invocation.parse env ("ingest-metrics" :: arguments) with
    | .ok invocation => perform env invocation
    | .error fault => pure (.refused fault)
  IO.print ending.output
  IO.eprint ending.complaint
  pure ending.exitCode.toUInt32
