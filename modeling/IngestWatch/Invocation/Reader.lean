import IngestWatch.CommandLine.Reader
import IngestWatch.Invocation.Commands

/-!
What a command line tells a command.
-/

namespace IngestWatch

open CommandLine

/-- A number that was checked when it was read. -/
def numberOf? {α : Type} (read : String → Except Decimal.NumberFault α) (m : Matches)
    (name : String) : Option α :=
  (m.text? name).bind fun s => (read s).toOption

def RateOptions.ofMatches (m : Matches) : RateOptions where
  config := (m.text? "config").getD Invocation.defaultConfig
  url := m.text? "url"
  interval := numberOf? Decimal.readUInt64 m "interval"
  once := m.isSet "once"
  count := numberOf? Decimal.readUInt64 m "count"
  json := m.isSet "json"
  logLevel := m.text? "log-level"

def HistoryOptions.ofMatches (m : Matches) : HistoryOptions where
  config := (m.text? "config").getD Invocation.defaultConfig
  url := m.text? "url"
  start := numberOf? Decimal.readInt64 m "start"
  stop := numberOf? Decimal.readInt64 m "end"
  ingestType := m.text? "ingest-type"
  lookbackDays := (numberOf? Decimal.readInt64 m "lookback-days").map fun n => UInt32.ofNat n.toNat
  json := m.isSet "json"
  logLevel := m.text? "log-level"

def InitOptions.ofMatches (m : Matches) : InitOptions where
  output := (m.text? "output").getD Invocation.defaultConfig
  force := m.isSet "force"

namespace Invocation

/-- The command that was read. -/
def ofMatches? (m : Matches) : Option Invocation :=
  match m.command with
  | ["rate"] => some (.rate (.ofMatches m))
  | ["history"] => some (.history (.ofMatches m))
  | ["config", "init"] => some (.init (.ofMatches m))
  | ["completions"] =>
    ((m.text? shellOperand.label).bind fun name => Shell.named.lookup name).map .completions
  | _ => none

/-- What a command line says. One that leads to no command is told what there is. -/
def parse (env : String → Option String) (arguments : List String) : Except Fault Invocation := do
  let m ← program.parse env arguments
  match ofMatches? m with
  | some invocation => pure invocation
  | none => throw (.noCommand (program.help env program.name))

end Invocation

end IngestWatch
