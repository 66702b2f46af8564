import IngestWatch.Json.Writer
import IngestWatch.Log.Format

/-!
What the log says, and the lines in which it says it.
-/

namespace IngestWatch

namespace Log

/-- How grave an event is. -/
inductive Level where
  | error
  | warn
  | info
  | debug
  | trace
deriving DecidableEq, Repr

namespace Level

def name : Level → String
  | .error => "ERROR"
  | .warn => "WARN"
  | .info => "INFO"
  | .debug => "DEBUG"
  | .trace => "TRACE"

/-- The less grave, the higher; nothing has rank zero. -/
def rank : Level → Nat
  | .error => 1
  | .warn => 2
  | .info => 3
  | .debug => 4
  | .trace => 5

/-- The name in five columns. -/
def column (l : Level) : String :=
  String.ofList (List.replicate (5 - l.name.length) ' ') ++ l.name

/-- The colour of a terminal in which the name is shown. -/
def colour : Level → Nat
  | .error => 31
  | .warn => 33
  | .info => 32
  | .debug => 34
  | .trace => 35

end Level

/-- An event with its details. -/
structure Event where
  level : Level
  /-- The part of the program that it comes from. -/
  target : String
  message : String
  fields : List (String × Json)
deriving Repr

/-- The text of a detail: texts bare, all else as JSON. -/
def fieldText : Json → String
  | .str s => s
  | v => v.compact

/-- Sets a text apart on a terminal. -/
def styled (colour : Bool) (style : Nat) (s : String) : String :=
  if colour then s!"\x1b[{style}m{s}\x1b[0m" else s

namespace Event

/-- A line for people. -/
def plainLine (colour : Bool) (stamp : String) (e : Event) : String :=
  let dim := styled colour 2
  let fields := e.fields.map fun (name, v) =>
    s!" {styled colour 3 name}" ++ dim "=" ++ fieldText v
  dim stamp ++ " " ++ styled colour e.level.colour e.level.column ++ " " ++ dim e.target ++ dim ":"
    ++ " " ++ e.message ++ String.join fields

/-- A line of JSON. -/
def jsonLine (stamp : String) (e : Event) : String :=
  (Json.obj [("timestamp", .str stamp), ("level", .str e.level.name),
    ("fields", .obj (("message", .str e.message) :: e.fields)),
    ("target", .str e.target)]).compact

/-- The line of an event that happened at a time. -/
def line (format : LogFormat) (colour : Bool) (stamp : String) (e : Event) : String :=
  match format with
  | .pretty | .compact => e.plainLine colour stamp
  | .json => e.jsonLine stamp

end Event

end Log

end IngestWatch
