/-!
The commands of the program and what each is told: fetching the query rate or polling it,
fetching the history of a window, writing a configuration file, and printing a script that
completes command lines in a shell.
-/

namespace IngestWatch

/-- What the command for the query rate is told. -/
structure RateOptions where
  config : String
  url : Option String
  interval : Option UInt64
  once : Bool
  count : Option UInt64
  json : Bool
  logLevel : Option String
deriving DecidableEq, Repr

/-- What the command for the history is told. -/
structure HistoryOptions where
  config : String
  url : Option String
  start : Option Int
  stop : Option Int
  ingestType : Option String
  lookbackDays : Option UInt32
  json : Bool
  logLevel : Option String
deriving DecidableEq, Repr

/-- What the command that writes a configuration file is told. -/
structure InitOptions where
  output : String
  force : Bool
deriving DecidableEq, Repr

/-- The shells that can complete command lines. -/
inductive Shell where
  | bash
  | elvish
  | fish
  | powershell
  | zsh
deriving DecidableEq, Repr

/-- Every shell under its name. -/
def Shell.named : List (String × Shell) :=
  [("bash", .bash), ("elvish", .elvish), ("fish", .fish), ("powershell", .powershell),
    ("zsh", .zsh)]

def Shell.name : Shell → String
  | .bash => "bash"
  | .elvish => "elvish"
  | .fish => "fish"
  | .powershell => "powershell"
  | .zsh => "zsh"

/-- A command with what it is told. -/
inductive Invocation where
  | rate (options : RateOptions)
  | history (options : HistoryOptions)
  | init (options : InitOptions)
  | completions (shell : Shell)
deriving DecidableEq, Repr

end IngestWatch
