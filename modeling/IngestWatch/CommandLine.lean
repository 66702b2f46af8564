import IngestWatch.Decimal.Whole

/-!
What a command line may say: commands below each other, and the options and the operand
of each.
-/

namespace IngestWatch

namespace CommandLine

/-- What the text of a value has to be. -/
inductive Kind where
  | text
  /-- Any text but the empty one. -/
  | path
  | uint64
  | int64
  | uint32
  /-- One of some names. -/
  | choice (names : List String)
deriving DecidableEq, Repr

/-- The names that a value is chosen from. -/
def Kind.choices : Kind → List String
  | .choice names => names
  | _ => []

/-- The value of an option. -/
structure Value where
  /-- By what it goes in a description. -/
  label : String
  kind : Kind
  /-- May the text begin with a hyphen? -/
  signed : Bool
  /-- The variable that says it where the command line does not. -/
  envName : Option String
  /-- What it is where nothing says it. -/
  initialText : Option String
deriving DecidableEq, Repr

/-- An option by its long name and perhaps a letter; without a value it is a switch. -/
structure Opt where
  name : String
  letter : Option Char
  help : String
  value : Option Value
deriving DecidableEq, Repr

/-- A value that stands by itself. -/
structure Operand where
  label : String
  kind : Kind
  help : String
  required : Bool
deriving DecidableEq, Repr

/-- A command. One that has commands below it does nothing by itself. -/
inductive Command where
  | mk (name about : String) (version : Option String) (options : List Opt)
    (operand : Option Operand) (exclusive : List (String × String)) (commands : List Command)

namespace Command

def name : Command → String
  | mk name _ _ _ _ _ _ => name

/-- What it does. -/
def about : Command → String
  | mk _ about _ _ _ _ _ => about

def version : Command → Option String
  | mk _ _ version _ _ _ _ => version

def options : Command → List Opt
  | mk _ _ _ options _ _ _ => options

def operand : Command → Option Operand
  | mk _ _ _ _ operand _ _ => operand

/-- Options of which only one may be given. -/
def exclusive : Command → List (String × String)
  | mk _ _ _ _ _ exclusive _ => exclusive

def commands : Command → List Command
  | mk _ _ _ _ _ _ commands => commands

/-- A command that only holds others. -/
def group (name about : String) (version : Option String) (commands : List Command) : Command :=
  mk name about version [] none [] commands

/-- A command that does something. -/
def action (name about : String) (options : List Opt) (operand : Option Operand)
    (exclusive : List (String × String)) : Command :=
  mk name about none options operand exclusive []

def isGroup (c : Command) : Bool :=
  !c.commands.isEmpty

/-- The command below with a name. -/
def find? (c : Command) (name : String) : Option Command :=
  c.commands.find? (·.name = name)

end Command

/-! ## What every command has -/

/-- Asks for a description. -/
def helpOpt : Opt := ⟨"help", some 'h', "Print help", none⟩

/-- Asks for the version. -/
def versionOpt : Opt := ⟨"version", some 'V', "Print version", none⟩

/-- The options of a command with those that every command has. -/
def Command.allOptions (c : Command) : List Opt :=
  c.options ++ [helpOpt] ++ (if c.version.isSome then [versionOpt] else [])

/-- The name under which a group describes its commands. -/
def helpName : String := "help"

def helpAbout : String := "Print this message or the help of the given subcommand(s)"

/-! ## How arguments are shown -/

/-- The long name with its hyphens. -/
def Opt.long (o : Opt) : String :=
  "--" ++ o.name

def Opt.shown (o : Opt) : String :=
  match o.value with
  | some v => s!"{o.long} <{v.label}>"
  | none => o.long

def Operand.shown (o : Operand) : String :=
  if o.required then s!"<{o.label}>" else s!"[{o.label}]..."

end CommandLine

end IngestWatch
