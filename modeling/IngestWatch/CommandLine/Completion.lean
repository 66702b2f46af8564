import IngestWatch.CommandLine

/-!
What can follow each command while a command line is completed: its options, the names
that its operand is chosen from, and the commands below it. A group has one command more,
which describes the others and has their names below it once again.
-/

namespace IngestWatch.CommandLine

/-- A command as it is completed. -/
inductive Entry where
  | mk (name about : String) (options : List Opt) (operand : Option Operand)
    (exclusive : List (String × String)) (commands : List Entry)

namespace Entry

def name : Entry → String
  | mk name _ _ _ _ _ => name

def about : Entry → String
  | mk _ about _ _ _ _ => about

def options : Entry → List Opt
  | mk _ _ options _ _ _ => options

def operand : Entry → Option Operand
  | mk _ _ _ operand _ _ => operand

def exclusive : Entry → List (String × String)
  | mk _ _ _ _ exclusive _ => exclusive

def commands : Entry → List Entry
  | mk _ _ _ _ _ commands => commands

/-- The options that take a value. -/
def valued (e : Entry) : List (Opt × Value) :=
  e.options.filterMap fun o => o.value.map fun v => (o, v)

/-- The options that take none. -/
def switches (e : Entry) : List Opt :=
  e.options.filter (·.value.isNone)

/-- The options as shells list them: those with a value first. -/
def arranged (e : Entry) : List Opt :=
  e.valued.map Prod.fst ++ e.switches

/-- The options that an option excludes. -/
def excludedBy (e : Entry) (o : Opt) : List Opt :=
  e.exclusive.filterMap fun (a, b) => if a = o.name then e.options.find? (·.name = b) else none

/-- A command that is only named. -/
def bare (name about : String) (commands : List Entry) : Entry :=
  mk name about [] none [] commands

end Entry

/-- A command by its name, with the names of those below it. -/
def Command.named : Command → Entry
  | .mk name about _ _ _ _ commands => .bare name about (commands.map Command.named)

/-- The command of a group that describes the others. -/
def helpEntry (commands : List Command) : Entry :=
  .bare helpName helpAbout (commands.map Command.named ++ [.bare helpName helpAbout []])

/-- A command with all that can follow it. -/
def Command.entry : Command → Entry
  | .mk name about version options operand exclusive commands =>
    let own := (Command.mk name about version options operand exclusive commands).allOptions
    .mk name about own operand exclusive
      (commands.map Command.entry ++ (if commands.isEmpty then [] else [helpEntry commands]))

/-- A command with the names that lead to it. -/
structure Stop where
  path : List String
  entry : Entry

/-- A command that names lead to and all below it, each before those below it. -/
def Entry.stops (above : List String) : Entry → List Stop
  | .mk name about options operand exclusive commands =>
    let path := above ++ [name]
    ⟨path, .mk name about options operand exclusive commands⟩ ::
      commands.flatMap (Entry.stops path)

/-- The names that lead to a command, with a text between them. -/
def Stop.joined (s : Stop) (separator : String) : String :=
  separator.intercalate s.path

/-- Puts the commands in the ascending order of a text. -/
def sortStops (key : Stop → String) (stops : List Stop) : List Stop :=
  stops.mergeSort fun a b => !(key b < key a)

/-- Lines with an end after each. -/
def textOfLines (lines : List String) : String :=
  String.join (lines.map (· ++ "\n"))

end IngestWatch.CommandLine
