import IngestWatch.CommandLine

/-!
The description of a command: what it does, how it is called, and its commands, operands
and options in columns.
-/

namespace IngestWatch.CommandLine

/-- Notes behind a description, each in brackets. -/
def notes (parts : List (String × String)) : String :=
  String.join (parts.map fun (title, text) => s!" [{title}: {text}]")

/-- What a value is where the command line does not say it. -/
def Value.notes (env : String → Option String) (v : Value) : List (String × String) :=
  (v.envName.map fun name => ("env", s!"{name}={(env name).getD noText}")).toList
    ++ (v.initialText.map (("default", ·))).toList
    ++ (if v.kind.choices.isEmpty then [] else [("possible values", ", ".intercalate v.kind.choices)])
where
  noText : String := ""

/-- The letter and the long name of an option. -/
def Opt.heading (o : Opt) : String :=
  (match o.letter with
    | some c => s!"-{c}, "
    | none => "    ") ++ o.shown

def Opt.description (env : String → Option String) (o : Opt) : String :=
  o.help ++ notes ((o.value.map (·.notes env)).getD [])

def Operand.description (o : Operand) : String :=
  o.help ++ notes
    (if o.kind.choices.isEmpty then [] else [("possible values", ", ".intercalate o.kind.choices)])

/-- Rows of two columns below a title. -/
def listing (title : String) (rows : List (String × String)) : List String :=
  if rows.isEmpty then []
  else
    let width := (rows.map fun r => r.1.length).foldl max 0
    [title ++ ":\n" ++ String.join (rows.map fun (heading, description) =>
      let gap := String.ofList (List.replicate (width - heading.length + 2) ' ')
      s!"  {heading}{gap}{description}\n")]

/-- How a command is called; `path` names those above it and itself. -/
def Command.usage (c : Command) (path : String) : String :=
  " ".intercalate <| [path]
    ++ (if c.options.isEmpty then [] else ["[OPTIONS]"])
    ++ (c.operand.map Operand.shown).toList
    ++ (if c.isGroup then ["<COMMAND>"] else [])

/-- The commands below a group by name, with the one that describes them. -/
def Command.listed (c : Command) : List (String × String) :=
  if c.isGroup then c.commands.map (fun s => (s.name, s.about)) ++ [(helpName, helpAbout)] else []

/-- The parts of a description with an empty line between each two. -/
def page (about usage : String) (sections : List String) : String :=
  "\n".intercalate ([about ++ "\n", s!"Usage: {usage}\n"] ++ sections)

/-- The description of a command. -/
def Command.help (c : Command) (env : String → Option String) (path : String) : String :=
  page c.about (c.usage path) <|
    listing "Commands" c.listed
      ++ listing "Arguments" (c.operand.map fun o => (o.shown, o.description)).toList
      ++ listing "Options" (c.allOptions.map fun o => (o.heading, o.description env))

/-- The operand of the command that describes others. -/
def helpOperand : Operand :=
  ⟨"COMMAND", .text, "Print help for the subcommand(s)", false⟩

/-- The description of that command. -/
def helpHelp (path : String) : String :=
  page helpAbout s!"{path} {helpOperand.shown}"
    (listing "Arguments" [(helpOperand.shown, helpOperand.description)])

end IngestWatch.CommandLine
