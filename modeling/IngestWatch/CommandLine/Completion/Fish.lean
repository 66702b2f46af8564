import IngestWatch.CommandLine.Completion

/-!
The script that completes command lines in fish: a line for each thing that can follow a
command, with the condition under which it can.
-/

namespace IngestWatch.CommandLine.Fish

/-- A name as part of a function's name. -/
def flat (name : String) : String :=
  name.replace "-" "_"

/-- A text between single quotes. -/
def quoted (s : String) : String :=
  "'" ++ (s.replace "\\" "\\\\").replace "'" "\\'" ++ "'"

/-- The functions that the script defines about a program. -/
structure Names where
  program : String
  specs : String
  needs : String
  using_ : String

def Names.of (program : String) : Names :=
  let start := "__fish_" ++ flat program
  ⟨program, start ++ "_global_optspecs", start ++ "_needs_command", start ++ "_using_subcommand"⟩

/-- When a command's lines hold, by the names that lead to it from the program; for
commands further below there are none. -/
def condition? (n : Names) (e : Entry) : List String → Option String
  | [] => some n.needs
  | [command] =>
    let names := " ".intercalate (e.commands.map Entry.name)
    some <| s!"{n.using_} {command}"
      ++ (if e.commands.isEmpty then "" else s!"; and not __fish_seen_subcommand_from {names}")
  | [command, sub] => some s!"{n.using_} {command}; and __fish_seen_subcommand_from {sub}"
  | _ => none

/-- What can stand as the value of an option. -/
def valuePart (v : Value) : String :=
  match v.kind with
  | .choice names =>
    let choices := "\n".intercalate (names.map fun name => s!"{name}\\t''")
    s!" -r -f -a \"{choices}\""
  | .path => " -r -F"
  | _ => " -r"

def optLine (start : String) (o : Opt) : String :=
  let letter := match o.letter with
    | some c => s!" -s {c}"
    | none => ""
  s!"{start}{letter} -l {o.name} -d {quoted o.help}" ++ (match o.value with
    | some v => valuePart v
    | none => "")

/-- The lines of a command. Where it has no operand, no file can follow it. -/
def stopLines (n : Names) (s : Stop) : List String :=
  match condition? n s.entry s.path.tail with
  | none => []
  | some condition =>
    let start := s!"complete -c {n.program} -n \"{condition}\""
    let bare := if s.entry.operand.isNone then start ++ " -f" else start
    s.entry.arranged.map (optLine start)
      ++ s.entry.commands.map fun e => s!"{bare} -a \"{e.name}\" -d {quoted e.about}"

/-- How an option of the program is written in a list of them. -/
def spec (o : Opt) : String :=
  (match o.letter with
    | some c => s!" {c}/{o.name}"
    | none => s!" {o.name}") ++ (if o.value.isSome then "=" else "")

def script (program : Command) : String :=
  let n := Names.of program.name
  let specs := String.join (program.entry.options.map spec)
  textOfLines <|
    ["# Print an optspec for argparse to handle cmd's options that are independent of any "
        ++ "subcommand.",
      s!"function {n.specs}",
      s!"\tstring join \\n{specs}",
      "end",
      "",
      s!"function {n.needs}",
      "\t# Figure out if the current invocation already has a command.",
      "\tset -l cmd (commandline -opc)",
      "\tset -e cmd[1]",
      s!"\targparse -s ({n.specs}) -- $cmd 2>/dev/null",
      "\tor return",
      "\tif set -q argv[1]",
      "\t\t# Also print the command, so this can be used to figure out what it is.",
      "\t\techo $argv[1]",
      "\t\treturn 1",
      "\tend",
      "\treturn 0",
      "end",
      "",
      s!"function {n.using_}",
      s!"\tset -l cmd ({n.needs})",
      "\ttest -z \"$cmd\"",
      "\tand return 1",
      "\tcontains -- $cmd[1] $argv",
      "end",
      ""]
    ++ (program.entry.stops []).flatMap (stopLines n)

end IngestWatch.CommandLine.Fish
