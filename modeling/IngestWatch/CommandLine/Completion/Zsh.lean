import IngestWatch.CommandLine.Completion

/-!
The script that completes command lines in zsh: what can follow the program, cases inside
each other for the commands below it, and a function for each command that lists those
below.
-/

namespace IngestWatch.CommandLine.Zsh

/-- A description between single quotes and square brackets. -/
def escaped (s : String) : String :=
  String.join <| s.toList.map fun c =>
    if c = '\'' then "'\\''"
    else if c = '\n' then " "
    else if "\\[]:$`".toList.contains c then s!"\\{c}"
    else s!"{c}"

/-- The function that lists the commands below a command. -/
def functionName (path : List String) : String :=
  s!"_{joined}_commands"
where
  joined : String := "__subcmd__".intercalate path

/-! ## Arguments -/

/-- The options that an option excludes, as they stand before it. -/
def exclusions (e : Entry) (o : Opt) : String :=
  let names := (e.excludedBy o).flatMap fun other =>
    (other.letter.map fun c => s!"-{c}").toList ++ [other.long]
  if names.isEmpty then "" else "(" ++ " ".intercalate names ++ ")"

/-- What can stand as a value. -/
def valuePart : Kind → String
  | .choice names => "(" ++ " ".intercalate names ++ ")"
  | .path => "_files"
  | _ => "_default"

def valuedLines (e : Entry) : Opt × Value → List String
  | (o, v) =>
    let start := "'" ++ exclusions e o
    let value := s!"[{escaped o.help}]:{v.label}:{valuePart v.kind}' \\"
    (o.letter.map fun c => s!"{start}-{c}+{value}").toList ++ [s!"{start}{o.long}={value}"]

def switchLines (e : Entry) (o : Opt) : List String :=
  let start := "'" ++ exclusions e o
  let help := s!"[{escaped o.help}]' \\"
  (o.letter.map fun c => s!"{start}-{c}{help}").toList ++ [s!"{start}{o.long}{help}"]

def operandLine (o : Operand) : String :=
  let optional := if o.required then "" else ":"
  s!"'{optional}:{o.label.toLower} -- {escaped o.help}:{valuePart o.kind}' \\"

/-- What can follow a command. -/
def argumentLines (path : List String) (e : Entry) : List String :=
  ["_arguments \"$\x7b_arguments_options[@]\x7d\" : \\"]
    ++ e.valued.flatMap (valuedLines e)
    ++ e.switches.flatMap (switchLines e)
    ++ (e.operand.map operandLine).toList
    ++ (if e.commands.isEmpty then []
      else [s!"\":: :{functionName path}\" \\", s!"\"*::: :->{e.name}\" \\"])
    ++ ["&& ret=0"]

/-! ## Cases -/

/-- Sets the first of some lines in. -/
def setIn (width : Nat) : List String → List String
  | [] => []
  | line :: rest => (String.ofList (List.replicate width ' ') ++ line) :: rest

/-- A choice between cases by the word that stands where a command's name does. `path`
leads to the command that they stand below. -/
def choiceLines (path : List String) (name : String) (operands : Nat) (cases : List String) :
    List String :=
  let place := operands + 1
  let state := "-".intercalate path
  ["    case $state in",
    s!"    ({name})",
    s!"        words=($line[{place}] \"$\x7bwords[@]\x7d\")",
    "        (( CURRENT += 1 ))",
    s!"        curcontext=\"$\x7bcurcontext%:*:*\x7d:{state}-command-$line[{place}]:\"",
    s!"        case $line[{place}] in"]
  ++ setIn 12 cases
  ++ ["        esac", "    ;;", "esac"]

/-- The case of a command below others, inside which there are those of the commands below
it. -/
def caseLines (above : List String) : Entry → List String
  | .mk name about options operand exclusive commands =>
    let path := above ++ [name]
    [s!"({name})"]
      ++ argumentLines path (.mk name about options operand exclusive commands)
      ++ (if commands.isEmpty then []
        else
          "" :: choiceLines path name operand.toList.length
            (commands.flatMap fun e => caseLines path e))
      ++ [";;"]

/-- What can follow the program, and the cases of all commands. -/
def programLines (e : Entry) : List String :=
  setIn 4 (argumentLines [e.name] e)
    ++ (if e.commands.isEmpty then []
      else
        choiceLines [e.name] e.name e.operand.toList.length
          (e.commands.flatMap (caseLines [e.name])))

/-! ## The script -/

def listLine (e : Entry) : String :=
  s!"'{e.name}:{escaped e.about}' \\"

/-- The function that lists the commands below a command. -/
def listLines (s : Stop) : List String :=
  let function := functionName s.path
  [s!"(( $+functions[{function}] )) ||", s!"{function}() \x7b"]
    ++ (if s.entry.commands.isEmpty then ["    local commands; commands=()"]
      else
        ["    local commands; commands=("] ++ s.entry.commands.map listLine ++ ["    )"])
    ++ [s!"    _describe -t commands '{s.joined separator} commands' commands \"$@\"", "\x7d"]
where
  separator : String := " "

def script (program : Command) : String :=
  let name := program.name
  let stops := program.entry.stops []
  textOfLines <|
    [s!"#compdef {name}",
      "",
      "autoload -U is-at-least",
      "",
      s!"_{name}() \x7b",
      "    typeset -A opt_args",
      "    typeset -a _arguments_options",
      "    local ret=1",
      "",
      "    if is-at-least 5.2; then",
      "        _arguments_options=(-s -S -C)",
      "    else",
      "        _arguments_options=(-s -C)",
      "    fi",
      "",
      "    local context curcontext=\"$curcontext\" state line"]
    ++ programLines program.entry
    ++ ["\x7d", ""]
    ++ (stops.take 1 ++ sortStops (·.joined " ") stops.tail).flatMap listLines
    ++ ["",
      s!"if [ \"$funcstack[1]\" = \"_{name}\" ]; then",
      s!"    _{name} \"$@\"",
      "else",
      s!"    compdef _{name} {name}",
      "fi"]

end IngestWatch.CommandLine.Zsh
