import IngestWatch.CommandLine.Completion

/-!
The script that completes command lines in bash. It walks over the words of the line to
find the command, and then offers what can follow it.
-/

namespace IngestWatch.CommandLine.Bash

/-- A name as part of a variable's value: a hyphen becomes two underscores. -/
def flat (name : String) : String :=
  name.replace "-" "__"

/-- What the script calls a command while it looks for it. -/
def label (path : List String) : String :=
  "__subcmd__".intercalate (path.map flat)

/-- The step from a command to one below it. -/
def step (s : Stop) : String × String × String :=
  (label s.path.dropLast, s.entry.name, label s.path)

def stepLines : String × String × String → List String
  | (above, name, here) =>
    [s!"            {above},{name})", s!"                cmd=\"{here}\"", "                ;;"]

/-- Everything that a command offers. -/
def words (e : Entry) : List String :=
  e.options.filterMap (fun o => o.letter.map fun c => s!"-{c}")
    ++ e.options.map Opt.long
    ++ (match e.operand with
      | some o => if o.kind.choices.isEmpty then [o.shown] else o.kind.choices
      | none => [])
    ++ e.commands.map Entry.name

/-- What is offered as the value of an option. -/
def valueWords (v : Value) : String :=
  if v.kind.choices.isEmpty then "$(compgen -f \"$\x7bcur\x7d\")"
  else
    let names := " ".intercalate v.kind.choices
    s!"$(compgen -W \"{names}\" -- \"$\x7bcur\x7d\")"

/-- The cases of an option behind which a value comes. -/
def valueLines : Opt × Value → List String
  | (o, v) =>
    (o.long :: (o.letter.map fun c => s!"-{c}").toList).flatMap fun name =>
      [s!"                {name})",
        "                    COMPREPLY=(" ++ valueWords v ++ ")",
        "                    return 0",
        "                    ;;"]

/-- What the case of a command is called: there, the mark between two names also stands for
every hyphen but in the program's own case. -/
def caseLabel (path : List String) : String :=
  match path with
  | [program] => flat program
  | _ => ("__".intercalate (path.map flat)).replace "__" "__subcmd__"

def offer : String :=
  "COMPREPLY=( $(compgen -W \"$\x7bopts\x7d\" -- \"$\x7bcur\x7d\") )"

/-- The case of a command. -/
def caseLines (s : Stop) : List String :=
  let opts := " ".intercalate (words s.entry)
  [s!"        {caseLabel s.path})",
    s!"            opts=\"{opts}\"",
    s!"            if [[ $\x7bcur\x7d == -* || $\x7bCOMP_CWORD\x7d -eq {s.path.length} ]] ; then",
    "                " ++ offer,
    "                return 0",
    "            fi",
    "            case \"$\x7bprev\x7d\" in"]
  ++ s.entry.valued.flatMap valueLines
  ++ ["                *)",
    "                    COMPREPLY=()",
    "                    ;;",
    "            esac",
    "            " ++ offer,
    "            return 0",
    "            ;;"]

/-- The commands below the program in the order of their cases. -/
def ordered (stops : List Stop) : List Stop :=
  sortStops (fun s => s.joined "__") stops.tail

/-- The steps between commands in ascending order. -/
def orderedSteps (stops : List Stop) : List (String × String × String) :=
  (stops.tail.map step).mergeSort fun a b =>
    if a.1 = b.1 then !(b.2.1 < a.2.1) else a.1 < b.1

def script (program : Command) : String :=
  let stops := program.entry.stops []
  let name := program.name
  let function := "_" ++ flat name
  textOfLines <|
    [s!"{function}() \x7b",
      "    local i cur prev opts cmd",
      "    COMPREPLY=()",
      "    if [[ \"$\x7bBASH_VERSINFO[0]\x7d\" -ge 4 ]]; then",
      "        cur=\"$2\"",
      "    else",
      "        cur=\"$\x7bCOMP_WORDS[COMP_CWORD]\x7d\"",
      "    fi",
      "    prev=\"$3\"",
      "    cmd=\"\"",
      "    opts=\"\"",
      "",
      "    for i in \"$\x7bCOMP_WORDS[@]:0:COMP_CWORD\x7d\"",
      "    do",
      "        case \"$\x7bcmd\x7d,$\x7bi\x7d\" in",
      "            \",$1\")",
      s!"                cmd=\"{flat name}\"",
      "                ;;"]
    ++ (orderedSteps stops).flatMap stepLines
    ++ ["            *)",
      "                ;;",
      "        esac",
      "    done",
      "",
      "    case \"$\x7bcmd\x7d\" in"]
    ++ (stops.take 1 ++ ordered stops).flatMap caseLines
    ++ ["    esac",
      "\x7d",
      "",
      "if [[ \"$\x7bBASH_VERSINFO[0]\x7d\" -eq 4 && \"$\x7bBASH_VERSINFO[1]\x7d\" -ge 4"
        ++ " || \"$\x7bBASH_VERSINFO[0]\x7d\" -gt 4 ]]; then",
      s!"    complete -F {function} -o nosort -o bashdefault -o default {name}",
      "else",
      s!"    complete -F {function} -o bashdefault -o default {name}",
      "fi"]

end IngestWatch.CommandLine.Bash
