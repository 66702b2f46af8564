/-!
Why a command line is not carried out: it asks for a text, or something is wrong with it.
-/

namespace IngestWatch.CommandLine

inductive Fault where
  /-- A description was asked for. -/
  | help (text : String)
  | version (text : String)
  /-- A command is missing, so those that there are get described. -/
  | noCommand (text : String)
  | unknownCommand (name : String)
  | unknownArgument (text : String)
  | noValue (argument : String) (choices : List String)
  | badChoice (value argument : String) (choices : List String)
  | badValue (value argument reason : String)
  | needlessValue (value argument : String)
  | repeated (argument : String)
  | exclusive (argument other : String)
  | missing (arguments : List String)
deriving DecidableEq, Repr

namespace Fault

/-- The names to choose from on a line of their own, if there are any. -/
def choiceLine (choices : List String) : String :=
  if choices.isEmpty then "" else "\n  [possible values: " ++ ", ".intercalate choices ++ "]"

def message : Fault → String
  | help text | version text | noCommand text => text
  | unknownCommand name => s!"error: unrecognized subcommand '{name}'"
  | unknownArgument text => s!"error: unexpected argument '{text}' found"
  | noValue argument choices =>
    s!"error: a value is required for '{argument}' but none was supplied" ++ choiceLine choices
  | badChoice value argument choices =>
    s!"error: invalid value '{value}' for '{argument}'" ++ choiceLine choices
  | badValue value argument reason =>
    s!"error: invalid value '{value}' for '{argument}': {reason}"
  | needlessValue value argument =>
    s!"error: unexpected value '{value}' for '{argument}' found; no more were expected"
  | repeated argument => s!"error: the argument '{argument}' cannot be used multiple times"
  | exclusive argument other =>
    s!"error: the argument '{argument}' cannot be used with '{other}'"
  | missing arguments =>
    "error: the following required arguments were not provided:"
      ++ String.join (arguments.map ("\n  " ++ ·))

/-- Is the text what was asked for? -/
def isAnswer : Fault → Bool
  | help _ | version _ => true
  | _ => false

/-- A wrong command line gives two. -/
def exitCode (f : Fault) : Nat :=
  if f.isAnswer then 0 else 2

end Fault

end IngestWatch.CommandLine
