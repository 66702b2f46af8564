import IngestWatch.Text.Blank

/-!
The three forms in which the log is written.
-/

namespace IngestWatch

inductive LogFormat where
  | pretty
  | compact
  | json
deriving DecidableEq, Repr

namespace LogFormat

def name : LogFormat → String
  | .pretty => "pretty"
  | .compact => "compact"
  | .json => "json"

/-- Every form under its name. -/
def named : List (String × LogFormat) :=
  [("pretty", .pretty), ("compact", .compact), ("json", .json)]

/-- Are two texts the same but for the case of ASCII letters? -/
def sameLetters (a b : List Char) : Bool :=
  a.map Char.toLower == b.map Char.toLower

/-- The form a person means: blanks around the name and the case of its letters do
not matter. -/
def read (text : String) : Except String LogFormat :=
  match named.find? fun f => sameLetters f.1.toList (Text.trimBlanks text.toList) with
  | some f => .ok f.2
  | none => .error s!"unknown log format '{text}' (expected pretty, compact or json)"

end LogFormat

end IngestWatch
