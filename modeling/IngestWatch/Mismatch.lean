import IngestWatch.Text.Quoted

/-!
Complaints about a value that is well formed but not of the wanted type.
-/

namespace IngestWatch

/-- What a value turned out to be. A real number comes with its text, which
depends on the format it was read from. -/
inductive Found where
  | null
  | bool (value : Bool)
  | int (value : Int)
  | real (text : String)
  | str (value : String)
  | list
  | table
deriving DecidableEq, Repr

def Found.text : Found → String
  | .null => "null"
  | .bool value => s!"boolean `{value}`"
  | .int value => s!"integer `{value}`"
  | .real text => s!"floating point `{text}`"
  | .str value => s!"string {Text.quoted value}"
  | .list => "sequence"
  | .table => "map"

/-- Why a value cannot be taken. -/
inductive Mismatch where
  | wrongType (found : Found) (wanted : String)
  | wrongValue (found : Found) (wanted : String)
  | wrongLength (length : Nat) (wanted : String)
  | unknownChoice (name : String) (choices : List String)
  | missingField (name : String)
  | doubledField (name : String)
  | wantedChoice
  | choiceOfNone
  | choiceOfSeveral
  | choiceNotEmpty (wanted : String)
  | choiceNotTable (kind : String)
deriving DecidableEq, Repr

def Mismatch.message : Mismatch → String
  | .wrongType found wanted => s!"invalid type: {found.text}, expected {wanted}"
  | .wrongValue found wanted => s!"invalid value: {found.text}, expected {wanted}"
  | .wrongLength length wanted => s!"invalid length {length}, expected {wanted}"
  | .unknownChoice name choices =>
    let listed := String.intercalate ", " (choices.map fun c => s!"`{c}`")
    s!"unknown variant `{name}`, expected one of {listed}"
  | .missingField name => s!"missing field `{name}`"
  | .doubledField name => s!"duplicate field `{name}`"
  | .wantedChoice => "wanted string or table"
  | .choiceOfNone => "wanted exactly 1 element, found 0 elements"
  | .choiceOfSeveral => "wanted exactly 1 element, more than 1 element"
  | .choiceNotEmpty wanted => s!"expected empty {wanted}"
  | .choiceNotTable kind => s!"expected table, found {kind}"

end IngestWatch
