import IngestWatch.Decimal.Binary64
import IngestWatch.Json

/-!
The values of a TOML document. The members of a table keep the order in which
the document defines them.
-/

namespace IngestWatch

open Decimal

inductive Toml where
  | bool (value : Bool)
  | int (value : Int)
  | real (value : Extended)
  | str (value : String)
  /-- A date, a time or both, in normal form. -/
  | moment (text : String)
  /-- A list; `headed` if its items were written under headers of their own. -/
  | list (headed : Bool) (items : List Toml)
  | table (members : List (String × Toml))
deriving Repr, Inhabited

namespace Toml

/-- The one member that a date or time has where a table is wanted. -/
def momentKey : String := "$__toml_private_datetime"

/-- The members of a table. -/
def members? : Toml → Option (List (String × Toml))
  | .table members => some members
  | .moment text => some [(momentKey, .str text)]
  | _ => none

/-- The kind of a value by the grammar. -/
def kind : Toml → String
  | .bool _ => "boolean"
  | .int _ => "integer"
  | .real _ => "float"
  | .str _ => "string"
  | .moment _ => "datetime"
  | .list false _ => "array"
  | .list true _ => "array of tables"
  | .table _ => "table"

mutual

/-- The same value as JSON, which has no infinities. -/
def toJson : Toml → Json
  | .bool value => .bool value
  | .int value => .int value
  | .real (.finite value) => .real value
  | .real _ => .null
  | .str value => .str value
  | .moment text => .obj [(momentKey, .str text)]
  | .list _ items => .arr (itemsToJson items)
  | .table members => Json.ofMembers (membersToJson members)

def itemsToJson : List Toml → List Json
  | [] => []
  | item :: rest => item.toJson :: itemsToJson rest

def membersToJson : List (String × Toml) → List (String × Json)
  | [] => []
  | (key, value) :: rest => (key, value.toJson) :: membersToJson rest

end

end Toml

end IngestWatch
