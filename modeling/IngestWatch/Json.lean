import IngestWatch.Decimal.Binary64
import IngestWatch.Keyed

/-!
JSON values as the service sends them. Whole numbers that fit 64 bits stay
exact; every other number is a finite binary64 number. The members of an
object are kept in ascending order of their keys, each key once.
-/

namespace IngestWatch

open Decimal

inductive Json where
  | null
  | bool (value : Bool)
  | int (value : Int)
  | real (value : Binary64)
  | str (value : String)
  | arr (items : List Json)
  | obj (members : List (String × Json))
deriving Repr, Inhabited

namespace Json

/-- The largest whole number kept exact. -/
def maxInt : Int := 0xffffffffffffffff

/-- The smallest whole number kept exact. -/
def minInt : Int := -0x8000000000000000

/-- The member of an object; other values have none. -/
def field? (key : String) : Json → Option Json
  | .obj members => Keyed.find? key members
  | _ => none

/-- An object of any list of members; of two with one key the later counts. -/
def ofMembers (members : List (String × Json)) : Json :=
  .obj (Keyed.ofList members)

/-- The kind of a value as a noun phrase. -/
def kind : Json → String
  | .null => "null"
  | .bool _ => "a boolean"
  | .int _ | .real _ => "a number"
  | .str _ => "a string"
  | .arr _ => "an array"
  | .obj _ => "an object"

end Json

end IngestWatch
